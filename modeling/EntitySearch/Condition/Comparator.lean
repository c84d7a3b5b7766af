import EntitySearch.Keyed
import EntitySearch.Text.Blank
import EntitySearch.Text.LetterCase

/-! Comparators of filter conditions.

Keywords are read without regard to letter case, blanks around them,
underscores and spaces. A word that is no keyword means equality.
-/

set_option autoImplicit false

namespace EntitySearch

inductive Comparator
  | eq
  | ne
  | gt
  | ge
  | lt
  | le
  | like
  | startsWith
  | endsWith
  | isIn
  | notIn
  | notLike
  | between
  | isNull
  | isNotNull
  | isEmpty
  | isNotEmpty
  | or
  | and
  | case
  /-- Marks the branches of a case that apply when the others do not; compares like equality. -/
  | otherwise
  deriving DecidableEq, Repr

namespace Comparator

def name : Comparator → String
  | .eq => "EQ"
  | .ne => "NE"
  | .gt => "GT"
  | .ge => "GE"
  | .lt => "LT"
  | .le => "LE"
  | .like => "LIKE"
  | .startsWith => "STARTS_WITH"
  | .endsWith => "ENDS_WITH"
  | .isIn => "IN"
  | .notIn => "NOT_IN"
  | .notLike => "NOT_LIKE"
  | .between => "BETWEEN"
  | .isNull => "IS_NULL"
  | .isNotNull => "IS_NOT_NULL"
  | .isEmpty => "IS_EMPTY"
  | .isNotEmpty => "IS_NOT_EMPTY"
  | .or => "OR"
  | .and => "AND"
  | .case => "CASE"
  | .otherwise => "ELSE"

def keywords : Keyed Comparator :=
  [("NE", .ne), ("NEQ", .ne), ("NOTEQUAL", .ne), ("NOTEQUALS", .ne), ("!=", .ne), ("<>", .ne),
    ("GT", .gt), (">", .gt), ("GE", .ge), ("GTE", .ge), (">=", .ge),
    ("LT", .lt), ("<", .lt), ("LE", .le), ("LTE", .le), ("<=", .le),
    ("LIKE", .like), ("CONTAINS", .like), ("STARTSWITH", .startsWith), ("ENDSWITH", .endsWith),
    ("IN", .isIn), ("NOTIN", .notIn), ("NOTLIKE", .notLike), ("NOTCONTAINS", .notLike),
    ("BETWEEN", .between), ("ISNULL", .isNull), ("ISNOTNULL", .isNotNull),
    ("ISEMPTY", .isEmpty), ("ISNOTEMPTY", .isNotEmpty), ("OR", .or), ("AND", .and),
    ("CASE", .case), ("ELSE", .otherwise)]

def ofKeyword (word : String) : Comparator :=
  let letters := (Text.trimChars word.toList).filter fun c => c != '_' && c != ' '
  (Keyed.find? keywords (String.ofList (Text.upperChars letters))).getD .eq

def isComposite : Comparator → Bool
  | .and | .or | .case => true
  | _ => false

def isPattern : Comparator → Bool
  | .like | .startsWith | .endsWith | .notLike => true
  | _ => false

theorem ofKeyword_name (c : Comparator) : ofKeyword c.name = c := by
  cases c <;> decide +kernel

end Comparator

end EntitySearch
