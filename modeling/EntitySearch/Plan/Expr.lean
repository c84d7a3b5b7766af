import EntitySearch.Criteria.Basic
import EntitySearch.Plan.Function
import EntitySearch.Value.Basic

/-! Expressions and predicates of query plans. -/

set_option autoImplicit false

namespace EntitySearch

/-- The record that a field is read from: the root, or a joined record by the position of its
join. -/
inductive RowSource
  | root
  | join (index : Nat)
  deriving DecidableEq, Repr

structure FieldRef where
  source : RowSource
  /-- Attributes to pass through, and the attribute read. -/
  path : List String
  /-- The dotted path as it was written. -/
  qualified : String
  deriving DecidableEq, Repr

inductive CompareOp
  | eq
  | ne
  | lt
  | le
  | gt
  | ge
  deriving DecidableEq, Repr

def CompareOp.symbol : CompareOp → String
  | .eq => "="
  | .ne => "<>"
  | .lt => "<"
  | .le => "<="
  | .gt => ">"
  | .ge => ">="

def CompareOp.all : List CompareOp := [.eq, .ne, .lt, .le, .gt, .ge]

mutual

inductive Expr
  | field (f : FieldRef)
  | literal (v : Value)
  | upper (e : Expr)
  | trim (e : Expr)
  | length (e : Expr)
  /-- A named function, scalar or aggregate. -/
  | call (name : String) (args : List Expr)
  | case (condition : Predicate) (result : Expr) (otherwise : Option Expr)
  /-- The truth value of a predicate. -/
  | truth (p : Predicate)

inductive Predicate
  | compare (op : CompareOp) (left right : Expr)
  | isIn (e : Expr) (values : List Value) (negated : Bool)
  /-- Within a range, its ends included. -/
  | between (e : Expr) (low high : Value)
  | like (e : Expr) (pattern : String) (escape : Char)
  | isNull (e : Expr)
  | isNotNull (e : Expr)
  | isEmpty (e : Expr)
  | isNotEmpty (e : Expr)
  | isTrue (e : Expr)
  | and (parts : List Predicate)
  | or (parts : List Predicate)
  | not (p : Predicate)

end

instance : Inhabited Expr := ⟨.literal .null⟩

instance : Inhabited Predicate := ⟨.and []⟩

namespace Expr

mutual

/-- Whether an aggregate is called outside of conditions. -/
def hasAggregate : Expr → Bool
  | .call name args => isAggregate name || anyAggregate args
  | .upper e | .trim e | .length e => e.hasAggregate
  | .case _ result otherwise =>
    result.hasAggregate || (match otherwise with
      | some e => e.hasAggregate
      | none => false)
  | .field _ | .literal _ | .truth _ => false

def anyAggregate : List Expr → Bool
  | [] => false
  | e :: rest => e.hasAggregate || anyAggregate rest

end

end Expr

namespace Predicate

def compareTo (op : CompareOp) (e : Expr) (v : Value) : Predicate :=
  .compare op e (.literal v)

/-- A conjunction; a single part stands for itself. -/
def all : List Predicate → Predicate
  | [p] => p
  | parts => .and parts

def any : List Predicate → Predicate
  | [p] => p
  | parts => .or parts

def isCompound : Predicate → Bool
  | .and parts | .or parts => 1 < parts.length
  | _ => false

end Predicate

structure OrderTerm where
  expr : Expr
  direction : Direction

structure Selection where
  expr : Expr
  «alias» : Option String

def Selection.key (s : Selection) (position : Nat) : String :=
  match s.alias with
  | some key => key
  | none => "col_" ++ Number.intText position

end EntitySearch
