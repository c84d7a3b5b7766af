import EntitySearch.Condition.Comparator
import EntitySearch.DocumentError
import EntitySearch.Json.Basic

/-! Filter conditions.

A condition has a comparator and a list of operands. An operand is a literal, a
condition on the same field, or a map from fields to operands of their own.
-/

set_option autoImplicit false

namespace EntitySearch

mutual

inductive Operand
  | literal (raw : Json)
  | condition (c : Condition)
  | fields (entries : List (String × Operand))

structure Condition where
  comparator : Comparator
  values : List Operand
  /-- Trim texts and columns before comparing. -/
  trim : Bool
  /-- Upper-case texts and columns before comparing. -/
  upper : Bool

end

instance : Inhabited Operand := ⟨.literal .null⟩

def Operand.literal? : Operand → Option Json
  | .literal raw => some raw
  | _ => none

namespace Condition

/-- A condition that trims and upper-cases. -/
def of (comparator : Comparator) (values : List Operand) : Condition :=
  ⟨comparator, values, true, true⟩

def expectedCount : Comparator → ValueCount
  | .between => .two
  | .isNull | .isNotNull | .isEmpty | .isNotEmpty => .zero
  | .case => .twoOrMore
  | _ => .oneOrMore

def validate (c : Condition) : Except DocumentError Unit :=
  let expected := expectedCount c.comparator
  if expected.allows c.values.length then .ok ()
  else .error (.wrongCount c.comparator expected c.values.length)

end Condition

end EntitySearch
