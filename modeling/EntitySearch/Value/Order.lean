import EntitySearch.Value.Basic

/-! Equality and order of values.

Numbers are compared by value across their representations: through decimals
when one side is a decimal, otherwise through doubles. Values of different
kinds are neither equal nor ordered.
-/

set_option autoImplicit false

namespace EntitySearch.Value

mutual

/-- Equality within one kind; the order of object fields does not count. -/
def same : Value → Value → Bool
  | .null, .null => true
  | .bool a, .bool b => a == b
  | .int a, .int b => a == b
  | .float a, .float b => a == b
  | .decimal a, .decimal b => a.same b
  | .string a, .string b => a == b
  | .timestamp a, .timestamp b => a == b
  | .date a, .date b => a == b
  | .dateTime a, .dateTime b => a == b
  | .object a, .object b => a.length == b.length && sameFields a b
  | .list a, .list b => sameItems a b
  | _, _ => false

def sameFields : List (String × Value) → List (String × Value) → Bool
  | [], _ => true
  | (key, value) :: rest, other =>
    (match Keyed.find? other key with
    | some found => value.same found
    | none => false) && sameFields rest other

def sameItems : List Value → List Value → Bool
  | [], [] => true
  | a :: as, b :: bs => a.same b && sameItems as bs
  | _, _ => false

end

def sameRecord (a b : Record) : Bool :=
  a.length == b.length && sameFields a b

def compareFloat (a b : Float) : Option Ordering :=
  if a < b then some .lt
  else if a == b then some .eq
  else if b < a then some .gt
  else none

def compareDecimal (a b : Value) : Option Ordering := do
  let a ← a.asDecimal?
  let b ← b.asDecimal?
  some (a.compare b)

def compareDouble (a b : Value) : Option Ordering := do
  let a ← a.asFloat?
  let b ← b.asFloat?
  compareFloat a b

def compare? (a b : Value) : Option Ordering :=
  match a, b with
  | .int a, .int b => some (compare a b)
  | .decimal _, .int _ | .decimal _, .float _ | .decimal _, .decimal _
  | .int _, .decimal _ | .float _, .decimal _ => compareDecimal a b
  | .int _, .float _ | .float _, .int _ | .float _, .float _ => compareDouble a b
  | .bool a, .bool b => some (compare a.toNat b.toNat)
  | .string a, .string b => some (compare a b)
  | .timestamp a, .timestamp b => some (a.compare b)
  | .date a, .date b => some (a.compare b)
  | .dateTime a, .dateTime b => some (a.compare b)
  | _, _ => none

def equals (a b : Value) : Bool :=
  if a.isNumeric && b.isNumeric then a.compare? b == some .eq else a.same b

/-- The order of sorting: nulls first, values without an order equal. -/
def sortOrder (a b : Value) : Ordering :=
  match a.isNull, b.isNull with
  | true, true => .eq
  | true, false => .lt
  | false, true => .gt
  | false, false => (a.compare? b).getD .eq

end EntitySearch.Value
