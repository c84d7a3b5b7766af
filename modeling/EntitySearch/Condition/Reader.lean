import EntitySearch.Condition.Basic
import EntitySearch.Json.Weight

/-! Reading conditions from loosely typed JSON.

An object with a comparator or values is a condition, any other object maps
fields to operands, and a string that holds an object is read as that object.
All else is a literal. Reading an encoded object ends because it weighs less
than the string it stood in.
-/

set_option autoImplicit false

namespace EntitySearch

namespace Condition

def isCondition (fields : Keyed Json) : Bool :=
  Keyed.has fields "comparador" || Keyed.has fields "comparator" || Keyed.has fields "values"

def looksEncoded (s : String) : Bool :=
  let cs := Text.trimChars s.toList
  cs.head? == some '\x7b' && cs.getLast? == some '\x7d'

def encoded? (s : String) : Option (List (String × Json)) :=
  if looksEncoded s then
    match Json.read? s with
    | some (.object fields) => some fields
    | _ => none
  else none

def readComparator (fields : Keyed Json) : Except DocumentError Comparator :=
  let found := match Keyed.find? fields "comparador" with
    | some raw => some raw
    | none => Keyed.find? fields "comparator"
  match found with
  | none | some .null => .ok .eq
  | some (.string word) => .ok (.ofKeyword word)
  | some other => .error (.invalidCondition (.comparatorNotText other))

/-- A flag that is set unless the document says otherwise. -/
def readFlag (fields : Keyed Json) (flag : String) : Except DocumentError Bool :=
  match Keyed.find? fields flag with
  | none | some .null => .ok true
  | some (.bool b) => .ok b
  | some other => .error (.invalidCondition (.flagNotBool flag other))

theorem weight_pos (json : Json) : 0 < json.weight := by
  cases json <;> simp [Json.weight]

theorem weight_find?_lt {fields : Keyed Json} {key : String} {json : Json}
    (h : Keyed.find? fields key = some json) : json.weight < Json.fieldsWeight fields := by
  induction fields with
  | nil => cases h
  | cons entry rest ih =>
    obtain ⟨k, v⟩ := entry
    simp only [Keyed.find?] at h
    simp only [Json.fieldsWeight]
    split at h
    · cases h
      omega
    · have := ih h
      omega

theorem weight_encoded?_lt {s : String} {fields : List (String × Json)}
    (h : encoded? s = some fields) : Json.fieldsWeight fields + 2 < (Json.string s).weight := by
  unfold encoded? at h
  split at h
  · split at h
    · next read =>
      cases h
      have := Json.weight_le_of_read read
      simp only [Json.weight] at this ⊢
      omega
    · cases h
  · cases h

end Condition

open Condition

mutual

def Operand.ofJson (raw : Json) : Except DocumentError Operand :=
  match raw with
  | .object fields => Operand.ofFields fields
  | .string s =>
    match _h : encoded? s with
    | some fields => Operand.ofFields fields
    | none => .ok (.literal raw)
  | _ => .ok (.literal raw)
termination_by (raw.weight, 0)
decreasing_by
  · exact Prod.Lex.left _ _ (by simp only [Json.weight]; omega)
  · exact Prod.Lex.left _ _ (by have := weight_encoded?_lt _h; omega)

def Operand.ofFields (fields : List (String × Json)) : Except DocumentError Operand :=
  if isCondition fields then do return .condition (← Condition.ofFields fields)
  else do return .fields (← Operand.ofEntries fields)
termination_by (Json.fieldsWeight fields, 2)

def Operand.ofEntries : List (String × Json) → Except DocumentError (List (String × Operand))
  | [] => .ok []
  | (field, raw) :: rest => do
    let operand ← Operand.ofJson raw
    let rest ← Operand.ofEntries rest
    return (field, operand) :: rest
termination_by fields => (Json.fieldsWeight fields, 1)
decreasing_by
  · exact Prod.Lex.left _ _ (by simp only [Json.fieldsWeight]; omega)
  · exact Prod.Lex.left _ _ (by simp only [Json.fieldsWeight]; omega)

def Operand.ofItems : List Json → Except DocumentError (List Operand)
  | [] => .ok []
  | raw :: rest => do
    let operand ← Operand.ofJson raw
    let rest ← Operand.ofItems rest
    return operand :: rest
termination_by items => (Json.itemsWeight items, 1)
decreasing_by
  · simp only [Json.itemsWeight]
    by_cases last : Json.itemsWeight rest = 0
    · rw [last]
      exact Prod.Lex.right _ (by omega)
    · exact Prod.Lex.left _ _ (by omega)
  · exact Prod.Lex.left _ _ (by have := weight_pos raw; simp only [Json.itemsWeight]; omega)

def Condition.ofFields (fields : List (String × Json)) : Except DocumentError Condition := do
  let comparator ← readComparator fields
  let values ←
    match _h : Keyed.find? fields "values" with
    | none | some .null => .ok []
    | some (.array items) => Operand.ofItems items
    | some single => (Operand.ofJson single).map ([·])
  let trim ← readFlag fields "trim"
  let upper ← readFlag fields "upper"
  return ⟨comparator, values, trim, upper⟩
termination_by (Json.fieldsWeight fields, 1)
decreasing_by
  · exact Prod.Lex.left _ _ (by have := weight_find?_lt _h; simp only [Json.weight] at this; omega)
  · exact Prod.Lex.left _ _ (weight_find?_lt _h)

end

/-- A condition as such; an array is short for membership, any other value for equality. -/
def Condition.ofJson (raw : Json) : Except DocumentError Condition :=
  match raw with
  | .array items => do return .of .isIn (← Operand.ofItems items)
  | raw => do
    match ← Operand.ofJson raw with
    | .condition c => return c
    | operand => return .of .eq [operand]

end EntitySearch
