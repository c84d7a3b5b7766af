import EntitySearch.Proofs.ObjectText
import EntitySearch.Proofs.Outcomes

/-! What an operand is read from.

A value that holds an object, itself or as its text, is read as that object, and
all else is a literal. The operands of an object are read from its parts, which
weigh less than the value that holds the object.
-/

set_option autoImplicit false

namespace EntitySearch

/-- The object that a value is, or that is its text. -/
inductive Json.Holds : Json → List (String × Json) → Prop
  | object (fields : List (String × Json)) : Holds (.object fields) fields
  | encoded {s : String} {fields : List (String × Json)} :
    Json.read? s = some (.object fields) → Holds (.string s) fields

namespace Condition

def keys : List String := ["comparador", "comparator", "values"]

/-- The values given, in an array or one by itself. -/
def rawValues (fields : Keyed Json) : List Json :=
  match Keyed.find? fields "values" with
  | none | some .null => []
  | some (.array items) => items
  | some single => [single]

end Condition

open Condition (isCondition rawValues)

def Operand.parts (fields : Keyed Json) : List Json :=
  if isCondition fields then rawValues fields else fields.map (·.2)

section
variable {raw item : Json} {fields : List (String × Json)}

theorem Condition.isCondition_iff :
    isCondition fields = true ↔ ∃ key ∈ Condition.keys, key ∈ Keyed.keys fields := by
  simp [isCondition, Condition.keys, Keyed.has, Keyed.keys, or_assoc]

theorem Condition.rawValues_array {items : List Json}
    (given : Keyed.find? fields "values" = some (.array items)) : rawValues fields = items := by
  rw [rawValues, given]

theorem Condition.rawValues_single (given : Keyed.find? fields "values" = some raw)
    (null : raw ≠ .null) (array : ∀ items, raw ≠ .array items) : rawValues fields = [raw] := by
  rw [rawValues, given]
  cases raw <;> simp_all

theorem Json.weight_le_of_mem {items : List Json} (held : item ∈ items) :
    item.weight ≤ Json.itemsWeight items := by
  induction items with
  | nil => cases held
  | cons first rest ih =>
    simp only [Json.itemsWeight]
    rcases List.mem_cons.mp held with rfl | held
    · omega
    · have := ih held
      omega

theorem Json.weight_lt_of_field {key : String} (held : (key, item) ∈ fields) :
    key.utf8ByteSize + item.weight < Json.fieldsWeight fields := by
  induction fields with
  | nil => cases held
  | cons entry rest ih =>
    obtain ⟨k, v⟩ := entry
    simp only [Json.fieldsWeight]
    rcases List.mem_cons.mp held with same | held
    · obtain ⟨rfl, rfl⟩ := Prod.mk.inj same
      omega
    · have := ih held
      omega

theorem Json.Holds.weight_lt (holds : raw.Holds fields) :
    Json.fieldsWeight fields + 2 ≤ raw.weight := by
  cases holds with
  | object => exact Nat.le_refl _
  | encoded read =>
    exact Nat.le_of_lt (Condition.weight_encoded?_lt (Condition.encoded?_eq_some.mpr read))

theorem Condition.weight_lt_of_rawValues (held : item ∈ rawValues fields) :
    item.weight < Json.fieldsWeight fields := by
  unfold rawValues at held
  split at held
  · cases held
  · cases held
  · next items found =>
    have listed := Condition.weight_find?_lt found
    have := Json.weight_le_of_mem held
    simp only [Json.weight] at listed
    omega
  · next single _ _ found =>
    obtain rfl := List.mem_singleton.mp held
    exact Condition.weight_find?_lt found

namespace Operand

theorem weight_lt_of_part (held : item ∈ parts fields) :
    item.weight < Json.fieldsWeight fields := by
  unfold parts at held
  split at held
  · exact Condition.weight_lt_of_rawValues held
  · obtain ⟨⟨key, value⟩, inside, rfl⟩ := List.mem_map.mp held
    have := Json.weight_lt_of_field inside
    dsimp only
    omega

theorem ofItems_eq (items : List Json) : ofItems items = items.mapM ofJson := by
  induction items with
  | nil => rw [ofItems]; rfl
  | cons raw rest ih => rw [ofItems, List.mapM_cons, ih]

theorem ofEntries_eq (fields : List (String × Json)) :
    ofEntries fields = fields.mapM fun entry => (ofJson entry.2).map (entry.1, ·) := by
  induction fields with
  | nil => rw [ofEntries]; rfl
  | cons entry rest ih =>
    rw [ofEntries, List.mapM_cons, ih]
    cases ofJson entry.2 <;> rfl

theorem ofJson_of_holds (holds : raw.Holds fields) : ofJson raw = ofFields fields := by
  cases holds with
  | object => rw [ofJson]
  | encoded read =>
    rw [ofJson]
    split
    · next found encoded =>
      rw [Condition.encoded?_eq_some, read] at encoded
      cases encoded
      rfl
    · next none =>
      rw [Condition.encoded?_eq_some.mpr read] at none
      cases none

theorem ofJson_literal (bare : ∀ fields, ¬raw.Holds fields) : ofJson raw = .ok (.literal raw) := by
  cases raw with
  | object fields => exact absurd (.object fields) (bare fields)
  | string s =>
    rw [ofJson]
    split
    · next fields encoded => exact absurd (.encoded (Condition.encoded?_eq_some.mp encoded)) (bare fields)
    · rfl
  | _ => rw [ofJson] <;> simp

end Operand

theorem Condition.ofFields_eq (fields : List (String × Json)) :
    Condition.ofFields fields = do
      let comparator ← readComparator fields
      let values ← (rawValues fields).mapM Operand.ofJson
      let trim ← readFlag fields "trim"
      let upper ← readFlag fields "upper"
      return ⟨comparator, values, trim, upper⟩ := by
  rw [Condition.ofFields]
  refine congrArg (readComparator fields >>= ·) (funext fun comparator => ?_)
  dsimp only
  split
  · next none => rw [rawValues, none]; rfl
  · next null => rw [rawValues, null]; rfl
  · next items listed => rw [rawValues_array listed, Operand.ofItems_eq]
  · next single null array given =>
    have alone := rawValues_single given null array
    rw [alone, List.mapM_cons]
    cases Operand.ofJson single <;> rfl

namespace Operand

theorem ofFields_condition (shaped : isCondition fields = true) :
    ofFields fields = (Condition.ofFields fields).map .condition := by
  rw [ofFields, if_pos shaped]
  cases Condition.ofFields fields <;> rfl

theorem ofFields_map (plain : isCondition fields = false) :
    ofFields fields =
      (fields.mapM fun entry => (ofJson entry.2).map (entry.1, ·)).map .fields := by
  rw [ofFields, if_neg (by simp [plain]), ofEntries_eq]
  cases fields.mapM fun entry => (ofJson entry.2).map (entry.1, ·) <;> rfl

end Operand

namespace Condition

def ofOperand : Operand → Condition
  | .condition c => c
  | operand => .of .eq [operand]

theorem ofJson_array (items : List Json) :
    ofJson (.array items) = (items.mapM Operand.ofJson).map (.of .isIn) := by
  rw [ofJson, Operand.ofItems_eq]
  cases items.mapM Operand.ofJson <;> rfl

theorem ofJson_value (array : ∀ items, raw ≠ .array items) :
    ofJson raw = (Operand.ofJson raw).map ofOperand := by
  rw [ofJson]
  · cases Operand.ofJson raw with
    | error e => rfl
    | ok operand => cases operand <;> rfl
  · exact array

end Condition

end

end EntitySearch
