import EntitySearch.Proofs.Operands

/-! Which condition documents are accepted.

Reading a document looks at objects only where an operand is read, and of these
it checks the conditions: their comparator and their flags. A document is refused
exactly when it reaches a condition that is ill typed.
-/

set_option autoImplicit false

namespace EntitySearch

namespace Condition

/-- The value that names the comparator; `comparador` goes before `comparator`. -/
def comparatorValue? (fields : Keyed Json) : Option Json :=
  (Keyed.find? fields "comparador").or (Keyed.find? fields "comparator")

def flags : List String := ["trim", "upper"]

/-- What is wrong with the fields of a condition: a comparator that is neither a string nor null, or
a flag that is neither a boolean nor null. -/
inductive Faulty (fields : Keyed Json) : ConditionFault → Prop
  | comparator {raw : Json} : comparatorValue? fields = some raw → raw ≠ .null →
    (∀ word, raw ≠ .string word) → Faulty fields (.comparatorNotText raw)
  | flag {name : String} {raw : Json} : name ∈ flags → Keyed.find? fields name = some raw →
    raw ≠ .null → (∀ b, raw ≠ .bool b) → Faulty fields (.flagNotBool name raw)

section
variable {fields : Keyed Json} {name : String} {e : DocumentError}

theorem readComparator_eq :
    readComparator fields =
      match comparatorValue? fields with
      | none | some .null => .ok .eq
      | some (.string word) => .ok (.ofKeyword word)
      | some other => .error (.invalidCondition (.comparatorNotText other)) := by
  unfold readComparator comparatorValue?
  cases Keyed.find? fields "comparador" <;> rfl

theorem readComparator_error :
    readComparator fields = .error e ↔ ∃ raw, Faulty fields (.comparatorNotText raw) ∧
      e = .invalidCondition (.comparatorNotText raw) := by
  rw [readComparator_eq]
  constructor
  · intro h
    split at h
    · cases h
    · cases h
    · cases h
    · next other null text found =>
      cases h
      exact ⟨other, .comparator found null text, rfl⟩
  · rintro ⟨raw, ⟨found, null, text⟩, rfl⟩
    rw [found]
    split <;> simp_all

theorem readFlag_error (flag : name ∈ flags) :
    readFlag fields name = .error e ↔ ∃ raw, Faulty fields (.flagNotBool name raw) ∧
      e = .invalidCondition (.flagNotBool name raw) := by
  unfold readFlag
  constructor
  · intro h
    split at h
    · cases h
    · cases h
    · cases h
    · next other null bool found =>
      cases h
      exact ⟨other, .flag flag found null bool, rfl⟩
  · rintro ⟨raw, faulty, rfl⟩
    cases faulty with
    | flag _ found null bool =>
      rw [found]
      split <;> simp_all

/-- A condition that is not read has a fault of its own, or a value that is not read. -/
theorem ofFields_fails (h : Condition.ofFields fields = .error e) :
    (∃ fault, Faulty fields fault ∧ e = .invalidCondition fault) ∨
      ∃ item ∈ rawValues fields, Operand.ofJson item = .error e := by
  rw [ofFields_eq] at h
  obtain named | ⟨_, -, h⟩ := bind_error_inv h
  · obtain ⟨_, faulty, same⟩ := readComparator_error.mp named
    exact .inl ⟨_, faulty, same⟩
  obtain items | ⟨_, -, h⟩ := bind_error_inv h
  · exact .inr (mapM_fails items)
  obtain trim | ⟨_, -, h⟩ := bind_error_inv h
  · obtain ⟨_, faulty, same⟩ := (readFlag_error (by simp [flags])).mp trim
    exact .inl ⟨_, faulty, same⟩
  obtain upper | ⟨_, -, h⟩ := bind_error_inv h
  · obtain ⟨_, faulty, same⟩ := (readFlag_error (by simp [flags])).mp upper
    exact .inl ⟨_, faulty, same⟩
  · cases h

/-- A condition that is read has no fault, and all its values are read. -/
theorem ofFields_sound {c : Condition} (h : Condition.ofFields fields = .ok c) :
    (∀ fault, ¬Faulty fields fault) ∧
      ∀ item ∈ rawValues fields, ∃ operand, Operand.ofJson item = .ok operand := by
  rw [ofFields_eq] at h
  obtain ⟨_, named, h⟩ := bind_ok_inv h
  obtain ⟨_, items, h⟩ := bind_ok_inv h
  obtain ⟨_, trim, h⟩ := bind_ok_inv h
  obtain ⟨_, upper, -⟩ := bind_ok_inv h
  refine ⟨fun fault faulty => ?_, fun item held => ok_of_mapM items held⟩
  cases faulty with
  | comparator found null text =>
    cases named.symm.trans (readComparator_error.mpr ⟨_, .comparator found null text, rfl⟩)
  | @flag name _ flag found null bool =>
    have refused := (readFlag_error flag).mpr ⟨_, .flag flag found null bool, rfl⟩
    rcases List.mem_pair.mp flag with rfl | rfl
    · cases trim.symm.trans refused
    · cases upper.symm.trans refused

end

end Condition

open Condition (isCondition Faulty)

namespace Operand

/-- An object that reading an operand reaches. -/
inductive Readable : Json → List (String × Json) → Prop
  | here {raw : Json} {fields : List (String × Json)} : raw.Holds fields → Readable raw fields
  | part {raw inner : Json} {outer fields : List (String × Json)} :
    raw.Holds outer → inner ∈ parts outer → Readable inner fields → Readable raw fields

section
variable {raw : Json} {fields : List (String × Json)} {e : DocumentError}

theorem ofFields_fails (h : ofFields fields = .error e) :
    (isCondition fields = true ∧ ∃ fault, Faulty fields fault ∧ e = .invalidCondition fault) ∨
      ∃ inner ∈ parts fields, ofJson inner = .error e := by
  by_cases shaped : isCondition fields = true
  · rw [ofFields_condition shaped] at h
    rw [parts, if_pos shaped]
    exact (Condition.ofFields_fails (map_fails h)).imp_left fun faulty => ⟨shaped, faulty⟩
  · rw [ofFields_map (Bool.eq_false_iff.mpr shaped)] at h
    rw [parts, if_neg shaped]
    obtain ⟨entry, held, fails⟩ := mapM_fails (map_fails h)
    exact .inr ⟨entry.2, List.mem_map_of_mem held, map_fails fails⟩

theorem ofFields_sound {operand : Operand} (h : ofFields fields = .ok operand) :
    (isCondition fields = true → ∀ fault, ¬Faulty fields fault) ∧
      ∀ inner ∈ parts fields, ∃ part, ofJson inner = .ok part := by
  by_cases shaped : isCondition fields = true
  · rw [ofFields_condition shaped] at h
    rw [parts, if_pos shaped]
    obtain ⟨c, read, -⟩ := map_ok_inv h
    obtain ⟨faultless, values⟩ := Condition.ofFields_sound read
    exact ⟨fun _ => faultless, values⟩
  · rw [ofFields_map (Bool.eq_false_iff.mpr shaped)] at h
    rw [parts, if_neg shaped]
    refine ⟨fun condition => absurd condition shaped, fun inner held => ?_⟩
    obtain ⟨entry, there, rfl⟩ := List.mem_map.mp held
    obtain ⟨entries, read, -⟩ := map_ok_inv h
    obtain ⟨_, found⟩ := ok_of_mapM read there
    obtain ⟨part, value, -⟩ := map_ok_inv found
    exact ⟨part, value⟩

theorem ofJson_fails {raw : Json} {e : DocumentError} (h : ofJson raw = .error e) :
    ∃ fields fault, Readable raw fields ∧ isCondition fields = true ∧ Faulty fields fault ∧
      e = .invalidCondition fault := by
  by_cases held : ∃ fields, raw.Holds fields
  · obtain ⟨outer, holds⟩ := held
    rw [ofJson_of_holds holds] at h
    obtain ⟨shaped, fault, faulty, same⟩ | ⟨inner, part, fails⟩ := ofFields_fails h
    · exact ⟨outer, fault, .here holds, shaped, faulty, same⟩
    -- A part weighs less than the value, even when the value is the text of the object.
    · have lighter : inner.weight < raw.weight := by
        have := weight_lt_of_part part
        have := holds.weight_lt
        omega
      obtain ⟨fields, fault, reached, rest⟩ := ofJson_fails fails
      exact ⟨fields, fault, .part holds part reached, rest⟩
  · rw [ofJson_literal fun fields holds => held ⟨fields, holds⟩] at h
    cases h
termination_by raw.weight

theorem ofJson_sound {operand : Operand} (h : ofJson raw = .ok operand)
    (reached : Readable raw fields) (shaped : isCondition fields = true) (fault : ConditionFault) :
    ¬Faulty fields fault := by
  induction reached generalizing operand with
  | here holds =>
    rw [ofJson_of_holds holds] at h
    exact (ofFields_sound h).1 shaped fault
  | part holds inner _ ih =>
    rw [ofJson_of_holds holds] at h
    obtain ⟨part, read⟩ := (ofFields_sound h).2 _ inner
    exact ih read shaped

end

end Operand

namespace Condition

def roots : Json → List Json
  | .array items => items
  | raw => [raw]

def Readable (raw : Json) (fields : List (String × Json)) : Prop :=
  ∃ root ∈ roots raw, Operand.Readable root fields

theorem roots_value {raw : Json} (array : ∀ items, raw ≠ .array items) : roots raw = [raw] := by
  cases raw <;> simp_all [roots]

theorem ofJson_fails {raw : Json} {e : DocumentError} (h : ofJson raw = .error e) :
    ∃ root ∈ roots raw, Operand.ofJson root = .error e := by
  by_cases array : ∃ items, raw = .array items
  · obtain ⟨items, rfl⟩ := array
    rw [ofJson_array] at h
    exact mapM_fails (map_fails h)
  · have value : ∀ items, raw ≠ .array items := fun items same => array ⟨items, same⟩
    rw [ofJson_value value] at h
    exact ⟨raw, roots_value value ▸ List.mem_singleton_self raw, map_fails h⟩

theorem ofJson_sound {raw root : Json} {c : Condition} (h : ofJson raw = .ok c)
    (held : root ∈ roots raw) : ∃ operand, Operand.ofJson root = .ok operand := by
  by_cases array : ∃ items, raw = .array items
  · obtain ⟨items, rfl⟩ := array
    rw [ofJson_array] at h
    obtain ⟨values, read, -⟩ := map_ok_inv h
    exact ok_of_mapM read held
  · have value : ∀ items, raw ≠ .array items := fun items same => array ⟨items, same⟩
    rw [ofJson_value value] at h
    rw [roots_value value, List.mem_singleton] at held
    obtain ⟨operand, read, -⟩ := map_ok_inv h
    exact ⟨operand, held ▸ read⟩

/-- A document is refused exactly when it reaches a condition that is ill typed, and the error tells
the fault of such a condition. -/
theorem refused_iff (raw : Json) :
    ((∃ e, ofJson raw = .error e) ↔
      ∃ fields fault, Readable raw fields ∧ isCondition fields = true ∧ Faulty fields fault) ∧
    ∀ e, ofJson raw = .error e → ∃ fields fault,
      Readable raw fields ∧ isCondition fields = true ∧ Faulty fields fault ∧
        e = .invalidCondition fault := by
  have refused : ∀ e, ofJson raw = .error e → ∃ fields fault,
      Readable raw fields ∧ isCondition fields = true ∧ Faulty fields fault ∧
        e = .invalidCondition fault := by
    intro e h
    obtain ⟨root, held, fails⟩ := ofJson_fails h
    obtain ⟨fields, fault, reached, rest⟩ := Operand.ofJson_fails fails
    exact ⟨fields, fault, ⟨root, held, reached⟩, rest⟩
  refine ⟨⟨?_, ?_⟩, refused⟩
  · rintro ⟨e, h⟩
    obtain ⟨fields, fault, reached, shaped, faulty, -⟩ := refused e h
    exact ⟨fields, fault, reached, shaped, faulty⟩
  · rintro ⟨fields, fault, ⟨root, held, reached⟩, shaped, faulty⟩
    cases h : ofJson raw with
    | error e => exact ⟨e, rfl⟩
    | ok c =>
      obtain ⟨operand, read⟩ := ofJson_sound h held
      exact absurd faulty (Operand.ofJson_sound read reached shaped fault)

end Condition

namespace Sample

def untypedText : String := "\x7b\"comparator\": true\x7d"

def untyped : List (String × Json) := [("comparator", .bool true)]

def refused : Json := .array [.object [("city", .string untypedText)]]

/-- The condition stands in an array, which is a literal. -/
def unread : Json := .object [("city", .array [.object untyped])]

theorem read_untypedText : Json.read? untypedText = some (.object untyped) := by
  cbv

end Sample

namespace Condition

theorem refused_iff_untyped :
    ∃ e fault, ofJson Sample.refused = .error e ∧ e = .invalidCondition fault := by
  have ⟨fails, faults⟩ := refused_iff Sample.refused
  have reached : Readable Sample.refused Sample.untyped :=
    ⟨_, List.mem_singleton_self _, .part (.object _) (List.mem_singleton_self _)
      (.here (.encoded Sample.read_untypedText))⟩
  have faulty : Faulty Sample.untyped (.comparatorNotText (.bool true)) :=
    .comparator rfl (by simp) (by simp)
  obtain ⟨e, refused⟩ := fails.mpr ⟨_, _, reached, rfl, faulty⟩
  obtain ⟨_, fault, -, -, -, same⟩ := faults e refused
  exact ⟨e, fault, refused, same⟩

example : (ofJson Sample.unread).isOk = true := by
  cbv

end Condition

end EntitySearch
