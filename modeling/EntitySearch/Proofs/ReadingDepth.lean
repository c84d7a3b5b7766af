import EntitySearch.Proofs.Operands

/-! Encoded objects inside encoded objects.

A string inside a value is shorter than the text that the value was read from,
so that each text decoded on the way is shorter than the one before. Reading an
operand to a limited depth therefore comes to an end when the depth is the
weight of the value, and its result is the operand.
-/

set_option autoImplicit false

namespace EntitySearch

/-- A string occurs in a value, at any depth, as a string or as a key. -/
inductive Json.Mentions (s : String) : Json → Prop
  | string : Mentions s (.string s)
  | item {item : Json} {items : List Json} :
    item ∈ items → Mentions s item → Mentions s (.array items)
  | key {value : Json} {fields : List (String × Json)} :
    (s, value) ∈ fields → Mentions s (.object fields)
  | field {key : String} {value : Json} {fields : List (String × Json)} :
    (key, value) ∈ fields → Mentions s value → Mentions s (.object fields)

theorem Json.Mentions.size_lt {s : String} {json : Json} (mentioned : json.Mentions s) :
    s.utf8ByteSize < json.weight := by
  induction mentioned with
  | string =>
    simp only [Json.weight]
    omega
  | item held _ ih =>
    have := Json.weight_le_of_mem held
    simp only [Json.weight]
    omega
  | key held =>
    have := Json.weight_lt_of_field held
    simp only [Json.weight]
    omega
  | field held _ ih =>
    have := Json.weight_lt_of_field held
    simp only [Json.weight]
    omega

/-- A reading of limited depth; it has no outcome when the depth is used up. -/
abbrev Limited (α : Type) : Type := ExceptT DocumentError Option α

namespace Limited

variable {α β : Type}

def settled (outcome : Except DocumentError α) : Limited α := some outcome

theorem settled_bind (outcome : Except DocumentError α) {f : α → Limited β}
    {g : α → Except DocumentError β} (same : ∀ a, f a = settled (g a)) :
    (settled outcome >>= f) = settled (outcome >>= g) := by
  cases outcome with
  | error e => rfl
  | ok a => exact same a

theorem settled_map (f : α → β) (outcome : Except DocumentError α) :
    f <$> settled outcome = settled (outcome.map f) := by
  cases outcome <;> rfl

theorem settled_mapM {f : α → Limited β} {g : α → Except DocumentError β} {xs : List α}
    (same : ∀ x ∈ xs, f x = settled (g x)) : xs.mapM f = settled (xs.mapM g) := by
  induction xs with
  | nil => rfl
  | cons x rest ih =>
    rw [List.mapM_cons, List.mapM_cons, same x List.mem_cons_self,
      ih fun y held => same y (List.mem_cons_of_mem x held)]
    exact settled_bind _ fun y => settled_bind _ fun ys => rfl

end Limited

open Condition (encoded? isCondition rawValues readComparator readFlag)
open Limited (settled)

section
variable (again : Json → Limited Operand)

def Condition.assemble (fields : List (String × Json)) : Limited Condition := do
  let comparator ← settled (readComparator fields)
  let values ← (rawValues fields).mapM again
  let trim ← settled (readFlag fields "trim")
  let upper ← settled (readFlag fields "upper")
  return ⟨comparator, values, trim, upper⟩

def Operand.assemble (fields : List (String × Json)) : Limited Operand :=
  if isCondition fields then .condition <$> Condition.assemble again fields
  else .fields <$> fields.mapM fun entry => (entry.1, ·) <$> again entry.2

end

/-- Reading to a depth: each operand inside another takes one step, and so does an object that a
string encodes. -/
def Operand.attempt : Nat → Json → Limited Operand
  | 0, _ => none
  | depth + 1, raw =>
    match raw with
    | .object parsed => Operand.assemble (attempt depth) parsed
    | .string s =>
      match encoded? s with
      | some parsed => attempt depth (.object parsed)
      | none => settled (.ok (.literal raw))
    | _ => settled (.ok (.literal raw))

section
variable {again : Json → Limited Operand} {fields : List (String × Json)}

theorem Operand.assemble_eq
    (same : ∀ raw ∈ parts fields, again raw = settled (Operand.ofJson raw)) :
    assemble again fields = settled (ofFields fields) := by
  by_cases shaped : isCondition fields = true
  · rw [parts, if_pos shaped] at same
    rw [assemble, if_pos shaped, ofFields_condition shaped, Condition.ofFields_eq,
      ← Limited.settled_map, Condition.assemble, Limited.settled_mapM same]
    refine congrArg (Operand.condition <$> ·) ?_
    refine Limited.settled_bind _ fun comparator => Limited.settled_bind _ fun values => ?_
    exact Limited.settled_bind _ fun trim => Limited.settled_bind _ fun upper => rfl
  · rw [parts, if_neg shaped] at same
    have each : ∀ entry ∈ fields, (entry.1, ·) <$> again entry.2 =
        settled ((ofJson entry.2).map (entry.1, ·)) := by
      intro entry held
      rw [same _ (List.mem_map_of_mem held), Limited.settled_map]
    rw [assemble, if_neg shaped, ofFields_map (Bool.eq_false_iff.mpr shaped),
      Limited.settled_mapM each, Limited.settled_map]

end

namespace Operand

theorem attempt_literal {depth : Nat} {raw : Json} (bare : ∀ fields, ¬raw.Holds fields) :
    attempt (depth + 1) raw = settled (.ok (.literal raw)) := by
  cases raw with
  | object parsed => exact absurd (.object parsed) (bare parsed)
  | string s =>
    rw [attempt]
    split
    · next parsed encoded =>
      exact absurd (.encoded (Condition.encoded?_eq_some.mp encoded)) (bare parsed)
    · rfl
  | null | bool | number | array => rfl

/-- To a depth of its weight, a value is read as an operand. -/
theorem attempt_eq {depth : Nat} {raw : Json} (deep : raw.weight ≤ depth) :
    attempt depth raw = settled (ofJson raw) := by
  induction depth generalizing raw with
  | zero =>
    have := Condition.weight_pos raw
    omega
  | succ depth ih =>
    by_cases held : ∃ fields, raw.Holds fields
    · obtain ⟨parsed, holds⟩ := held
      have lighter := holds.weight_lt
      cases holds with
      | object =>
        rw [attempt, ofJson_of_holds (.object parsed)]
        apply assemble_eq
        intro part held
        have := weight_lt_of_part held
        exact ih (by omega)
      -- The object weighs less than its text, and is read by the next step.
      | @encoded s _ read =>
        have again : attempt (depth + 1) (.string s) = attempt depth (.object parsed) := by
          rw [attempt, Condition.encoded?_eq_some.mpr read]
        rw [again, ofJson_of_holds (.encoded read), ← ofJson_of_holds (.object parsed)]
        apply ih
        have smaller := Json.weight_le_of_read read
        simp only [Json.weight] at smaller deep ⊢
        omega
    · have bare : ∀ fields, ¬raw.Holds fields := fun fields holds => held ⟨fields, holds⟩
      rw [attempt_literal bare, ofJson_literal bare]

/-- Every string inside a value is shorter than the text that the value was read from, and reading
an operand comes to an end, however deep texts are encoded in texts. -/
theorem reading_ends :
    (∀ text json, Json.read? text = some json → ∀ s, json.Mentions s →
      s.utf8ByteSize < text.utf8ByteSize) ∧
    ∀ raw depth, raw.weight ≤ depth → attempt depth raw = some (ofJson raw) := by
  refine ⟨fun text json read s mentioned => ?_, fun raw depth deep => attempt_eq deep⟩
  calc
    s.utf8ByteSize < json.weight := mentioned.size_lt
    _ ≤ text.utf8ByteSize := Json.weight_le_of_read read

end Operand

namespace Sample

def cityText : String := "\x7b\"city\": \"Oslo\"\x7d"

/-- A condition whose only value is an object, written as a text within its own text. -/
def encodedText : String := "\x7b\"values\": \"\x7b\\\"city\\\": \\\"Oslo\\\"\x7d\"\x7d"

def encoded : Json := .object [("values", .string cityText)]

theorem read_encodedText : Json.read? encodedText = some encoded := by
  cbv

end Sample

namespace Operand

theorem reading_ends_encoded :
    Sample.cityText.utf8ByteSize < Sample.encodedText.utf8ByteSize ∧
      attempt Sample.encodedText.utf8ByteSize Sample.encoded = some (ofJson Sample.encoded) :=
  have ⟨shorter, ends⟩ := reading_ends
  ⟨shorter _ _ Sample.read_encodedText _ (.field List.mem_cons_self .string),
    ends _ _ (Json.weight_le_of_read Sample.read_encodedText)⟩

end Operand

end EntitySearch
