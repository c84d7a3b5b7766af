import Mathlib.Data.List.TakeWhile
import EntitySearch.Condition.Reader

/-! Texts of objects.

Reading takes its text from the front and leaves a rest of it. A text that is
read as an object begins and ends with its braces, up to gaps, so that the test
for braces never turns such a text away.
-/

set_option autoImplicit false

namespace EntitySearch

namespace Json

theorem readUnits_suffix {cs rest : List Char} {units : List Unit16}
    (h : readUnits cs = some (units, rest)) : rest <:+ cs := by
  fun_induction readUnits cs generalizing units rest with
  | case1 | case5 => cases h
  | case2 r =>
    cases h
    exact List.suffix_cons '"' _
  | case3 a b c d r ih =>
    simp only [Option.bind_eq_bind, Option.bind_eq_some_iff] at h
    obtain ⟨n, -, ⟨us, r'⟩, more, last⟩ := h
    cases last
    exact (ih more).trans (List.suffix_append ['\\', 'u', a, b, c, d] r)
  | case4 e r _ ih =>
    simp only [Option.bind_eq_bind, Option.bind_eq_some_iff] at h
    obtain ⟨n, -, ⟨us, r'⟩, more, last⟩ := h
    cases last
    exact (ih more).trans (List.suffix_append ['\\', e] r)
  | case6 c r _ _ _ _ ih =>
    simp only [Option.bind_eq_bind, Option.bind_eq_some_iff] at h
    obtain ⟨⟨us, r'⟩, more, last⟩ := h
    cases last
    exact (ih more).trans (List.suffix_cons c r)

theorem readString_suffix {cs rest : List Char} {s : Option String}
    (h : readString cs = some (s, rest)) : rest <:+ cs := by
  simp only [readString, Option.bind_eq_bind, Option.bind_eq_some_iff] at h
  obtain ⟨⟨units, r⟩, read, last⟩ := h
  cases last
  exact readUnits_suffix read

theorem readNumber_suffix {cs rest : List Char} {n : NumberText}
    (h : readNumber cs = some (n, rest)) : rest <:+ cs := by
  obtain ⟨_, _, _, _, _, _, signed, span, -, fraction, exponent⟩ := takes_number h
  have behind := (readExponentPart_suffix exponent).trans (readFraction_suffix fraction)
  exact (behind.trans (spanDigits_suffix span)).trans signed

theorem skipGap_eq_nil {cs : List Char} : skipGap cs = [] ↔ ∀ c ∈ cs, isGap c = true := by
  simp only [skipGap, List.dropWhile_eq_nil_iff]

/-- With so many steps, what is read is taken from the front, with the bracket or brace that
closes it. -/
structure ReadsFront (steps : Nat) : Prop where
  value : ∀ {cs rest raw}, readRaw steps cs = some (raw, rest) → rest <:+ cs
  items : ∀ {cs rest items}, readRawItems steps cs = some (items, rest) → ']' :: rest <:+ cs
  fields : ∀ {cs rest fields}, readRawFields steps cs = some (fields, rest) → '\x7d' :: rest <:+ cs

section
variable {steps : Nat} {cs rest : List Char}

theorem readRaw_braces (front : ReadsFront steps) {fields : List (Option String × RawJson)}
    (h : readRaw (steps + 1) cs = some (.object fields, rest)) :
    ∃ inner, skipGap cs = '\x7b' :: inner ∧ '\x7d' :: rest <:+ inner := by
  cases takes_value h with
  | noFields start close => exact ⟨_, start, suffix_of_skipGap close⟩
  | fields start read => exact ⟨_, start, (front.fields read).trans (List.dropWhile_suffix isGap)⟩

theorem readRaw_front (front : ReadsFront steps) {raw : RawJson}
    (h : readRaw (steps + 1) cs = some (raw, rest)) : rest <:+ cs := by
  -- Whatever opens and closes the value stands before the rest.
  have opened {c : Char} {inner : List Char} (start : skipGap cs = c :: inner)
      (taken : rest <:+ inner) : rest <:+ cs :=
    (taken.trans (List.suffix_cons c inner)).trans (suffix_of_skipGap start)
  have closed {c : Char} {inner : List Char} (close : c :: rest <:+ inner) : rest <:+ inner :=
    (List.suffix_cons c rest).trans close
  cases takes_value h with
  | null start => exact opened start (List.suffix_append ['u', 'l', 'l'] rest)
  | true start => exact opened start (List.suffix_append ['r', 'u', 'e'] rest)
  | false start => exact opened start (List.suffix_append ['a', 'l', 's', 'e'] rest)
  | string start read => exact opened start (readString_suffix read)
  | noItems start close | noFields start close =>
    exact opened start (closed (suffix_of_skipGap close))
  | items start read =>
    exact opened start (closed ((front.items read).trans (List.dropWhile_suffix isGap)))
  | fields start read =>
    exact opened start (closed ((front.fields read).trans (List.dropWhile_suffix isGap)))
  | number read => exact (readNumber_suffix read).trans (List.dropWhile_suffix isGap)

theorem readRawItems_front (front : ReadsFront steps) {items : List RawJson}
    (h : readRawItems (steps + 1) cs = some (items, rest)) : ']' :: rest <:+ cs := by
  cases takes_items h with
  | last read close => exact (suffix_of_skipGap close).trans (front.value read)
  | more read comma others =>
    have separated := (List.suffix_cons ',' _).trans (suffix_of_skipGap comma)
    exact ((front.items others).trans separated).trans (front.value read)

theorem takesField_front (front : ReadsFront steps) {field : Option String × RawJson}
    (h : TakesField steps cs field rest) : rest <:+ cs := by
  obtain ⟨quote, readKey, colon, read⟩ := h
  have key := (readString_suffix readKey).trans
    ((List.suffix_cons '"' _).trans (suffix_of_skipGap quote))
  have value := (front.value read).trans
    ((List.suffix_cons ':' _).trans (suffix_of_skipGap colon))
  exact value.trans key

theorem readRawFields_front (front : ReadsFront steps) {fields : List (Option String × RawJson)}
    (h : readRawFields (steps + 1) cs = some (fields, rest)) : '\x7d' :: rest <:+ cs := by
  cases takes_fields h with
  | last first close => exact (suffix_of_skipGap close).trans (takesField_front front first)
  | more first comma others =>
    have separated := (List.suffix_cons ',' _).trans (suffix_of_skipGap comma)
    exact ((front.fields others).trans separated).trans (takesField_front front first)

end

theorem readsFront (steps : Nat) : ReadsFront steps := by
  induction steps with
  | zero => constructor <;> simp [readRaw, readRawItems, readRawFields]
  | succ steps ih =>
    constructor
    · exact readRaw_front ih
    · exact readRawItems_front ih
    · exact readRawFields_front ih

theorem toJson?_object {room : Nat} {raw : RawJson} {fields : List (String × Json)}
    (h : raw.toJson? room = some (.object fields)) : ∃ parts, raw = .object parts := by
  cases raw with
  | object parts => exact ⟨parts, rfl⟩
  | array items => simp [RawJson.toJson?] at h
  | null | bool | number | string => simp [RawJson.toJson?] at h

/-- A text that is read as an object: braces, with nothing but gaps outside. -/
theorem braces_of_read {text : String} {fields : List (String × Json)}
    (h : read? text = some (.object fields)) :
    ∃ inner gap, skipGap text.toList = '\x7b' :: (inner ++ '\x7d' :: gap) ∧ skipGap gap = [] := by
  simp only [read?, readText?, Option.bind_eq_bind, Option.bind_eq_some_iff] at h
  obtain ⟨raw, ⟨⟨found, rest⟩, read, last⟩, held⟩ := h
  obtain ⟨parts, rfl⟩ := toJson?_object held
  split at last
  · next ended =>
    cases last
    obtain ⟨inner, start, before, close⟩ := readRaw_braces (readsFront _) read
    exact ⟨before, rest, by rw [start, ← close], List.isEmpty_iff.mp ended⟩
  · cases last

end Json

namespace Text

theorem isBlank_of_isGap {c : Char} (h : Json.isGap c = true) : isBlank c = true := by
  simp only [Json.isGap, Bool.or_eq_true, beq_iff_eq] at h
  rcases h with ((rfl | rfl) | rfl) | rfl <;> decide

theorem dropWhile_skipGap (cs : List Char) :
    (Json.skipGap cs).dropWhile isBlank = cs.dropWhile isBlank := by
  induction cs with
  | nil => rfl
  | cons c cs ih =>
    by_cases gap : Json.isGap c = true
    · simp only [Json.skipGap, List.dropWhile_cons, gap, isBlank_of_isGap gap, if_true] at ih ⊢
      exact ih
    · simp [Json.skipGap, List.dropWhile_cons, gap]

end Text

namespace Condition

open Text

theorem looksEncoded_of_read {text : String} {fields : List (String × Json)}
    (h : Json.read? text = some (.object fields)) : looksEncoded text = true := by
  obtain ⟨inner, gap, start, ended⟩ := Json.braces_of_read h
  have brace : isBlank '\x7b' = false := by decide
  have close : isBlank '\x7d' = false := by decide
  have front : trimStartChars text.toList = '\x7b' :: (inner ++ '\x7d' :: gap) := by
    rw [trimStartChars, ← dropWhile_skipGap, start, List.dropWhile_cons, brace]
    rfl
  have blank : ∀ c ∈ gap.reverse, isBlank c = true := fun c held =>
    isBlank_of_isGap (Json.skipGap_eq_nil.mp ended c (List.mem_reverse.mp held))
  -- Gaps are blank, so trimming takes them from both ends and stops at the braces.
  have trimmed : trimChars text.toList = ('\x7b' :: inner) ++ ['\x7d'] := by
    rw [trimChars, front, trimEndChars]
    have reversed : ('\x7b' :: (inner ++ '\x7d' :: gap)).reverse =
        gap.reverse ++ '\x7d' :: (inner.reverse ++ ['\x7b']) := by simp
    rw [reversed, List.dropWhile_append_of_pos blank, List.dropWhile_cons, close]
    simp
  simp only [looksEncoded, trimmed, List.getLast?_concat]
  rfl

/-- A string encodes an object when it is the text of one. -/
theorem encoded?_eq_some {s : String} {fields : List (String × Json)} :
    encoded? s = some fields ↔ Json.read? s = some (.object fields) := by
  constructor
  · intro h
    unfold encoded? at h
    split at h
    · split at h
      · next read =>
        cases h
        exact read
      · cases h
    · cases h
  · intro h
    rw [encoded?, if_pos (looksEncoded_of_read h), h]

end Condition

end EntitySearch
