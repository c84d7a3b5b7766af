import EntitySearch.Json.Reader

/-! What reading takes from a text.

Reading takes its text from the front and leaves a rest of it. A step of reading
takes a value, the items of a list or the fields of an object, with the bracket
or the brace that closes them.
-/

set_option autoImplicit false

namespace EntitySearch.Json

section
variable (steps : Nat) (cs : List Char)

/-- A value: one of three words, a string, a list, an object, or else a number. -/
inductive TakesValue : RawJson → List Char → Prop
  | null {rest : List Char} : skipGap cs = 'n' :: 'u' :: 'l' :: 'l' :: rest → TakesValue .null rest
  | true {rest : List Char} :
    skipGap cs = 't' :: 'r' :: 'u' :: 'e' :: rest → TakesValue (.bool true) rest
  | false {rest : List Char} :
    skipGap cs = 'f' :: 'a' :: 'l' :: 's' :: 'e' :: rest → TakesValue (.bool false) rest
  | string {inner rest : List Char} {s : Option String} :
    skipGap cs = '"' :: inner → readString inner = some (s, rest) → TakesValue (.string s) rest
  | noItems {inner rest : List Char} :
    skipGap cs = '[' :: inner → skipGap inner = ']' :: rest → TakesValue (.array []) rest
  | items {inner rest : List Char} {items : List RawJson} :
    skipGap cs = '[' :: inner → readRawItems steps (skipGap inner) = some (items, rest) →
    TakesValue (.array items) rest
  | noFields {inner rest : List Char} :
    skipGap cs = '\x7b' :: inner → skipGap inner = '\x7d' :: rest → TakesValue (.object []) rest
  | fields {inner rest : List Char} {fields : List (Option String × RawJson)} :
    skipGap cs = '\x7b' :: inner → readRawFields steps (skipGap inner) = some (fields, rest) →
    TakesValue (.object fields) rest
  | number {rest : List Char} {n : NumberText} :
    readNumber (skipGap cs) = some (n, rest) → TakesValue (.number n.value?) rest

inductive TakesItems : List RawJson → List Char → Prop
  | last {next rest : List Char} {item : RawJson} :
    readRaw steps cs = some (item, next) → skipGap next = ']' :: rest → TakesItems [item] rest
  | more {next others rest : List Char} {item : RawJson} {items : List RawJson} :
    readRaw steps cs = some (item, next) → skipGap next = ',' :: others →
    readRawItems steps others = some (items, rest) → TakesItems (item :: items) rest

inductive TakesField : Option String × RawJson → List Char → Prop
  | named {inner behind valued next : List Char} {key : Option String} {value : RawJson} :
    skipGap cs = '"' :: inner → readString inner = some (key, behind) →
    skipGap behind = ':' :: valued → readRaw steps valued = some (value, next) →
    TakesField (key, value) next

inductive TakesFields : List (Option String × RawJson) → List Char → Prop
  | last {next rest : List Char} {field : Option String × RawJson} :
    TakesField steps cs field next → skipGap next = '\x7d' :: rest → TakesFields [field] rest
  | more {next others rest : List Char} {field : Option String × RawJson}
    {fields : List (Option String × RawJson)} :
    TakesField steps cs field next → skipGap next = ',' :: others →
    readRawFields steps others = some (fields, rest) → TakesFields (field :: fields) rest

end

section
variable {steps : Nat} {cs rest : List Char}

theorem takes_value {raw : RawJson} (h : readRaw (steps + 1) cs = some (raw, rest)) :
    TakesValue steps cs raw rest := by
  rw [readRaw] at h
  split at h
  · next start =>
    cases h
    exact .null start
  · next start =>
    cases h
    exact .true start
  · next start =>
    cases h
    exact .false start
  · next start =>
    simp only [Option.bind_eq_bind, Option.bind_eq_some_iff] at h
    obtain ⟨_, read, last⟩ := h
    cases last
    exact .string start read
  · next start =>
    split at h
    · next close =>
      cases h
      exact .noItems start close
    · simp only [Option.bind_eq_bind, Option.bind_eq_some_iff] at h
      obtain ⟨_, read, last⟩ := h
      cases last
      exact .items start read
  · next start =>
    split at h
    · next close =>
      cases h
      exact .noFields start close
    · simp only [Option.bind_eq_bind, Option.bind_eq_some_iff] at h
      obtain ⟨_, read, last⟩ := h
      cases last
      exact .fields start read
  · simp only [Option.bind_eq_bind, Option.bind_eq_some_iff] at h
    obtain ⟨_, read, last⟩ := h
    cases last
    exact .number read

theorem takes_items {items : List RawJson}
    (h : readRawItems (steps + 1) cs = some (items, rest)) : TakesItems steps cs items rest := by
  rw [readRawItems] at h
  simp only [Option.bind_eq_bind, Option.bind_eq_some_iff] at h
  obtain ⟨_, read, h⟩ := h
  split at h
  · next comma =>
    simp only [Option.bind_eq_some_iff] at h
    obtain ⟨_, more, last⟩ := h
    cases last
    exact .more read comma more
  · next close =>
    cases h
    exact .last read close
  · cases h

theorem takes_fields {fields : List (Option String × RawJson)}
    (h : readRawFields (steps + 1) cs = some (fields, rest)) : TakesFields steps cs fields rest := by
  rw [readRawFields] at h
  split at h
  · next quote =>
    simp only [Option.bind_eq_bind, Option.bind_eq_some_iff] at h
    obtain ⟨_, readKey, h⟩ := h
    split at h
    · next colon =>
      simp only [Option.bind_eq_some_iff] at h
      obtain ⟨_, read, h⟩ := h
      have first := TakesField.named quote readKey colon read
      split at h
      · next comma =>
        simp only [Option.bind_eq_some_iff] at h
        obtain ⟨_, more, last⟩ := h
        cases last
        exact .more first comma more
      · next close =>
        cases h
        exact .last first close
      · cases h
    · cases h
  · cases h

theorem takes_number {n : NumberText} (h : readNumber cs = some (n, rest)) :
    ∃ tail whole behind next fraction exponent, tail <:+ cs ∧ spanDigits tail = (whole, behind) ∧
      whole ≠ [] ∧ readFraction behind = some (fraction, next) ∧
      readExponentPart next = some (exponent, rest) := by
  unfold readNumber at h
  split at h
  next _ negative tail sign =>
  have signed : tail <:+ cs := by
    split at sign <;> cases sign <;> simp
  split at h
  next _ whole behind span =>
  split at h
  · cases h
  · next digits =>
    simp only [Option.bind_eq_bind, Option.bind_eq_some_iff] at h
    obtain ⟨⟨fraction, next⟩, f, ⟨exponent, _⟩, e, last⟩ := h
    cases last
    refine ⟨tail, whole, behind, next, fraction, exponent, signed, span, ?_, f, e⟩
    rintro rfl
    simp at digits

theorem spanDigits_suffix {digits : List Char} (h : spanDigits cs = (digits, rest)) :
    rest <:+ cs := by
  cases h
  exact List.dropWhile_suffix _

theorem readFraction_suffix {fraction : Option (List Char)}
    (h : readFraction cs = some (fraction, rest)) : rest <:+ cs := by
  unfold readFraction at h
  split at h
  · next cs =>
    split at h
    · cases h
    · next digits r _ span =>
      cases h
      exact (spanDigits_suffix span).trans (List.suffix_cons '.' cs)
  · cases h
    exact List.suffix_refl _

theorem readExponentPart_suffix {exponent : Option (Bool × List Char)}
    (h : readExponentPart cs = some (exponent, rest)) : rest <:+ cs := by
  unfold readExponentPart at h
  split at h
  · next c cs =>
    split at h
    · split at h
      next _ negative tail sign =>
      have signed : tail <:+ cs := by
        split at sign <;> cases sign <;> simp
      split at h
      · cases h
      · next digits r _ span =>
        cases h
        exact ((spanDigits_suffix span).trans signed).trans (List.suffix_cons c cs)
    · cases h
      exact List.suffix_refl _
  · cases h
    exact List.suffix_refl _

theorem suffix_of_skipGap {c : Char} (h : skipGap cs = c :: rest) : c :: rest <:+ cs :=
  h ▸ List.dropWhile_suffix isGap

end

end EntitySearch.Json
