import EntitySearch.Json.Steps

/-! What reading does to size.

A value read from text weighs at most the bytes of the text, and so each string
inside it is shorter than the text it was read from.
-/

set_option autoImplicit false

namespace EntitySearch.Json

def bytes : List Char → Nat
  | [] => 0
  | c :: cs => c.utf8Size + bytes cs

theorem bytes_append (a b : List Char) : bytes (a ++ b) = bytes a + bytes b := by
  induction a with
  | nil => simp [bytes]
  | cons c a ih => simp [bytes, ih, Nat.add_assoc]

theorem utf8ByteSize_ofList (cs : List Char) : (String.ofList cs).utf8ByteSize = bytes cs := by
  induction cs with
  | nil => simp [bytes]
  | cons c cs ih =>
    rw [← List.singleton_append, String.ofList_append, String.utf8ByteSize_append, ih,
      ← String.singleton_eq_ofList, String.utf8ByteSize_singleton, List.singleton_append, bytes]

theorem bytes_toList (s : String) : bytes s.toList = s.utf8ByteSize := by
  rw [← utf8ByteSize_ofList, String.ofList_toList]

theorem bytes_le_of_suffix {cs rest : List Char} (h : rest <:+ cs) : bytes rest ≤ bytes cs := by
  obtain ⟨front, rfl⟩ := h
  rw [bytes_append]
  exact Nat.le_add_left ..

theorem bytes_skipGap_le (cs : List Char) : bytes (skipGap cs) ≤ bytes cs :=
  bytes_le_of_suffix (List.dropWhile_suffix isGap)

theorem bytes_takeWhile_add_dropWhile (test : Char → Bool) (cs : List Char) :
    bytes (cs.takeWhile test) + bytes (cs.dropWhile test) = bytes cs := by
  rw [← bytes_append, List.takeWhile_append_dropWhile]

def Unit16.bytes : Unit16 → Nat
  | .letter c => c.utf8Size
  | .code _ => 6

def unitsBytes : List Unit16 → Nat
  | [] => 0
  | u :: us => u.bytes + unitsBytes us

theorem readUnits_bytes {cs : List Char} {units : List Unit16} {rest : List Char}
    (h : readUnits cs = some (units, rest)) : unitsBytes units + 1 + bytes rest ≤ bytes cs := by
  fun_induction readUnits cs generalizing units rest with
  | case1 => cases h
  | case2 r =>
    cases h
    simp [unitsBytes, bytes]
    decide
  -- The code of a unit counts for the six bytes that write it.
  | case3 a b c d r ih =>
    cases code : hexCode? a b c d with
    | none => simp [code] at h
    | some n =>
      cases more : readUnits r with
      | none => simp [code, more] at h
      | some pair =>
        obtain ⟨us, r'⟩ := pair
        simp [code, more] at h
        obtain ⟨rfl, rfl⟩ := h
        have := ih more
        have := a.utf8Size_pos
        have := b.utf8Size_pos
        have := c.utf8Size_pos
        have := d.utf8Size_pos
        have slash : ('\\' : Char).utf8Size = 1 := by decide
        have mark : ('u' : Char).utf8Size = 1 := by decide
        simp only [unitsBytes, Unit16.bytes, bytes, slash, mark]
        omega
  -- Two bytes write one character of ASCII.
  | case4 e r _ ih =>
    cases short : shortEscape? e with
    | none => simp [short] at h
    | some c =>
      cases more : readUnits r with
      | none => simp [short, more] at h
      | some pair =>
        obtain ⟨us, r'⟩ := pair
        simp [short, more] at h
        obtain ⟨rfl, rfl⟩ := h
        have := ih more
        have one : c.utf8Size = 1 := by
          unfold shortEscape? at short
          split at short <;> first | (cases short; decide) | cases short
        have := e.utf8Size_pos
        have slash : ('\\' : Char).utf8Size = 1 := by decide
        simp only [unitsBytes, Unit16.bytes, bytes, one, slash]
        omega
  | case5 => cases h
  | case6 c r _ _ _ _ ih =>
    cases more : readUnits r with
    | none => simp [more] at h
    | some pair =>
      obtain ⟨us, r'⟩ := pair
      simp [more] at h
      obtain ⟨rfl, rfl⟩ := h
      have := ih more
      simp only [unitsBytes, Unit16.bytes, bytes]
      omega

theorem joinUnits_bytes {units : List Unit16} {cs : List Char} (h : joinUnits units = some cs) :
    bytes cs ≤ unitsBytes units := by
  fun_induction joinUnits units generalizing cs with
  | case1 => cases h; simp [bytes]
  | case2 c rest ih =>
    obtain ⟨tail, read, rfl⟩ := Option.map_eq_some_iff.1 h
    have := ih read
    simp only [bytes, unitsBytes, Unit16.bytes]
    omega
  | case3 high low rest _ _ ih =>
    obtain ⟨tail, read, rfl⟩ := Option.map_eq_some_iff.1 h
    have := ih read
    have := (Char.ofNat (0x10000 + (high - 0xD800) * 0x400 + (low - 0xDC00))).utf8Size_le_four
    simp only [bytes, unitsBytes, Unit16.bytes]
    omega
  | case4 => cases h
  | case5 => cases h
  | case6 high low rest _ _ ih =>
    obtain ⟨tail, read, rfl⟩ := Option.map_eq_some_iff.1 h
    have tailBytes := ih read
    have := (Char.ofNat high).utf8Size_le_four
    simp only [bytes, unitsBytes, Unit16.bytes] at tailBytes ⊢
    omega
  | case7 => cases h
  | case8 n rest _ _ ih =>
    obtain ⟨tail, read, rfl⟩ := Option.map_eq_some_iff.1 h
    have := ih read
    have := (Char.ofNat n).utf8Size_le_four
    simp only [bytes, unitsBytes, Unit16.bytes]
    omega

def stringBytes (s : Option String) : Nat :=
  match s with
  | some s => s.utf8ByteSize
  | none => 0

theorem readString_bytes {cs rest : List Char} {s : Option String}
    (h : readString cs = some (s, rest)) : stringBytes s + 1 + bytes rest ≤ bytes cs := by
  unfold readString at h
  cases read : readUnits cs with
  | none => simp [read] at h
  | some pair =>
    obtain ⟨units, r⟩ := pair
    simp [read] at h
    obtain ⟨rfl, rfl⟩ := h
    have := readUnits_bytes read
    cases joined : joinUnits units with
    | none => simp only [stringBytes, Option.map_none]; omega
    | some chars =>
      have := joinUnits_bytes joined
      simp only [stringBytes, Option.map_some, utf8ByteSize_ofList]
      omega

theorem spanDigits_bytes {cs digits rest : List Char} (h : spanDigits cs = (digits, rest)) :
    bytes digits + bytes rest = bytes cs := by
  obtain ⟨rfl, rfl⟩ := Prod.mk.inj h
  exact bytes_takeWhile_add_dropWhile ..

theorem readNumber_bytes {cs rest : List Char} {n : NumberText}
    (h : readNumber cs = some (n, rest)) : 1 + bytes rest ≤ bytes cs := by
  obtain ⟨tail, whole, behind, next, _, _, signed, span, digits, fraction, exponent⟩ :=
    takes_number h
  have wholeBytes := spanDigits_bytes span
  have := bytes_le_of_suffix signed
  have := bytes_le_of_suffix (readFraction_suffix fraction)
  have := bytes_le_of_suffix (readExponentPart_suffix exponent)
  have : 1 ≤ bytes whole := by
    cases whole with
    | nil => exact absurd rfl digits
    | cons c _ =>
      have := c.utf8Size_pos
      simp only [bytes]
      omega
  omega

mutual

/-- Bytes of text that a raw value takes at least. -/
def rawWeight : RawJson → Nat
  | .string s => stringBytes s + 2
  | .array items => rawItemsWeight items + 2
  | .object fields => rawFieldsWeight fields + 2
  | _ => 1

def rawItemsWeight : List RawJson → Nat
  | [] => 0
  | item :: rest => rawWeight item + rawItemsWeight rest

def rawFieldsWeight : List (Option String × RawJson) → Nat
  | [] => 0
  | (key, value) :: rest => stringBytes key + 3 + rawWeight value + rawFieldsWeight rest

end

theorem bytes_cons_of_skipGap {cs rest : List Char} {c : Char} (h : skipGap cs = c :: rest) :
    1 + bytes rest ≤ bytes cs := by
  have := bytes_skipGap_le cs
  have := c.utf8Size_pos
  rw [h, bytes] at *
  omega

theorem bytes_word {cs rest : List Char} {c : Char} (word : List Char)
    (h : skipGap cs = c :: (word ++ rest)) : 1 + bytes rest ≤ bytes cs := by
  have := bytes_cons_of_skipGap h
  rw [bytes_append] at this
  omega

/-- With so many steps, what is read takes up the text that it weighs. -/
structure ReadsWithin (steps : Nat) : Prop where
  value : ∀ {cs rest raw}, readRaw steps cs = some (raw, rest) →
    rawWeight raw + bytes rest ≤ bytes cs
  items : ∀ {cs rest items}, readRawItems steps cs = some (items, rest) →
    rawItemsWeight items + 1 + bytes rest ≤ bytes cs
  fields : ∀ {cs rest fields}, readRawFields steps cs = some (fields, rest) →
    rawFieldsWeight fields + 1 + bytes rest ≤ bytes cs

section
variable {steps : Nat} {cs rest : List Char}

theorem readRaw_step (within : ReadsWithin steps) {raw : RawJson}
    (h : readRaw (steps + 1) cs = some (raw, rest)) : rawWeight raw + bytes rest ≤ bytes cs := by
  cases takes_value h with
  | null start => simpa only [rawWeight] using bytes_word ['u', 'l', 'l'] start
  | true start => simpa only [rawWeight] using bytes_word ['r', 'u', 'e'] start
  | false start => simpa only [rawWeight] using bytes_word ['a', 'l', 's', 'e'] start
  | string start read =>
    have := bytes_cons_of_skipGap start
    have := readString_bytes read
    simp only [rawWeight]
    omega
  | noItems start close =>
    have := bytes_cons_of_skipGap start
    have := bytes_cons_of_skipGap close
    simp only [rawWeight, rawItemsWeight]
    omega
  | @items inner _ _ start read =>
    have := bytes_cons_of_skipGap start
    have := bytes_skipGap_le inner
    have := within.items read
    simp only [rawWeight]
    omega
  | noFields start close =>
    have := bytes_cons_of_skipGap start
    have := bytes_cons_of_skipGap close
    simp only [rawWeight, rawFieldsWeight]
    omega
  | @fields inner _ _ start read =>
    have := bytes_cons_of_skipGap start
    have := bytes_skipGap_le inner
    have := within.fields read
    simp only [rawWeight]
    omega
  | number read =>
    have := readNumber_bytes read
    have := bytes_skipGap_le cs
    simp only [rawWeight]
    omega

theorem readRawItems_step (within : ReadsWithin steps) {items : List RawJson}
    (h : readRawItems (steps + 1) cs = some (items, rest)) :
    rawItemsWeight items + 1 + bytes rest ≤ bytes cs := by
  cases takes_items h with
  | last read close =>
    have := within.value read
    have := bytes_cons_of_skipGap close
    simp only [rawItemsWeight]
    omega
  | more read comma others =>
    have := within.value read
    have := bytes_cons_of_skipGap comma
    have := within.items others
    simp only [rawItemsWeight]
    omega

theorem takesField_bytes (within : ReadsWithin steps) {field : Option String × RawJson}
    (h : TakesField steps cs field rest) :
    stringBytes field.1 + 3 + rawWeight field.2 + bytes rest ≤ bytes cs := by
  obtain ⟨quote, readKey, colon, read⟩ := h
  have := bytes_cons_of_skipGap quote
  have := readString_bytes readKey
  have := bytes_cons_of_skipGap colon
  have := within.value read
  dsimp only
  omega

theorem readRawFields_step (within : ReadsWithin steps) {fields : List (Option String × RawJson)}
    (h : readRawFields (steps + 1) cs = some (fields, rest)) :
    rawFieldsWeight fields + 1 + bytes rest ≤ bytes cs := by
  cases takes_fields h with
  | last first close =>
    have := takesField_bytes within first
    have := bytes_cons_of_skipGap close
    simp only [rawFieldsWeight]
    omega
  | more first comma others =>
    have := takesField_bytes within first
    have := bytes_cons_of_skipGap comma
    have := within.fields others
    simp only [rawFieldsWeight]
    omega

end

theorem readRaw_bytes (steps : Nat) : ReadsWithin steps := by
  induction steps with
  | zero => constructor <;> simp [readRaw, readRawItems, readRawFields]
  | succ steps ih =>
    constructor
    · exact readRaw_step ih
    · exact readRawItems_step ih
    · exact readRawFields_step ih

theorem rawWeight_le_of_readText {text : String} {raw : RawJson} (h : readText? text = some raw) :
    rawWeight raw ≤ text.utf8ByteSize := by
  unfold readText? at h
  cases read : readRaw (2 * text.toList.length + 1) text.toList with
  | none => simp [read] at h
  | some pair =>
    obtain ⟨found, rest⟩ := pair
    simp [read] at h
    obtain ⟨_, rfl⟩ := h
    have := (readRaw_bytes _).value read
    rw [bytes_toList] at this
    omega

theorem fieldsWeight_put_le (fields : List (String × Json)) (key : String) (value : Json) :
    fieldsWeight (Keyed.put fields key value) ≤
      fieldsWeight fields + (key.utf8ByteSize + 3 + value.weight) := by
  induction fields with
  | nil => simp [Keyed.put, fieldsWeight]
  | cons entry rest ih =>
    obtain ⟨k, v⟩ := entry
    simp only [Keyed.put]
    split
    · next same =>
      subst same
      simp only [fieldsWeight]
      omega
    · simp only [fieldsWeight]
      omega

mutual

theorem weight_le_of_toJson (room : Nat) : (raw : RawJson) → {json : Json} →
    raw.toJson? room = some json → json.weight ≤ rawWeight raw
  | .null, _, h => by cases h; simp [weight, rawWeight]
  | .bool _, _, h => by cases h; simp [weight, rawWeight]
  | .number n, _, h => by
    obtain ⟨_, _, rfl⟩ := Option.map_eq_some_iff.1 h
    simp [weight, rawWeight]
  | .string s, _, h => by
    obtain ⟨t, rfl, rfl⟩ := Option.map_eq_some_iff.1 h
    simp [weight, rawWeight, stringBytes]
  | .array items, _, h => by
    rw [RawJson.toJson?] at h
    split at h
    · cases h
    · obtain ⟨its, read, rfl⟩ := Option.map_eq_some_iff.1 h
      have := itemsWeight_le_of_toJson (room - 1) items read
      simp only [weight, rawWeight]
      omega
  | .object fields, _, h => by
    rw [RawJson.toJson?] at h
    split at h
    · cases h
    · obtain ⟨fs, read, rfl⟩ := Option.map_eq_some_iff.1 h
      have := fieldsWeight_le_of_toJson (room - 1) [] fields read
      simp only [weight, rawWeight, fieldsWeight] at this ⊢
      omega

theorem itemsWeight_le_of_toJson (room : Nat) : (raws : List RawJson) → {items : List Json} →
    RawJson.itemsToJson? room raws = some items → itemsWeight items ≤ rawItemsWeight raws
  | [], _, h => by cases h; simp [itemsWeight, rawItemsWeight]
  | raw :: raws, _, h => by
    rw [RawJson.itemsToJson?] at h
    cases first : raw.toJson? room with
    | none => simp [first] at h
    | some item =>
      cases more : RawJson.itemsToJson? room raws with
      | none => simp [first, more] at h
      | some items =>
        simp [first, more] at h
        subst h
        have := weight_le_of_toJson room raw first
        have := itemsWeight_le_of_toJson room raws more
        simp only [itemsWeight, rawItemsWeight]
        omega

theorem fieldsWeight_le_of_toJson (room : Nat) (done : List (String × Json)) :
    (raws : List (Option String × RawJson)) → {fields : List (String × Json)} →
    RawJson.fieldsToJson? room done raws = some fields →
    fieldsWeight fields ≤ fieldsWeight done + rawFieldsWeight raws
  | [], _, h => by cases h; simp [rawFieldsWeight]
  | (none, _) :: _, _, h => by simp [RawJson.fieldsToJson?] at h
  | (some key, raw) :: raws, _, h => by
    rw [RawJson.fieldsToJson?] at h
    cases first : raw.toJson? room with
    | none => simp [first] at h
    | some value =>
      simp [first] at h
      have := weight_le_of_toJson room raw first
      have := fieldsWeight_le_of_toJson room _ raws h
      have := fieldsWeight_put_le done key value
      simp only [rawFieldsWeight, stringBytes]
      omega

end

/-- A value read from a text weighs at most the bytes of the text. -/
theorem weight_le_of_read {text : String} {json : Json} (h : read? text = some json) :
    json.weight ≤ text.utf8ByteSize := by
  unfold read? at h
  cases read : readText? text with
  | none => simp [read] at h
  | some raw =>
    simp [read] at h
    exact Nat.le_trans (weight_le_of_toJson _ raw h) (rawWeight_le_of_readText read)

end EntitySearch.Json
