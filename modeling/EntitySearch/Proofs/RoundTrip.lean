import EntitySearch.Proofs.DecimalText
import EntitySearch.Proofs.IsoDates
import EntitySearch.Proofs.TimeText
import EntitySearch.Value.Order

/-! Reading values back from their text.

A literal that is read as a truth value, a whole number, a decimal or a time has
a text that is read as the same value again, whatever spelling the literal had.
-/

set_option autoImplicit false

namespace EntitySearch

namespace ScalarType

def isExact : ScalarType → Bool
  | .float32 | .float64 | .string | .char => false
  | _ => true

def bits? : ScalarType → Option Nat
  | .int16 => some 16
  | .int32 => some 32
  | .int64 => some 64
  | _ => none

end ScalarType

/-- The date of a time, for an instant that at offset zero. -/
def Value.date? : Value → Option Date
  | .date d => some d
  | .dateTime t => some t.date
  | .timestamp i => some i.utc.date
  | _ => none

namespace Coercion

open Calendar (readInternet?_text readInternet?_valid readDateTime?_text readDateTime?_valid)

variable {s : DateSettings} {r : Reading} {text : String} {i : Instant}

theorem read_eq_ok {type : ScalarType} {raw : Json} {v : Value}
    (read : Coercion.read s r (.scalar type) raw = .ok v) (present : v.isNull = false) :
    ∃ text, scalar? s r type text = some v := by
  rw [Coercion.read] at read
  split at read
  · cases read
    cases present
  · split at read
    · cases read
    · next text _ =>
      split at read
      · next found =>
        cases read
        exact ⟨text, found⟩
      · cases read

theorem localDate?_inRange {d : Date} (found : localDate? s text = some d) : d.inRange = true := by
  obtain ⟨pattern, -, read⟩ := List.exists_of_findSome?_eq_some found
  exact Calendar.inRange_of_readDate? read

theorem localDateTime?_valid {t : DateTime} (found : localDateTime? s text = some t) : t.Valid := by
  obtain ⟨pattern, -, read⟩ := List.exists_of_findSome?_eq_some found
  exact readDateTime?_valid read

theorem moment?_valid (found : (millis? text).or (internet? text) = some i) : i.utc.Valid := by
  rcases Option.or_eq_some_iff.mp found with millis | ⟨-, internet⟩
  · obtain ⟨_, -, millis⟩ := Option.bind_eq_some_iff.mp millis
    obtain ⟨_, -, millis⟩ := Option.bind_eq_some_iff.mp millis
    exact Instant.ofMillis?_valid millis
  · exact readInternet?_valid internet

theorem clockOfDate_valid : (clockOfDate s r).Valid := by
  rw [clockOfDate]
  split
  · exact ⟨by decide, by decide, by decide⟩
  · exact ⟨by decide, by decide, by decide⟩

theorem timestamp?_valid (minutes : s.offset % 60 = 0) (found : timestamp? s r text = some i) :
    i.utc.Valid := by
  rw [timestamp?] at found
  split at found
  · next moment =>
    cases found
    exact moment?_valid moment
  · split at found
    · next told => exact (localDateTime?_valid told).ofLocal? minutes found
    · split at found
      · next dated =>
        have valid : DateTime.Valid ⟨_, clockOfDate s r⟩ :=
          ⟨localDate?_inRange dated, clockOfDate_valid⟩
        exact valid.ofLocal? minutes found
      · obtain ⟨t, told, found⟩ := Option.bind_eq_some_iff.mp found
        exact (readDateTime?_valid told).ofLocal? minutes found

/-- The text of an instant is no number. -/
theorem millis?_text (valid : i.utc.Valid) (years : 0 ≤ i.utc.date.year ∧ i.utc.date.year ≤ 9999) :
    millis? i.text = none := by
  obtain ⟨y, m, n, date, year, -⟩ := Calendar.dateChars_spells valid.date years
  obtain ⟨c, others, rfl⟩ := List.exists_cons_of_length_eq_add_one year.length
  have digit : c.isDigit = true := year.digit c List.mem_cons_self
  have text : i.text.toList = c :: (others ++ '-' :: (m ++ '-' :: n ++ 'T' ::
      Calendar.clockChars i.utc.clock ++ ['Z'])) := by
    rw [Instant.text, String.toList_ofList, Calendar.dateTimeChars, date, Calendar.dated]
    simp
  -- The year makes a number of the first characters, but a mark follows it.
  have mixed : (i.text.toList.all Char.isDigit) = false := by
    rw [text]
    simp
  rw [millis?, text, Number.readInt?_of_digit _ digit, ← text, Number.readNat?, mixed,
    Bool.and_false]
  rfl

theorem moment?_text (valid : i.utc.Valid) (years : 0 ≤ i.utc.date.year ∧ i.utc.date.year ≤ 9999) :
    (millis? i.text).or (internet? i.text) = some i := by
  rw [millis?_text valid years, Option.none_or, internet?, readInternet?_text valid years]

theorem trim_instant (valid : i.utc.Valid) (years : 0 ≤ i.utc.date.year ∧ i.utc.date.year ≤ 9999) :
    Text.trim i.text = i.text := by
  have zulu : Text.isBlank 'Z' = false := by decide
  exact Text.trim_of_solid (List.forall_mem_append.mpr
    ⟨Calendar.dateTimeChars_solid valid years, List.forall_mem_singleton.mpr zulu⟩)

theorem int?_eq_some {low high : Int} {v : Value}
    (found : int? (Number.within low high) text = some v) :
    ∃ i, v = .int i ∧ low ≤ i ∧ i ≤ high := by
  obtain ⟨n, -, found⟩ := Option.bind_eq_some_iff.mp found
  obtain ⟨i, within, rfl⟩ := Option.map_eq_some_iff.mp found
  obtain ⟨inside, same⟩ := Option.ite_none_right_eq_some.mp within
  cases same
  exact ⟨n, rfl, inside⟩

theorem int?_text {low high i : Int} (inside : low ≤ i ∧ i ≤ high) :
    int? (Number.within low high) (Text.trim (Number.intText i)) = some (.int i) := by
  have within : Number.within low high i = some i := if_pos inside
  rw [Number.intText, Text.trim_of_solid (Number.intChars_solid i), int?, String.toList_ofList,
    Number.readInt?_intChars]
  show (Number.within low high i).map Value.int = _
  rw [within]
  rfl

/-- A value read by settings with the ISO patterns in front and an offset in full minutes is read
back from its text. -/
theorem scalar?_text (first : s.IsoFirst) (minutes : s.offset % 60 = 0) {type : ScalarType}
    (exact : type.isExact = true) {v : Value} (read : scalar? s r type text = some v)
    (years : ∀ d ∈ v.date?, 0 ≤ d.year ∧ d.year ≤ 9999) :
    ∃ w, scalar? s r type v.text = some w ∧ w.same v = true := by
  cases type <;> simp only [scalar?] at read ⊢
  case float32 | float64 | string | char => cases exact
  case bool =>
    obtain ⟨b, -, rfl⟩ := Option.map_eq_some_iff.mp read
    refine ⟨.bool b, ?_, BEq.rfl⟩
    cases b <;> rfl
  case int16 | int32 | int64 =>
    obtain ⟨i, rfl, inside⟩ := int?_eq_some read
    exact ⟨.int i, int?_text inside, BEq.rfl⟩
  case decimal =>
    obtain ⟨d, -, rfl⟩ := Option.map_eq_some_iff.mp read
    obtain ⟨e, found, scale, coefficient⟩ := Decimal.read?_text d
    have trimmed : Text.trim d.text = d.text := Text.trim_of_solid d.chars_solid
    refine ⟨.decimal e, ?_, ?_⟩
    · rw [Value.text, trimmed, found]
      rfl
    · show e.same d = true
      rw [Decimal.same, Decimal.aligned, Decimal.aligned, scale, coefficient]
      exact BEq.rfl
  case localDate =>
    obtain ⟨d, found, rfl⟩ := Option.map_eq_some_iff.mp read
    have inside := localDate?_inRange found
    obtain ⟨others, patterns⟩ := List.head?_eq_some_iff.mp first.dates
    have trimmed : Text.trim d.text = d.text :=
      Text.trim_of_solid (Calendar.dateChars_solid inside (years _ rfl))
    refine ⟨.date d, ?_, BEq.rfl⟩
    rw [Value.text, trimmed, localDate?, patterns, List.findSome?_cons,
      Calendar.readDate?_text inside (years _ rfl)]
    rfl
  case localDateTime =>
    obtain ⟨t, found, rfl⟩ := Option.map_eq_some_iff.mp read
    have valid := localDateTime?_valid found
    obtain ⟨others, patterns⟩ := List.head?_eq_some_iff.mp first.dateTimes
    have trimmed : Text.trim t.text = t.text :=
      Text.trim_of_solid (Calendar.dateTimeChars_solid valid (years _ rfl))
    refine ⟨.dateTime t, ?_, BEq.rfl⟩
    rw [Value.text, trimmed, localDateTime?, patterns, List.findSome?_cons,
      readDateTime?_text valid (years _ rfl)]
    rfl
  case timestamp =>
    obtain ⟨i, found, rfl⟩ := Option.map_eq_some_iff.mp read
    have valid := timestamp?_valid minutes found
    refine ⟨.timestamp i, ?_, BEq.rfl⟩
    rw [Value.text, trim_instant valid (years _ rfl), timestamp?,
      moment?_text valid (years _ rfl)]
    rfl
  case instant =>
    obtain ⟨i, found, rfl⟩ := Option.map_eq_some_iff.mp read
    have valid := moment?_valid found
    refine ⟨.timestamp i, ?_, BEq.rfl⟩
    rw [Value.text, trim_instant valid (years _ rfl), moment?_text valid (years _ rfl)]
    rfl
  case offsetDateTime =>
    obtain ⟨i, found, rfl⟩ := Option.map_eq_some_iff.mp read
    have valid := readInternet?_valid found
    refine ⟨.timestamp i, ?_, BEq.rfl⟩
    rw [Value.text, trim_instant valid (years _ rfl), internet?,
      readInternet?_text valid (years _ rfl)]
    rfl

theorem scalar?_range {type : ScalarType} {v : Value} (read : scalar? s r type text = some v)
    {bits : Nat} (width : type.bits? = some bits) :
    ∃ i, v = .int i ∧ -2 ^ (bits - 1) ≤ i ∧ i < 2 ^ (bits - 1) := by
  cases type <;> simp only [scalar?] at read <;> cases width
  all_goals
    obtain ⟨i, rfl, low, high⟩ := int?_eq_some read
    exact ⟨i, rfl, low, Int.lt_of_le_sub_one high⟩

/-- Under the default settings, the text of a value is read as the value again, for every type whose
values have an exact text and years of four digits. Whole numbers are in the range of their type. -/
theorem round_trip {type : ScalarType} (exact : type.isExact = true) {raw : Json} {v : Value}
    (read : Coercion.read {} r (.scalar type) raw = .ok v) (present : v.isNull = false)
    (years : ∀ d ∈ v.date?, 0 ≤ d.year ∧ d.year ≤ 9999) :
    (∃ w, Coercion.read {} r (.scalar type) (.string v.text) = .ok w ∧ w.same v = true) ∧
      ∀ bits ∈ type.bits?, ∃ i, v = .int i ∧ -2 ^ (bits - 1) ≤ i ∧ i < 2 ^ (bits - 1) := by
  obtain ⟨text, found⟩ := read_eq_ok read present
  have first := DateSettings.Built.isoFirst .default
  obtain ⟨w, again, same⟩ := scalar?_text first rfl exact found years
  exact ⟨⟨w, read_string again, same⟩, fun bits width => scalar?_range found width⟩

/-- A leap second in local spelling is written in the internet format, and read back from it. -/
theorem round_trip_leap :
    ∃ v, Coercion.read {} (.verbatim .eq) (.scalar .timestamp)
        (.string "31/12/2016 23:59:60") = .ok v ∧
      v.text = "2016-12-31T23:59:60Z" ∧
      ∃ w, Coercion.read {} (.verbatim .eq) (.scalar .timestamp) (.string v.text) = .ok w ∧
        w.same v = true := by
  have read : Coercion.read {} (.verbatim .eq) (.scalar .timestamp)
      (.string "31/12/2016 23:59:60") = .ok (.timestamp ⟨⟨⟨736328⟩, ⟨86399, 1000000000⟩⟩⟩) := rfl
  have years : ∀ d ∈ (Value.timestamp ⟨⟨⟨736328⟩, ⟨86399, 1000000000⟩⟩⟩).date?,
      0 ≤ d.year ∧ d.year ≤ 9999 := by
    rintro _ ⟨⟩
    decide
  exact ⟨_, read, rfl, (round_trip rfl read rfl years).1⟩

end Coercion

end EntitySearch
