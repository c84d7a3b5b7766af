import EntitySearch.Proofs.DateParts
import EntitySearch.Proofs.ValidTimes

/-! Reading date-times and instants back from their text.

The text of a time of day gives hour, minute and second by two digits each, and
the part of a second by as many groups of three digits as it needs. The ISO
pattern and the internet format read the same fields from it, which make the time
that was written.
-/

set_option autoImplicit false

namespace EntitySearch

theorem DateTime.shift?_zero {t : DateTime} (h : t.Valid) : t.shift? 0 = some t := by
  have day : Date.ofDay? (Calendar.dayOfEpoch + (t.epochSecond + 0) / 86400) = some t.date := by
    have second := h.clock.second
    have same : Calendar.dayOfEpoch + (t.epochSecond + 0) / 86400 = t.date.day := by
      rw [epochSecond]
      omega
    rw [same]
    exact if_pos h.date
  have second : ((t.epochSecond + 0) % 86400).toNat = t.clock.second := by
    have second := h.clock.second
    rw [epochSecond]
    omega
  rw [shift?, ofEpochSecond?, day, second]
  rfl

namespace Calendar

open Number (Digits digits_padded padded valueOf valueOf_padded)

variable {count : Nat} {cs rest : List Char} {fields out : Fields}

def EndsTime (rest : List Char) : Prop := ∀ c ∈ rest.head?, c.isDigit = false ∧ c ≠ '.'

theorem scanFraction_digits (h : Digits count cs) (filled : 0 < count) (short : count ≤ 9)
    (ends : EndsTime rest) :
    scanFraction (cs ++ rest) = .ok ((valueOf cs * Nat.pow 10 (9 - count) : Nat), rest) := by
  have stop : rest.takeWhile Char.isDigit = [] := by
    cases rest with
    | nil => rfl
    | cons c others => simp [(ends c rfl).1]
  have digits : (cs ++ rest).takeWhile Char.isDigit = cs := by
    rw [List.takeWhile_append_of_pos h.digit, stop, List.append_nil]
  have kept : cs.take 9 = cs := List.take_of_length_le (h.length.trans_le short)
  have some : cs.isEmpty = false := by
    cases cs with
    | nil => exact absurd h.length (Nat.ne_of_lt filled)
    | cons c others => rfl
  simp only [scanFraction, digits, kept, some, h.length, Bool.false_eq_true, if_false]
  rw [← h.length, List.drop_left, Int.natCast_mul]

theorem fractionChars_spells {nano : Nat} (small : nano < 1000000000) :
    nano = 0 ∧ fractionChars nano = [] ∨
    0 < nano ∧ ∃ count cs, fractionChars nano = '.' :: cs ∧ Digits count cs ∧
      (0 < count ∧ count ≤ 9) ∧ valueOf cs * Nat.pow 10 (9 - count) = nano := by
  rw [fractionChars]
  split
  · next none => exact .inl ⟨none, rfl⟩
  · next some =>
    refine .inr ⟨Nat.pos_of_ne_zero some, ?_⟩
    split
    · refine ⟨3, _, rfl, digits_padded (by decide) (by omega), by decide, ?_⟩
      rw [valueOf_padded]
      show nano / 1000000 * 1000000 = nano
      omega
    · split
      · refine ⟨6, _, rfl, digits_padded (by decide) (by omega), by decide, ?_⟩
        rw [valueOf_padded]
        show nano / 1000 * 1000 = nano
        omega
      · refine ⟨9, _, rfl, digits_padded (by decide) (by omega), by decide, ?_⟩
        rw [valueOf_padded]
        exact Nat.mul_one nano

def Field.ofClock : List Field := [.halfDay, .hourOfHalf, .minute, .second, .nano]

namespace Fields

def putNano (fields : Fields) (nano : Nat) : Fields :=
  if nano = 0 then fields else fields.put .nano nano

def putHour (fields : Fields) (hour : Nat) : Fields :=
  (fields.put .halfDay (hour / 12 : Nat)).put .hourOfHalf (hour % 12 : Nat)

/-- The fields with a time of day; a leap second is second 60. -/
def putClock (fields : Fields) (c : Clock) : Fields :=
  (((fields.putHour (c.second / 3600)).put .minute (c.second / 60 % 60 : Nat)).put .second
    (c.second % 60 + c.nano / 1000000000 : Nat)).putNano (c.nano % 1000000000)

theorem putClock_other {field : Field} (c : Clock) (other : field ∉ Field.ofClock) :
    fields.putClock c field = fields field := by
  simp only [Field.ofClock, List.mem_cons, List.not_mem_nil, or_false, not_or] at other
  rw [putClock, putNano]
  split <;> simp [put, putHour, other]

theorem toClock_congr {other : Fields}
    (same : ∀ field ∈ Field.ofClock, fields field = other field) :
    fields.toClock = other.toClock := by
  simp only [Field.ofClock, List.forall_mem_cons, List.not_mem_nil, false_implies, implies_true,
    and_true] at same
  simp only [toClock, same]

theorem toClock_putClock {c : Clock} (valid : c.Valid) (new : fields .nano = none) :
    (fields.putClock c).toClock = .ok c := by
  have held : ∀ field v, field ≠ Field.nano → (∀ g : Fields, g field = some v →
      (g.putNano (c.nano % 1000000000)) field = some v) := by
    intro field v other g given
    rw [putNano]
    split
    · exact given
    · rw [put, if_neg other, given]
  have half : fields.putClock c .halfDay = some ((c.second / 3600 / 12 : Nat) : Int) :=
    held _ _ (by decide) _ rfl
  have hour : fields.putClock c .hourOfHalf = some ((c.second / 3600 % 12 : Nat) : Int) :=
    held _ _ (by decide) _ rfl
  have minute : fields.putClock c .minute = some ((c.second / 60 % 60 : Nat) : Int) :=
    held _ _ (by decide) _ rfl
  have second : fields.putClock c .second =
      some ((c.second % 60 + c.nano / 1000000000 : Nat) : Int) :=
    held _ _ (by decide) _ rfl
  have nano : (fields.putClock c .nano).getD 0 = ((c.nano % 1000000000 : Nat) : Int) := by
    rw [putClock, putNano]
    split
    · next whole =>
      rw [whole]
      exact congrArg (Option.getD · 0) new
    · rfl
  obtain ⟨inDay, small, leap⟩ := valid
  -- A leap second was written as second 60, which stands for second 59 and 10⁹ nanoseconds more.
  simp only [toClock, half, hour, minute, second, nano, required, ok_bind, Option.getD_some,
    Option.isNone_some, Bool.and_false, Bool.false_eq_true, if_false, beq_iff_eq]
  have parts : ∀ {second nano : Nat}, second = c.second → nano = c.nano →
      (.ok ⟨second, nano⟩ : Except Fault Clock) = .ok c := by
    rintro _ _ rfl rfl
    rfl
  apply parts
  all_goals
    split <;> omega

end Fields

theorem read_fraction (fields : Fields) {nano : Nat} (small : nano < 1000000000) (new : fields .nano = none)
    (ends : EndsTime rest) :
    Item.fraction.read fields (fractionChars nano ++ rest) = .ok (fields.putNano nano, rest) := by
  rcases fractionChars_spells small with
    ⟨rfl, none⟩ | ⟨some, count, cs, written, digits, ⟨filled, short⟩, value⟩
  · rw [none, List.nil_append]
    unfold Item.read
    dsimp only
    split
    · exact absurd rfl (ends '.' rfl).2
    · rfl
  · have stored : fields.setWithin 0 999999999 .nano nano = .ok (fields.put .nano nano) :=
      Fields.setWithin_new (by omega) new
    rw [written, List.cons_append, Fields.putNano, if_neg some.ne']
    simp only [Item.read, scanFraction_digits digits filled short ends, value]
    show storeNano fields (nano, rest) = _
    rw [storeNano, stored]
    rfl

theorem clockChars_spells {c : Clock} (valid : c.Valid) :
    ∃ h m n, clockChars c = h ++ ':' :: (m ++ ':' :: (n ++ fractionChars (c.nano % 1000000000))) ∧
      Digits 2 h ∧ Digits 2 m ∧ Digits 2 n ∧ valueOf h = c.second / 3600 ∧
      valueOf m = c.second / 60 % 60 ∧ valueOf n = c.second % 60 + c.nano / 1000000000 := by
  obtain ⟨inDay, small, -⟩ := valid
  refine ⟨padded 2 (c.second / 3600), padded 2 (c.second / 60 % 60),
    padded 2 (c.second % 60 + c.nano / 1000000000), ?_, digits_padded (by decide) (by omega),
    digits_padded (by decide) (by omega), digits_padded (by decide) (by omega),
    valueOf_padded _ _, valueOf_padded _ _, valueOf_padded _ _⟩
  simp [clockChars]

namespace Fields

structure Timeless (fields : Fields) : Prop where
  halfDay : fields .halfDay = none
  hourOfHalf : fields .hourOfHalf = none
  minute : fields .minute = none
  second : fields .second = none
  nano : fields .nano = none

theorem store_hour (hour : Nat) (inDay : hour < 24) (new : fields.Timeless) :
    Numeral.hour.store fields hour = .ok (fields.putHour hour) := by
  rw [Numeral.store, setHour, if_pos (by omega)]
  show (fields.set .halfDay (hour / 12 : Nat) >>= fun fields =>
    fields.set .hourOfHalf (hour % 12 : Nat)) = _
  rw [set_new _ new.halfDay]
  exact set_new _ new.hourOfHalf

theorem store_minute (hour minute : Nat) (within : minute < 60) (new : fields.Timeless) :
    Numeral.minute.store (fields.putHour hour) minute =
      .ok ((fields.putHour hour).put .minute minute) :=
  setWithin_new (by omega) new.minute

theorem store_second (hour : Nat) (minute : Int) (second : Nat) (within : second ≤ 60)
    (new : fields.Timeless) :
    Numeral.second.store ((fields.putHour hour).put .minute minute) second =
      .ok (((fields.putHour hour).put .minute minute).put .second second) :=
  setWithin_new (by omega) new.second

end Fields

theorem readItems_clock {c : Clock} (valid : c.Valid) (new : fields.Timeless) (ends : EndsTime rest)
    (items : List Item) :
    readItems (clockItems ++ .fraction :: items) fields (clockChars c ++ rest) =
      readItems items (fields.putClock c) rest := by
  obtain ⟨h, m, n, written, hour, minute, second, hourValue, minuteValue, secondValue⟩ :=
    clockChars_spells valid
  obtain ⟨inDay, small, -⟩ := valid
  have nanoNew : (((fields.putHour (valueOf h)).put .minute (valueOf m)).put .second (valueOf n))
      .nano = none := new.nano
  simp only [clockItems, written, List.cons_append, List.nil_append, List.append_assoc]
  have hourStored := Fields.store_hour (valueOf h) (by omega) new
  have minuteStored := Fields.store_minute (valueOf h) (valueOf m) (by omega) new
  have secondStored := Fields.store_second (valueOf h) (valueOf m) (valueOf n) (by omega) new
  rw [readItems_cons _ (read_number rfl hour (by decide) (by decide) _ hourStored),
    readItems_cons _ (read_mark ':' _ _),
    readItems_cons _ (read_number rfl minute (by decide) (by decide) _ minuteStored),
    readItems_cons _ (read_mark ':' _ _),
    readItems_cons _ (read_number rfl second (by decide) (by decide) _ secondStored),
    readItems_cons _ (read_fraction _ (by omega) nanoNew ends)]
  rw [Fields.putClock, hourValue, minuteValue, secondValue]

namespace Fields

/-- The fields name a date-time, and no timestamp does. -/
structure Spells (fields : Fields) (t : DateTime) : Prop where
  date : fields.toDate = .ok t.date
  clock : fields.toClock = .ok t.clock
  plain : fields .timestamp = none

theorem Spells.toDateTime {t : DateTime} (h : fields.Spells t) (offset : Int) :
    fields.toDateTime offset = .ok t := by
  rw [Fields.toDateTime, h.date, h.clock, h.plain]

theorem ofDate_timeless (year month day : Int) : (ofDate year month day).Timeless :=
  ⟨rfl, rfl, rfl, rfl, rfl⟩

theorem spells_putClock {year month day : Nat} {t : DateTime}
    (named : Date.ofMonthDay? year month day = some t.date) (valid : t.clock.Valid)
    (same : ∀ field, field ≠ .offset →
      fields field = ((ofDate year month day).putClock t.clock) field) : fields.Spells t := by
  constructor
  · have dated : ∀ field ∈ Field.ofDate, fields field = ofDate year month day field := by
      intro field held
      rw [same field (by rintro rfl; exact absurd held (by decide))]
      refine putClock_other t.clock fun timed => ?_
      revert held timed
      cases field <;> decide
    rw [toDate_eq dated, Int.toNat_natCast, Int.toNat_natCast, named]
    rfl
  · have timed : ∀ field ∈ Field.ofClock,
        fields field = ((ofDate year month day).putClock t.clock) field := by
      intro field held
      exact same field (by rintro rfl; exact absurd held (by decide))
    rw [toClock_congr timed, toClock_putClock valid rfl]
  · rw [same .timestamp (by decide), putClock_other t.clock (by decide)]
    rfl

end Fields

theorem readDateTime?_text {t : DateTime} (valid : t.Valid)
    (years : 0 ≤ t.date.year ∧ t.date.year ≤ 9999) : readDateTime? isoDateTime t.text = some t := by
  obtain ⟨y, m, n, written, year, month, day, named⟩ := dateChars_spells valid.date years
  obtain ⟨months, days⟩ := Date.ofMonthDay?_bounds named
  have items : itemsOf isoDateTime =
      dateItems '-' ++ .literal ['T'] :: (clockItems ++ .fraction :: []) := by decide
  have new := Fields.ofDate_timeless (valueOf y) (valueOf m) (valueOf n)
  have ends : EndsTime [] := nofun
  have clock := readItems_clock valid.clock new ends []
  rw [List.append_nil, readItems] at clock
  have read : readFields isoDateTime t.text =
      .ok ((Fields.ofDate (valueOf y) (valueOf m) (valueOf n)).putClock t.clock) := by
    rw [readFields, items, DateTime.text, String.toList_ofList, dateTimeChars, written,
      readItems_date year month day months days, readItems_cons _ (read_mark 'T' _ _), clock]
    rfl
  rw [readDateTime?, read]
  show (Fields.toDateTime _ 0).toOption = some t
  rw [(Fields.spells_putClock named valid.clock fun _ _ => rfl).toDateTime]
  rfl

theorem scanExact_digits {count : Nat} {cs : List Char} (h : Digits count cs) (short : count ≤ 18)
    (rest : List Char) : scanExact count (cs ++ rest) = .ok ((valueOf cs : Int), rest) :=
  scanNumber_digits h short (Nat.le_refl count) rest

theorem scanInternet_text {t : DateTime} {y m n : List Char} (date : dateChars t.date = dated y m n)
    (year : Digits 4 y) (month : Digits 2 m) (day : Digits 2 n)
    (months : 1 ≤ valueOf m ∧ valueOf m ≤ 12) (days : 1 ≤ valueOf n ∧ valueOf n ≤ 31)
    (valid : t.clock.Valid) : scanInternet (dateTimeChars t ++ ['Z']) =
      .ok (((Fields.ofDate (valueOf y) (valueOf m) (valueOf n)).putClock t.clock).put .offset 0) := by
  obtain ⟨h, k, s, clock, hour, minute, second, hourValue, minuteValue, secondValue⟩ :=
    clockChars_spells valid
  obtain ⟨inDay, small, -⟩ := valid
  have new := Fields.ofDate_timeless (valueOf y) (valueOf m) (valueOf n)
  have mark : ∀ (c : Char) (rest : List Char), scanMark c (c :: rest) = .ok rest :=
    fun c rest => if_pos rfl
  have between : ∀ (fields : Fields) (rest : List Char),
      Item.dateTimeMark.read fields ('T' :: rest) = .ok (fields, rest) :=
    fun fields rest => by simp [Item.read]
  have fraction : scanOptionalFraction _ (fractionChars (t.clock.nano % 1000000000) ++ ['Z']) = _ :=
    read_fraction ((((Fields.ofDate (valueOf y) (valueOf m) (valueOf n)).putHour
      (valueOf h)).put .minute (valueOf k)).put .second (valueOf s)) (by omega) rfl (by
        rintro _ ⟨⟩
        decide)
  have zulu : scanOffset passColon true false ['Z'] = .ok (0, []) := rfl
  simp only [scanInternet, dateTimeChars, date, dated, clock, List.append_assoc, List.cons_append,
    scanExact_digits year (by decide), scanExact_digits month (by decide),
    scanExact_digits day (by decide), scanExact_digits hour (by decide),
    scanExact_digits minute (by decide), scanExact_digits second (by decide), ok_bind, mark, between,
    store_year year, store_month months, store_day days,
    Fields.store_hour (valueOf h) (by omega) new,
    Fields.store_minute (valueOf h) (valueOf k) (by omega) new,
    Fields.store_second (valueOf h) (valueOf k) (valueOf s) (by omega) new, fraction, zulu]
  rw [if_neg (by decide), hourValue, minuteValue, secondValue]
  exact Fields.set_new 0 (Fields.putClock_other t.clock (by decide))

theorem Fields.Spells.toInstant {i : Instant} (h : fields.Spells i.utc)
    (zulu : fields .offset = some 0) (valid : i.utc.Valid) : fields.toInstant = .ok i := by
  have kept : Instant.ofLocal? 0 i.utc = some i := by
    rw [Instant.ofLocal?, Int.neg_zero, DateTime.shift?_zero valid]
    rfl
  simp only [Fields.toInstant, zulu, h.toDateTime, ok_bind, kept]
  rfl

theorem readInternet?_text {i : Instant} (valid : i.utc.Valid)
    (years : 0 ≤ i.utc.date.year ∧ i.utc.date.year ≤ 9999) : readInternet? i.text = some i := by
  obtain ⟨y, m, n, written, year, month, day, named⟩ := dateChars_spells valid.date years
  obtain ⟨months, days⟩ := Date.ofMonthDay?_bounds named
  have scanned := scanInternet_text written year month day months days valid.clock
  have spelled : Fields.Spells (((Fields.ofDate (valueOf y) (valueOf m) (valueOf n)).putClock
      i.utc.clock).put .offset 0) i.utc :=
    Fields.spells_putClock named valid.clock fun field other => if_neg other
  rw [readInternet?, Instant.text, String.toList_ofList, scanned]
  exact congrArg Except.toOption (spelled.toInstant rfl valid)

theorem dateTimeChars_solid {t : DateTime} (valid : t.Valid)
    (years : 0 ≤ t.date.year ∧ t.date.year ≤ 9999) :
    ∀ c ∈ dateTimeChars t, Text.isBlank c = false := by
  obtain ⟨h, k, s, clock, hour, minute, second, -⟩ := clockChars_spells valid.clock
  have between : Text.isBlank 'T' = false := by decide
  have mark : Text.isBlank ':' = false := by decide
  have point : Text.isBlank '.' = false := by decide
  have fraction : ∀ c ∈ fractionChars (t.clock.nano % 1000000000), Text.isBlank c = false := by
    rcases fractionChars_spells (Nat.mod_lt t.clock.nano (by decide : 0 < 1000000000)) with
      ⟨-, none⟩ | ⟨-, _, cs, written, digits, -⟩
    · rw [none]
      exact nofun
    · rw [written]
      exact List.forall_mem_cons.mpr ⟨point, digits.solid⟩
  rw [dateTimeChars, clock]
  simp only [List.forall_mem_append, List.forall_mem_cons]
  exact ⟨dateChars_solid valid.date years, between, hour.solid, mark, minute.solid, mark, second.solid,
    fraction⟩

end Calendar

end EntitySearch
