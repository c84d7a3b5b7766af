import EntitySearch.Proofs.FieldRanges

/-! Valid dates and times.

A date that is read from a text is one of the calendar, and a time of day has a
second of the day. Milliseconds and offsets in full minutes keep them so, and
leap seconds at the ends of minutes.
-/

set_option autoImplicit false

namespace EntitySearch

/-- A second of the day, or a leap second at the end of a minute. -/
structure Clock.Valid (c : Clock) : Prop where
  second : c.second < 86400
  nano : c.nano < 2000000000
  leap : 1000000000 ≤ c.nano → c.second % 60 = 59

structure DateTime.Valid (t : DateTime) : Prop where
  date : t.date.inRange = true
  clock : t.clock.Valid

theorem Date.inRange_of_ofDay? {day : Int} {d : Date} (found : ofDay? day = some d) :
    d.inRange = true :=
  (ofDay?_eq_some.mp found).2

theorem Date.inRange_of_ofOrdinal? {year : Int} {ordinal : Nat} {d : Date}
    (found : ofOrdinal? year ordinal = some d) : d.inRange = true :=
  inRange_of_ofDay? (Option.ite_none_right_eq_some.mp found).2

theorem Date.inRange_of_ofMonthDay? {year : Int} {month day : Nat} {d : Date}
    (found : ofMonthDay? year month day = some d) : d.inRange = true := by
  simp only [ofMonthDay?, Option.bind_eq_bind] at found
  split at found
  · cases found
  · obtain ⟨length, -, found⟩ := Option.bind_eq_some_iff.mp found
    exact inRange_of_ofDay? (Option.ite_none_right_eq_some.mp found).2

theorem Date.inRange_of_ofIsoWeek? {year : Int} {week weekday : Nat} {d : Date}
    (found : ofIsoWeek? year week weekday = some d) : d.inRange = true :=
  inRange_of_ofDay? (Option.ite_none_right_eq_some.mp found).2

namespace DateTime

variable {t u : DateTime}

theorem ofEpochSecond?_valid {second : Int} {nano : Nat} (small : nano < 2000000000)
    (leap : 1000000000 ≤ nano → second % 60 = 59) (found : ofEpochSecond? second nano = some t) :
    t.Valid := by
  obtain ⟨date, named, rfl⟩ := Option.map_eq_some_iff.mp found
  refine ⟨Date.inRange_of_ofDay? named, ⟨?_, small, fun held => ?_⟩⟩
  · show (second % 86400).toNat < 86400
    omega
  · have := leap held
    show (second % 86400).toNat % 60 = 59
    omega

/-- Full minutes keep a leap second at the end of a minute. -/
theorem Valid.shift? (h : t.Valid) {seconds : Int} (minutes : seconds % 60 = 0)
    (moved : t.shift? seconds = some u) : u.Valid := by
  refine ofEpochSecond?_valid h.clock.nano (fun held => ?_) moved
  have := h.clock.leap held
  rw [epochSecond]
  omega

end DateTime

theorem Instant.ofMillis?_valid {millis : Int} {i : Instant} (found : ofMillis? millis = some i) :
    i.utc.Valid := by
  obtain ⟨utc, named, rfl⟩ := Option.map_eq_some_iff.mp found
  exact DateTime.ofEpochSecond?_valid (by omega) (by omega) named

theorem DateTime.Valid.ofLocal? {t : DateTime} (h : t.Valid) {offset : Int}
    (minutes : offset % 60 = 0) {i : Instant} (found : Instant.ofLocal? offset t = some i) :
    i.utc.Valid := by
  obtain ⟨utc, moved, rfl⟩ := Option.map_eq_some_iff.mp found
  exact h.shift? (by omega) moved

namespace Calendar

namespace Fields

variable {fields : Fields}

theorem orOutOfRange_eq_ok {o : Option Date} {d : Date} (h : orOutOfRange o = .ok d) :
    o = some d := by
  cases o with
  | none => cases h
  | some e =>
    cases h
    rfl

theorem accept_eq_ok {ok : Bool} {d e : Date} (h : accept ok d = .ok e) : e = d := by
  rw [accept] at h
  split at h
  · exact (Except.ok.inj h).symm
  · cases h

theorem accepted_eq_ok {named : Except Fault Date} {agrees quarter : Date → Bool} {d : Date}
    (h : (named >>= fun d => accept (agrees d) d >>= fun d => accept (quarter d) d) = .ok d) :
    named = .ok d := by
  obtain ⟨e, found, h⟩ := bind_ok_inv h
  obtain ⟨f, first, h⟩ := bind_ok_inv h
  rw [accept_eq_ok h, accept_eq_ok first, found]

theorem inRange_of_weekDate {year week : Int} {weekday start : Nat} {d : Date}
    (found : weekDate year week weekday start = .ok d) : d.inRange = true := by
  rw [weekDate] at found
  split at found
  · cases found
  · split at found
    · cases found
    · dsimp only at found
      split at found
      · cases found
      · split at found
        · next named =>
          cases found
          exact Date.inRange_of_ofOrdinal? named
        · cases found

theorem inRange_of_toDate {d : Date} (built : fields.toDate = .ok d) : d.inRange = true := by
  obtain ⟨year, -, built⟩ := bind_ok_inv built
  obtain ⟨isoYear, -, built⟩ := bind_ok_inv built
  dsimp only at built
  split at built
  · exact Date.inRange_of_ofMonthDay? (orOutOfRange_eq_ok (accepted_eq_ok built))
  · exact Date.inRange_of_ofOrdinal? (orOutOfRange_eq_ok (accepted_eq_ok built))
  · split at built
    · exact inRange_of_weekDate (accepted_eq_ok built)
    · exact inRange_of_weekDate (accepted_eq_ok built)
    · split at built
      · exact Date.inRange_of_ofIsoWeek? (orOutOfRange_eq_ok (accepted_eq_ok built))
      · cases built

theorem required_eq_ok {value : Option Int} {v : Int} (h : required value = .ok v) :
    value = some v := by
  cases value with
  | none => cases h
  | some w =>
    cases h
    rfl

/-- An instant is a date-time at the offset of the fields, or else at offset zero. -/
theorem toInstant_eq_ok {i : Instant} (built : fields.toInstant = .ok i) :
    ∃ offset t, (fields .offset = some offset ∨ offset = 0) ∧ fields.toDateTime offset = .ok t ∧
      Instant.ofLocal? offset t = some i := by
  dsimp only [Fields.toInstant] at built
  split at built
  case h_3 => cases built
  all_goals
    obtain ⟨offset, given, built⟩ := bind_ok_inv built
    cases given
    obtain ⟨t, found, built⟩ := bind_ok_inv built
    split at built
    · split at built
      · next moved =>
        cases built
        exact ⟨_, t, by simp [*], found, moved⟩
      · cases built
    · cases built

namespace Ranged

theorem getD (h : fields.Ranged) (field : Field) (v : Int) (admits : field.Admits v) :
    field.Admits ((fields field).getD v) := by
  cases held : fields field with
  | none => exact admits
  | some w => exact h field w held

theorem toClock (h : fields.Ranged) {c : Clock} (built : fields.toClock = .ok c) : c.Valid := by
  obtain ⟨half, given, built⟩ := bind_ok_inv built
  have half' := h .halfDay half (required_eq_ok given)
  obtain ⟨hour, given, built⟩ := bind_ok_inv built
  have hour' := h .hourOfHalf hour (required_eq_ok given)
  obtain ⟨minute, given, built⟩ := bind_ok_inv built
  have minute' := h .minute minute (required_eq_ok given)
  have second' := h.getD .second 0 ⟨by decide, by decide⟩
  have nano' := h.getD .nano 0 ⟨by decide, by decide⟩
  simp only [Field.Admits] at half' hour' minute' second' nano'
  dsimp only at built
  split at built
  · cases built
  · cases built
    constructor
    all_goals
      simp only [beq_iff_eq]
      split <;> omega

theorem refilled (h : fields.Ranged) {t u : DateTime}
    (built : (do
      let fields ← fields.set .year t.date.year
      let fields ← fields.set .ordinal t.date.ordinal
      let fields ← fields.setHour (t.clock.second / 3600 : Nat)
      let fields ← fields.set .minute (t.clock.second / 60 % 60 : Nat)
      .ok ⟨← fields.toDate, ← fields.toClock⟩ : Except Fault DateTime) = .ok u) : u.Valid := by
  obtain ⟨_, stored, built⟩ := bind_ok_inv built
  have h := h.set stored trivial
  obtain ⟨_, stored, built⟩ := bind_ok_inv built
  have h := h.set stored trivial
  obtain ⟨_, stored, built⟩ := bind_ok_inv built
  have h := h.setHour stored
  obtain ⟨_, stored, built⟩ := bind_ok_inv built
  have h := h.set stored (by simp only [Field.Admits]; omega)
  obtain ⟨date, dated, built⟩ := bind_ok_inv built
  obtain ⟨clock, timed, built⟩ := bind_ok_inv built
  cases built
  exact ⟨inRange_of_toDate dated, h.toClock timed⟩

theorem ofTimestamp (h : fields.Ranged) {timestamp : Int} {u : DateTime}
    (built : fields.ofTimestamp timestamp = .ok u) : u.Valid := by
  have seconds : ∀ {t : DateTime} {out : Fields},
      fields.set .second (t.clock.second % 60 : Nat) = .ok out → out.Ranged := fun stored =>
    h.set stored (by simp only [Field.Admits]; omega)
  dsimp only [Fields.ofTimestamp] at built
  split at built
  · simp only [ok_bind] at built
    split at built
    · split at built
      · exact h.refilled built
      · obtain ⟨_, stored, built⟩ := bind_ok_inv built
        exact (seconds stored).refilled built
    · split at built
      · split at built
        · split at built
          · exact h.refilled built
          · obtain ⟨_, stored, built⟩ := bind_ok_inv built
            exact (seconds stored).refilled built
        · cases built
      · cases built
  · cases built

theorem toDateTime (h : fields.Ranged) {offset : Int} {t : DateTime}
    (built : fields.toDateTime offset = .ok t) : t.Valid := by
  -- A timestamp only checks the date and time of the other fields, or stands in for them.
  rw [Fields.toDateTime] at built
  split at built
  · next date clock dated timed =>
    have valid : DateTime.Valid ⟨date, clock⟩ := ⟨inRange_of_toDate dated, h.toClock timed⟩
    split at built
    · cases built
      exact valid
    · dsimp only at built
      split at built
      · cases built
        exact valid
      · cases built
  · cases built
  · cases built
  · dsimp only at built
    split at built
    · cases built
    · split at built
      · cases built
      · split at built
        · exact h.ofTimestamp built
        · cases built

theorem toInstant (h : fields.Ranged) {i : Instant} (built : fields.toInstant = .ok i) :
    i.utc.Valid := by
  obtain ⟨offset, t, given, found, moved⟩ := toInstant_eq_ok built
  refine (h.toDateTime found).ofLocal? ?_ moved
  rcases given with given | rfl
  · exact h .offset offset given
  · rfl

end Ranged

end Fields

variable {pattern text : String}

theorem toOption_eq_some {α : Type} {x : Except Fault α} {a : α} (h : x.toOption = some a) :
    x = .ok a := by
  cases x with
  | error fault => cases h
  | ok b => exact congrArg Except.ok (Option.some.inj h)

theorem inRange_of_readDate? {d : Date} (read : readDate? pattern text = some d) :
    d.inRange = true := by
  obtain ⟨fields, -, built⟩ := bind_ok_inv (toOption_eq_some read)
  exact Fields.inRange_of_toDate built

theorem readDateTime?_valid {t : DateTime} (read : readDateTime? pattern text = some t) :
    t.Valid := by
  obtain ⟨fields, found, built⟩ := bind_ok_inv (toOption_eq_some read)
  exact (readFields_ranged found).toDateTime built

theorem readInternet?_valid {i : Instant} (read : readInternet? text = some i) : i.utc.Valid := by
  obtain ⟨fields, found, built⟩ := bind_ok_inv (toOption_eq_some read)
  exact (scanInternet_ranged found).toInstant built

end Calendar

end EntitySearch
