import EntitySearch.Proofs.Complements
import EntitySearch.Proofs.ValueOrder

/-! Filters by day.

Where a timestamp is asked for, a date is a day as clocks at the configured
offset show it. A range of dates reaches from the first moment of its first day
to the last moment of its last one, and a search for what starts with an instant
from the first to the last moment of its day. Between them are exactly the
instants of these days, but for leap seconds.
-/

set_option autoImplicit false

namespace EntitySearch

open Std (OrientedCmp)

theorem DateTime.shift?_moves {t u : DateTime} {seconds : Int} (moved : t.shift? seconds = some u) :
    u.epochSecond = t.epochSecond + seconds ∧ u.clock.second < 86400 := by
  obtain ⟨date, found, rfl⟩ := Option.map_eq_some_iff.mp moved
  obtain ⟨rfl, -⟩ := Date.ofDay?_eq_some.mp found
  simp only [epochSecond]
  omega

namespace Instant

/-- The date that clocks at an offset show, as far as the calendar goes and beyond. -/
def dayAt (offset : Int) (i : Instant) : Date :=
  ⟨Calendar.dayOfEpoch + (i.utc.epochSecond + offset) / 86400⟩

structure IsRegular (i : Instant) : Prop where
  second : i.utc.clock.second < 86400
  nano : i.utc.clock.nano < 1000000000

variable {offset : Int} {d d' : Date} {i first last : Instant}

theorem toLocal?_date {shown : DateTime} (told : i.toLocal? offset = some shown) :
    shown.date = i.dayAt offset := by
  obtain ⟨date, found, rfl⟩ := Option.map_eq_some_iff.mp told
  exact (Date.ofDay?_eq_some.mp found).1

theorem ofLocal?_moves {t : DateTime} (told : ofLocal? offset t = some i) :
    i.utc.epochSecond = t.epochSecond - offset ∧ i.utc.clock.second < 86400 := by
  obtain ⟨utc, moved, rfl⟩ := Option.map_eq_some_iff.mp told
  exact DateTime.shift?_moves moved

theorem isLE_compare {a b : Instant} (left : a.utc.clock.second < 86400)
    (right : b.utc.clock.second < 86400) : (a.compare b).isLE = true ↔
      a.utc.epochSecond < b.utc.epochSecond ∨
        a.utc.epochSecond = b.utc.epochSecond ∧ a.utc.clock.nano ≤ b.utc.clock.nano := by
  simp only [compare, DateTime.compare, Date.compare, Clock.compare, Ordering.isLE_then_iff_or,
    Int.compare_eq_lt, Int.compare_eq_eq, Nat.compare_eq_lt, Nat.compare_eq_eq,
    Nat.isLE_compare, DateTime.epochSecond]
  omega

/-- The first moment of one day and the last one of another, as clocks at an offset show them. -/
structure Ends (offset : Int) (d d' : Date) (first last : Instant) : Prop where
  first : ofLocal? offset ⟨d, .midnight⟩ = some first
  last : ofLocal? offset ⟨d', .lastOfDay⟩ = some last

theorem dayAt_ofLocal? {c : Clock} (told : ofLocal? offset ⟨d, c⟩ = some i)
    (inside : c.second < 86400) : i.dayAt offset = d := by
  obtain ⟨moved, -⟩ := ofLocal?_moves told
  have same : (i.dayAt offset).day = d.day := by
    rw [dayAt, moved]
    simp only [DateTime.epochSecond]
    omega
  exact congrArg Date.mk same

/-- The calendar has a day if a moment of it is on the same date at offset zero. -/
theorem inRange_of_ofLocal? {c : Clock} (told : ofLocal? offset ⟨d, c⟩ = some i)
    (stays : 0 ≤ c.second - offset ∧ c.second - offset < 86400) : d.inRange = true := by
  obtain ⟨utc, moved, rfl⟩ := Option.map_eq_some_iff.mp told
  obtain ⟨date, found, rfl⟩ := Option.map_eq_some_iff.mp moved
  obtain ⟨day, inside⟩ := Date.ofDay?_eq_some.mp found
  have same : Calendar.dayOfEpoch + (DateTime.epochSecond ⟨d, c⟩ + -offset) / 86400 = d.day := by
    simp only [DateTime.epochSecond]
    omega
  rw [same] at day
  obtain rfl : date = d := day
  exact inside

namespace Ends

/-- West of UTC a day starts on the same date there, and east of it it ends on the same. -/
theorem inRange (ends : Ends offset d d first last) (bounded : -86400 < offset ∧ offset < 86400) :
    d.inRange = true := by
  rcases Int.le_total offset 0 with west | east
  · apply inRange_of_ofLocal? ends.first
    simp only [Clock.midnight]
    omega
  · apply inRange_of_ofLocal? ends.last
    simp only [Clock.lastOfDay]
    omega

/-- Between the ends of days are the instants that fall on these days or between them. -/
theorem isWithin (ends : Ends offset d d' first last) (regular : i.IsRegular) :
    Value.isWithin (.timestamp first) (.timestamp last) (.timestamp i) =
      some (decide (d.day ≤ (i.dayAt offset).day ∧ (i.dayAt offset).day ≤ d'.day)) := by
  -- A day starts and ends with a full second, so that seconds alone decide about regular instants.
  obtain ⟨start, startBound⟩ := ofLocal?_moves ends.first
  obtain ⟨final, finalBound⟩ := ofLocal?_moves ends.last
  have within : Value.isWithin (.timestamp first) (.timestamp last) (.timestamp i) =
    some ((i.compare first).isGE && (i.compare last).isLE) := Truth.and_some _ _
  have low : (i.compare first).isGE = true ↔ d.day ≤ (i.dayAt offset).day := by
    rw [OrientedCmp.isGE_iff_isLE, isLE_compare startBound regular.second, start,
      ofLocal?_nano ends.first, dayAt]
    simp only [Clock.midnight, DateTime.epochSecond]
    omega
  have high : (i.compare last).isLE = true ↔ (i.dayAt offset).day ≤ d'.day := by
    have nano := regular.nano
    rw [isLE_compare regular.second finalBound, final, ofLocal?_nano ends.last, dayAt]
    simp only [Clock.lastOfDay, DateTime.epochSecond]
    omega
  rw [within, Option.some.injEq, Bool.eq_iff_iff, Bool.and_eq_true, low, high, decide_eq_true_iff]

theorem shown (ends : Ends offset d d first last) (bounded : -86400 < offset ∧ offset < 86400) :
    ∃ local', first.toLocal? offset = some local' ∧ local'.date = d := by
  have day : first.dayAt offset = d := dayAt_ofLocal? ends.first (by decide)
  have found : Date.ofDay? (first.dayAt offset).day = some d :=
    Date.ofDay?_eq_some.mpr ⟨day.symm, ends.inRange bounded⟩
  exact ⟨_, Option.map_eq_some_iff.mpr ⟨d, found, rfl⟩, rfl⟩

end Ends

end Instant

theorem DateSettings.offset_bounded (s : DateSettings) : -86400 < s.offset ∧ s.offset < 86400 := by
  unfold offset
  split
  · next inside => exact inside
  · decide

namespace Coercion

variable {settings : DateSettings} {r : Reading} {type : FieldType} {raw : Json} {d : Date}
  {i : Instant}

/-- A literal that is read as a date where a timestamp is asked for. -/
def ReadsDay (settings : DateSettings) (raw : Json) (d : Date) : Prop :=
  ∃ text, literalText? raw = some text ∧ millis? (Text.trim text) = none ∧
    internet? (Text.trim text) = none ∧ localDateTime? settings (Text.trim text) = none ∧
    localDate? settings (Text.trim text) = some d

theorem ReadsDay.isScalar (day : ReadsDay settings raw d) : raw.isScalar = true := by
  obtain ⟨text, held, -⟩ := day
  cases raw with
  | bool | number | string => rfl
  | null | array | object => cases held

theorem isScalar_of_read (read : Coercion.read settings r type raw = .ok (.timestamp i)) :
    raw.isScalar = true := by
  cases raw with
  | bool | number | string => rfl
  | null | array | object => cases read

theorem read_day (day : ReadsDay settings raw d) (r : Reading) {v : Value} :
    read settings r (.scalar .timestamp) raw = .ok v ↔
      ∃ i, Instant.ofLocal? settings.offset ⟨d, clockOfDate settings r⟩ = some i ∧
        v = .timestamp i := by
  obtain ⟨text, held, millis, internet, dateTime, date⟩ := day
  simp only [read, isNull_of_literalText? held, held, ofText?, scalar?, timestamp?, millis, internet,
    dateTime, date, Option.or, Bool.false_eq_true, if_false]
  cases Instant.ofLocal? settings.offset ⟨d, clockOfDate settings r⟩ with
  | none => simp
  | some i => simp [eq_comm]

theorem readOrKeep_of_read {v : Value} (held : read settings r type raw = .ok v) :
    readOrKeep settings r type raw = v := by
  rw [readOrKeep, held]

end Coercion

namespace Filter

open Instant (Ends)

section
variable {settings : CompilerSettings} {field : String} {enclosing : Option Comparator}
  {trim upper : Bool} {raw raw₁ raw₂ : Json} {s t u : Scope} {r : Resolved} {d d' : Date}
  {i first last : Instant} {p : Predicate}

theorem dayBounds?_timestamp (dates : DateSettings) (t : Instant) {bounds : Value × Value} :
    dayBounds? dates (.timestamp t) = some bounds ↔
      (∃ shown, t.toLocal? dates.offset = some shown) ∧ ∃ first last,
        Ends dates.offset (t.dayAt dates.offset) (t.dayAt dates.offset) first last ∧
          bounds = (.timestamp first, .timestamp last) := by
  simp only [dayBounds?, Option.bind_eq_bind, Option.bind_eq_some_iff]
  constructor
  · rintro ⟨shown, told, first, low, last, high, made⟩
    rw [Instant.toLocal?_date told] at low high
    exact ⟨⟨shown, told⟩, first, last, ⟨low, high⟩, (Option.some.inj made).symm⟩
  · rintro ⟨⟨shown, told⟩, first, last, ⟨low, high⟩, rfl⟩
    rw [← Instant.toLocal?_date told] at low high
    exact ⟨shown, told, first, low, last, high, rfl⟩

theorem between_compiles (found : Resolve.resolve field s = (.ok r, t))
    (timestamps : r.type = .scalar .timestamp) (scalar₁ : raw₁.isScalar = true)
    (scalar₂ : raw₂.isScalar = true) :
    ofCondition settings field enclosing (comparing .between trim upper [raw₁, raw₂]) s =
        (.ok p, u) ↔
      u = t ∧ isNullLiteral raw₁ = false ∧ isNullLiteral raw₂ = false ∧
        p = .between r.expr
          (Coercion.readOrKeep settings.dates ⟨.between, trim, upper, 0⟩ r.type raw₁)
          (Coercion.readOrKeep settings.dates ⟨.between, trim, upper, 1⟩ r.type raw₂) := by
  have accepted : Accepted .between [raw₁, raw₂] := rfl
  have plain : column r (comparing .between trim upper [raw₁, raw₂]) = r.expr := by
    rw [column, timestamps]
    rfl
  have listed : valuesOf settings r.type .between trim upper [raw₁, raw₂] =
      (present raw₁).map (Coercion.readOrKeep settings.dates ⟨.between, trim, upper, 0⟩ r.type) ++
        (present raw₂).map
          (Coercion.readOrKeep settings.dates ⟨.between, trim, upper, 1⟩ r.type) := by
    simp [valuesOf, placed, valueOf, Function.comp_def]
  rw [comparing_found (by rfl) accepted found, listed]
  refine (Iff.of_eq (Prod.mk.injEq ..)).trans ?_
  unfold compareValues
  rw [plain]
  -- A null is dropped, and then the values are too few for a range.
  cases null₁ : isNullLiteral raw₁ with
  | true =>
    rw [present_null scalar₁ null₁]
    cases null₂ : isNullLiteral raw₂ with
    | true => simp [comparing, present_null scalar₂ null₂]
    | false => simp [comparing, present_scalar scalar₂ null₂]
  | false =>
    rw [present_scalar scalar₁ null₁]
    cases null₂ : isNullLiteral raw₂ with
    | true => simp [comparing, present_null scalar₂ null₂]
    | false =>
      rw [present_scalar scalar₂ null₂]
      simp [comparing, eq_comm, and_comm]

theorem dayRange_iff {comparator : Comparator}
    (read : Coercion.read settings.dates (.verbatim .startsWith) r.type raw = .ok (.timestamp i)) :
    dayRange settings field r comparator enclosing raw = .ok p ↔
      (∃ shown, i.toLocal? settings.dates.offset = some shown) ∧
        ∃ first last, Ends settings.dates.offset (i.dayAt settings.dates.offset)
            (i.dayAt settings.dates.offset) first last ∧
          p = negateIf (isNegated comparator enclosing)
            (.between r.expr (.timestamp first) (.timestamp last)) := by
  have kept : dayRange settings field r comparator enclosing raw = .ok p ↔
      ∃ bounds, dayBounds? settings.dates (.timestamp i) = some bounds ∧
        p = negateIf (isNegated comparator enclosing) (.between r.expr bounds.1 bounds.2) := by
    simp only [dayRange, read, bind, Except.bind]
    cases dayBounds? settings.dates (.timestamp i) with
    | none => simp [throw, throwThe, MonadExceptOf.throw]
    | some bounds => simp [pure, Except.pure, eq_comm]
  rw [kept]
  constructor
  · rintro ⟨bounds, told, rfl⟩
    obtain ⟨shown, first, last, ends, rfl⟩ := (dayBounds?_timestamp settings.dates i).mp told
    exact ⟨shown, first, last, ends, rfl⟩
  · rintro ⟨shown, first, last, ends, rfl⟩
    exact ⟨_, (dayBounds?_timestamp settings.dates i).mpr ⟨shown, first, last, ends, rfl⟩, rfl⟩

theorem startsWith_compiles (found : Resolve.resolve field s = (.ok r, t))
    (temporal : r.type.isTemporal = true) (scalar : raw.isScalar = true) :
    ofCondition settings field enclosing (comparing .startsWith trim upper [raw]) s = (.ok p, u) ↔
      u = t ∧ isNullLiteral raw = false ∧
        dayRange settings field r .startsWith enclosing raw = .ok p := by
  have searchable : checkSearch field r.type .startsWith = .ok () := by
    simp [checkSearch, temporal]
  have searched : searchOne settings field r .startsWith trim upper enclosing raw =
      dayRange settings field r .startsWith enclosing raw := if_pos ⟨rfl, temporal⟩
  have compiled : ofCondition settings field enclosing (comparing .startsWith trim upper [raw]) s =
      (if isNullLiteral raw = true then .error (invalid (.noPresentValue .startsWith field))
        else searchOne settings field r .startsWith trim upper enclosing raw, t) :=
    ofCondition_searchOne found rfl searchable scalar
  rw [compiled, searched]
  refine (Iff.of_eq (Prod.mk.injEq ..)).trans ?_
  cases isNullLiteral raw with
  | true => simp
  | false => simp [eq_comm, and_comm]

/-- What a predicate makes of rows by the instant of an attribute, but for leap seconds. -/
def KeepsBy (f : FieldRef) (p : Predicate) (kept : Instant → Bool) : Prop :=
  ∀ (row : Row) (i : Instant), row.field f = .timestamp i → i.IsRegular →
    p.eval row = .ok (some (kept i))

theorem KeepsBy.negateIf {f : FieldRef} {kept : Instant → Bool} (keeps : KeepsBy f p kept)
    (negated : Bool) : KeepsBy f (Filter.negateIf negated p) fun i => kept i != negated := by
  intro row i held regular
  cases negated with
  | true =>
    rw [Filter.negateIf, if_pos rfl, Predicate.eval_not, keeps row i held regular]
    exact congrArg (fun b => Except.ok (some b)) (Bool.bne_true (kept i)).symm
  | false =>
    rw [Filter.negateIf, if_neg Bool.false_ne_true, keeps row i held regular]
    exact congrArg (fun b => Except.ok (some b)) (Bool.bne_false (kept i)).symm

theorem keepsBy_ends {offset : Int} (ends : Ends offset d d' first last) :
    KeepsBy r.field (.between r.expr (.timestamp first) (.timestamp last)) fun i =>
      decide (d.day ≤ (i.dayAt offset).day ∧ (i.dayAt offset).day ≤ d'.day) := by
  intro row i held regular
  rw [Predicate.eval, Resolved.expr_eval held]
  exact congrArg Except.ok (ends.isWithin regular)

theorem keepsBy_day {offset : Int} (ends : Ends offset d d first last) :
    KeepsBy r.field (.between r.expr (.timestamp first) (.timestamp last)) fun i =>
      decide (i.dayAt offset = d) := by
  intro row i held regular
  have day : (d.day ≤ (i.dayAt offset).day ∧ (i.dayAt offset).day ≤ d.day) ↔ i.dayAt offset = d :=
    ⟨fun ⟨low, high⟩ => congrArg Date.mk (Int.le_antisymm high low), fun same => by simp [same]⟩
  rw [keepsBy_ends ends row i held regular]
  exact congrArg (fun b => Except.ok (some b)) (decide_eq_decide.mpr day)

def ReadsBounds (settings : CompilerSettings) (trim upper : Bool) (type : FieldType)
    (raw₁ raw₂ : Json) (first last : Instant) : Prop :=
  Coercion.read settings.dates ⟨.between, trim, upper, 0⟩ type raw₁ = .ok (.timestamp first) ∧
    Coercion.read settings.dates ⟨.between, trim, upper, 1⟩ type raw₂ = .ok (.timestamp last)

theorem readsBounds_days (enabled : settings.dates.endOfDay = true)
    (day₁ : Coercion.ReadsDay settings.dates raw₁ d) (day₂ : Coercion.ReadsDay settings.dates raw₂ d') :
    ReadsBounds settings trim upper (.scalar .timestamp) raw₁ raw₂ first last ↔
      Ends settings.dates.offset d d' first last := by
  have low : Coercion.clockOfDate settings.dates ⟨.between, trim, upper, 0⟩ = .midnight := rfl
  have high : Coercion.clockOfDate settings.dates ⟨.between, trim, upper, 1⟩ = .lastOfDay := by
    rw [Coercion.clockOfDate_between rfl enabled]
    rfl
  simp only [ReadsBounds, Coercion.read_day day₁, Coercion.read_day day₂, low, high,
    Value.timestamp.injEq, exists_eq_right']
  exact ⟨fun ⟨start, final⟩ => ⟨start, final⟩, fun ends => ⟨ends.first, ends.last⟩⟩

theorem dayRange_day {comparator : Comparator} (timestamps : r.type = .scalar .timestamp)
    (day : Coercion.ReadsDay settings.dates raw d) :
    dayRange settings field r comparator enclosing raw = .ok p ↔
      ∃ first last, Ends settings.dates.offset d d first last ∧
        p = negateIf (isNegated comparator enclosing)
          (.between r.expr (.timestamp first) (.timestamp last)) := by
  have reads : ∀ v, Coercion.read settings.dates (.verbatim .startsWith) r.type raw = .ok v ↔
      ∃ i, Instant.ofLocal? settings.dates.offset ⟨d, .midnight⟩ = some i ∧ v = .timestamp i :=
    fun v => timestamps ▸ Coercion.read_day day (.verbatim .startsWith)
  constructor
  · intro made
    cases read : Coercion.read settings.dates (.verbatim .startsWith) r.type raw with
    | error e =>
      -- The first moment of the day cannot be told, and nothing compiles.
      simp only [dayRange, read, bind, Except.bind] at made
      cases made
    | ok v =>
      obtain ⟨i, told, rfl⟩ := (reads v).mp read
      have same : i.dayAt settings.dates.offset = d := Instant.dayAt_ofLocal? told (by decide)
      exact same ▸ ((dayRange_iff read).mp made).2
  · rintro ⟨first, last, ends, rfl⟩
    -- The literal is read as the first moment, and the day is looked up again from there.
    have read := (reads (.timestamp first)).mpr ⟨first, ends.first, rfl⟩
    have same : first.dayAt settings.dates.offset = d := Instant.dayAt_ofLocal? ends.first (by decide)
    obtain ⟨shown, told, -⟩ := ends.shown settings.dates.offset_bounded
    exact (dayRange_iff read).mpr ⟨⟨shown, told⟩, first, last, same.symm ▸ ends, rfl⟩

/-- A range of dates of which the ends can be told compiles to them. -/
theorem between_days (found : Resolve.resolve field s = (.ok r, t))
    (timestamps : r.type = .scalar .timestamp) (enabled : settings.dates.endOfDay = true)
    (day₁ : Coercion.ReadsDay settings.dates raw₁ d) (day₂ : Coercion.ReadsDay settings.dates raw₂ d')
    (bounds : ReadsBounds settings trim upper r.type raw₁ raw₂ first last) :
    Ends settings.dates.offset d d' first last ∧
      (ofCondition settings field enclosing (comparing .between trim upper [raw₁, raw₂]) s =
          (.ok p, u) ↔
        u = t ∧ isNullLiteral raw₁ = false ∧ isNullLiteral raw₂ = false ∧
          p = .between r.expr (.timestamp first) (.timestamp last)) := by
  have scalar₁ := Coercion.isScalar_of_read bounds.1
  have scalar₂ := Coercion.isScalar_of_read bounds.2
  refine ⟨?_, ?_⟩
  · rw [timestamps] at bounds
    exact (readsBounds_days enabled day₁ day₂).mp bounds
  · rw [between_compiles found timestamps scalar₁ scalar₂, Coercion.readOrKeep_of_read bounds.1,
      Coercion.readOrKeep_of_read bounds.2]

theorem negateIf_inj {negated : Bool} {q : Predicate} (same : negateIf negated p = negateIf negated q) :
    p = q := by
  cases negated with
  | true => exact Predicate.not.inj same
  | false => exact same

/-- A search for a date and the range of it alone compile to the same predicate, but for a negation
of the search, or neither does. -/
theorem startsWith_iff_between {q : Predicate} (found : Resolve.resolve field s = (.ok r, t))
    (timestamps : r.type = .scalar .timestamp) (enabled : settings.dates.endOfDay = true)
    (day : Coercion.ReadsDay settings.dates raw d) :
    ofCondition settings field enclosing (comparing .startsWith trim upper [raw]) s =
        (.ok (negateIf (isNegated .startsWith enclosing) q), t) ↔
      ofCondition settings field enclosing (comparing .between trim upper [raw, raw]) s =
          (.ok q, t) ∧
        ∃ first last, ReadsBounds settings trim upper r.type raw raw first last := by
  have temporal : r.type.isTemporal = true := timestamps ▸ rfl
  rw [startsWith_compiles found temporal day.isScalar, dayRange_day timestamps day]
  constructor
  · rintro ⟨-, given, first, last, ends, same⟩
    have bounds : ReadsBounds settings trim upper r.type raw raw first last :=
      timestamps ▸ (readsBounds_days enabled day day).mpr ends
    refine ⟨(between_days found timestamps enabled day day bounds).2.mpr ?_, first, last, bounds⟩
    exact ⟨rfl, given, given, negateIf_inj same⟩
  · rintro ⟨compiled, first, last, bounds⟩
    obtain ⟨ends, range⟩ := between_days found timestamps enabled day day bounds
    obtain ⟨-, given, -, rfl⟩ := range.mp compiled
    exact ⟨rfl, given, first, last, ends, rfl⟩

/-- A range of dates keeps the days from the first to the last of them. A search for a date keeps its
day, as the range of it alone does, and a search for an instant keeps the day that it falls on, each
unless a negated search is around it: then it keeps the other days. -/
theorem day_filters (settings : CompilerSettings) (found : Resolve.resolve field s = (.ok r, t))
    (enclosing : Option Comparator) (trim upper : Bool) :
    let offset := settings.dates.offset
    let compile := fun comparator vs =>
      ofCondition settings field enclosing (comparing comparator trim upper vs) s
    let negated := isNegated .startsWith enclosing
    (r.type = .scalar .timestamp → settings.dates.endOfDay = true → ∀ raw₁ raw₂ d₁ d₂,
      Coercion.ReadsDay settings.dates raw₁ d₁ → Coercion.ReadsDay settings.dates raw₂ d₂ →
        (∀ p u first last, compile .between [raw₁, raw₂] = (.ok p, u) →
          ReadsBounds settings trim upper r.type raw₁ raw₂ first last →
          KeepsBy r.field p fun i =>
            decide (d₁.day ≤ (i.dayAt offset).day ∧ (i.dayAt offset).day ≤ d₂.day)) ∧
        (∀ p u, compile .startsWith [raw₁] = (.ok p, u) →
          KeepsBy r.field p fun i => decide (i.dayAt offset = d₁) != negated) ∧
        ∀ q, compile .startsWith [raw₁] = (.ok (negateIf negated q), t) ↔
          compile .between [raw₁, raw₁] = (.ok q, t) ∧
            ∃ first last, ReadsBounds settings trim upper r.type raw₁ raw₁ first last) ∧
    (r.type.isTemporal = true → ∀ raw v p u,
      Coercion.read settings.dates (.verbatim .startsWith) r.type raw = .ok (.timestamp v) →
        compile .startsWith [raw] = (.ok p, u) →
          KeepsBy r.field p fun i => decide (i.dayAt offset = v.dayAt offset) != negated) := by
  constructor
  · intro timestamps enabled raw₁ raw₂ d₁ d₂ day₁ day₂
    refine ⟨?_, ?_, fun q => startsWith_iff_between found timestamps enabled day₁⟩
    · intro p u first last compiled bounds
      obtain ⟨ends, range⟩ := between_days found timestamps enabled day₁ day₂ bounds
      obtain ⟨-, -, -, rfl⟩ := range.mp compiled
      exact keepsBy_ends ends
    · intro p u compiled
      have temporal : r.type.isTemporal = true := timestamps ▸ rfl
      obtain ⟨-, -, made⟩ := (startsWith_compiles found temporal day₁.isScalar).mp compiled
      obtain ⟨first, last, ends, rfl⟩ := (dayRange_day timestamps day₁).mp made
      exact (keepsBy_day ends).negateIf _
  · intro temporal raw v p u read compiled
    have scalar := Coercion.isScalar_of_read read
    obtain ⟨-, -, made⟩ := (startsWith_compiles found temporal scalar).mp compiled
    obtain ⟨-, first, last, ends, rfl⟩ := (dayRange_iff read).mp made
    exact (keepsBy_day ends).negateIf _

end

end Filter

namespace Sample

/-- Clocks are five hours and three quarters ahead. -/
def ahead : CompilerSettings := { dates := { utcOffset := 20700 } }

theorem start_reads_day : Coercion.ReadsDay ahead.dates start ⟨738945⟩ :=
  ⟨"2024-03-01", rfl, by decide +kernel, by decide +kernel, by decide +kernel, by decide +kernel⟩

/-- The first moment of the day, a quarter past six in the evening of the day before. -/
def dawn : Instant := ⟨⟨⟨738944⟩, ⟨65700, 0⟩⟩⟩

def dusk : Instant := ⟨⟨⟨738945⟩, ⟨65699, 999999999⟩⟩⟩

theorem start_ends : Instant.Ends ahead.dates.offset ⟨738945⟩ ⟨738945⟩ dawn dusk :=
  ⟨by decide +kernel, by decide +kernel⟩

def happening (i : Instant) : Row := ⟨[("at", .timestamp i)], []⟩

end Sample

namespace Filter

open Sample

theorem day_filters_ahead :
    ∃ p, ofCondition ahead "at" none (comparing .between true true [start, start]) agenda =
        (.ok p, agenda) ∧
      ofCondition ahead "at" none (comparing .startsWith true true [start]) agenda =
        (.ok p, agenda) ∧
      p.eval (happening dawn) = .ok (some true) ∧ p.eval (happening dusk) = .ok (some true) ∧
      p.eval (happening ⟨⟨⟨738944⟩, ⟨65699, 999999999⟩⟩⟩) = .ok (some false) := by
  have found : Resolve.resolve "at" agenda =
      (.ok ⟨⟨.root, ["at"], "at"⟩, .scalar .timestamp⟩, agenda) := rfl
  have given : isNullLiteral start = false := by decide
  have bounds : ReadsBounds ahead true true (.scalar .timestamp) start start dawn dusk :=
    (readsBounds_days rfl start_reads_day start_reads_day).mpr start_ends
  have range : ofCondition ahead "at" none (comparing .between true true [start, start]) agenda =
      (.ok _, agenda) :=
    (between_compiles found rfl rfl rfl).mpr ⟨rfl, given, given, rfl⟩
  have read : Coercion.read ahead.dates (.verbatim .startsWith) (.scalar .timestamp) start =
      .ok (.timestamp dawn) :=
    (Coercion.read_day start_reads_day _).mpr ⟨dawn, start_ends.first, rfl⟩
  obtain ⟨days, instants⟩ := day_filters ahead found none true true
  obtain ⟨within, onDay, same⟩ := days rfl rfl start start _ _ start_reads_day start_reads_day
  have search := (same _).mpr ⟨range, dawn, dusk, bounds⟩
  refine ⟨_, range, search, ?_, ?_, ?_⟩
  · rw [within _ _ _ _ range bounds (happening dawn) dawn rfl ⟨by decide, by decide⟩]
    rfl
  · exact (onDay _ _ search (happening dusk) dusk rfl ⟨by decide, by decide⟩).trans rfl
  · exact (instants rfl start dawn _ _ read search (happening _) _ rfl ⟨by decide, by decide⟩).trans
      rfl

end Filter

end EntitySearch
