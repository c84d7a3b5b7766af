import EntitySearch.Proofs.Distinct

/-! Literals and the operands that hold them.

Arrays among the operands of a condition are opened and nulls dropped, so that
the same literals can stand in different operands. A comparator sees the literals
alone, but for dates that end a range of timestamps: these are told by the
position of their operand.
-/

set_option autoImplicit false

namespace EntitySearch

theorem Instant.ofLocal?_nano {offset : Int} {t : DateTime} {i : Instant}
    (h : Instant.ofLocal? offset t = some i) : i.utc.clock.nano = t.clock.nano := by
  simp only [Instant.ofLocal?, DateTime.shift?, DateTime.ofEpochSecond?, Option.map_map,
    Option.map_eq_some_iff] at h
  obtain ⟨date, -, rfl⟩ := h
  rfl

theorem Value.ofJson_ne_timestamp (raw : Json) (t : Instant) : Value.ofJson raw ≠ .timestamp t := by
  cases raw with
  | number n =>
    cases n with
    | int i =>
      rw [Value.ofJson]
      split <;> simp
    | float x => simp [Value.ofJson]
  | _ => simp [Value.ofJson]

namespace Coercion

variable {settings : DateSettings} {type : FieldType} {raw : Json} {i j : Nat}

def Timed (settings : DateSettings) (day : Date) : Prop :=
  ∃ clock t, (clock = .midnight ∨ clock = .lastOfDay) ∧
    Instant.ofLocal? settings.offset ⟨day, clock⟩ = some t

/-- A literal that a timestamp attribute reads as a date, without a time of day. -/
def NamesDay (settings : DateSettings) (type : FieldType) (raw : Json) : Prop :=
  type = .scalar .timestamp ∧ ∃ text day, literalText? raw = some text ∧
    millis? (Text.trim text) = none ∧ internet? (Text.trim text) = none ∧
    localDateTime? settings (Text.trim text) = none ∧
    localDate? settings (Text.trim text) = some day ∧ Timed settings day

theorem clockOfDate_of_ne {r : Reading} (other : r.comparator ≠ .between) :
    clockOfDate settings r = .midnight :=
  if_neg fun h => other h.1

theorem clockOfDate_disabled (r : Reading) (disabled : settings.endOfDay = false) :
    clockOfDate settings r = .midnight :=
  if_neg fun h => by simp [disabled] at h

theorem clockOfDate_between {r : Reading} (between : r.comparator = .between)
    (enabled : settings.endOfDay = true) :
    clockOfDate settings r = if r.index = 1 then .lastOfDay else .midnight := by
  simp [clockOfDate, between, enabled]

theorem readOrKeep_same {r r' : Reading} (clock : clockOfDate settings r = clockOfDate settings r')
    (texts : r.normalize = r'.normalize) : readOrKeep settings r = readOrKeep settings r' := by
  have times : timestamp? settings r = timestamp? settings r' := by
    funext text
    simp only [timestamp?, clock]
  have scalars : scalar? settings r = scalar? settings r' := by
    funext type text
    cases type with
    | timestamp => simp only [scalar?, times]
    | string | char => simp only [scalar?, texts]
    | _ => rfl
  funext type raw
  simp only [readOrKeep, read, ofText?, scalars]

/-- The position of its operand bears on a literal by the time that a date stands for only. -/
theorem readOrKeep_congr (r : Reading) (type : FieldType) (raw : Json)
    (same : clockOfDate settings { r with index := i } = clockOfDate settings { r with index := j }) :
    readOrKeep settings { r with index := i } type raw =
      readOrKeep settings { r with index := j } type raw :=
  congrFun (congrFun (readOrKeep_same same rfl) type) raw

theorem isNull_of_literalText? {text : String} (held : literalText? raw = some text) :
    raw.isNull = false := by
  cases raw with
  | null => cases held
  | _ => rfl

theorem readOrKeep_day (r : Reading) (named : NamesDay settings type raw) :
    ∃ day, Timed settings day ∧ ∀ i, readOrKeep settings { r with index := i } type raw =
      (Instant.ofLocal? settings.offset ⟨day, clockOfDate settings { r with index := i }⟩).elim
        (.ofJson raw) .timestamp := by
  obtain ⟨rfl, text, day, held, millis, internet, local', found, timed⟩ := named
  refine ⟨day, timed, fun i => ?_⟩
  simp only [readOrKeep, read, isNull_of_literalText? held, held, ofText?, scalar?, timestamp?,
    millis, internet, local', found, Option.or, Bool.false_eq_true, if_false]
  cases Instant.ofLocal? settings.offset ⟨day, clockOfDate settings { r with index := i }⟩ <;> rfl

theorem ends_differ (raw : Json) {day : Date} (timed : Timed settings day) :
    (Instant.ofLocal? settings.offset ⟨day, .lastOfDay⟩).elim (.ofJson raw) Value.timestamp ≠
      (Instant.ofLocal? settings.offset ⟨day, .midnight⟩).elim (.ofJson raw) .timestamp := by
  cases last : Instant.ofLocal? settings.offset ⟨day, .lastOfDay⟩ with
  | none =>
    cases first : Instant.ofLocal? settings.offset ⟨day, .midnight⟩ with
    | none =>
      obtain ⟨clock, t, rfl | rfl, found⟩ := timed
      · simp [first] at found
      · simp [last] at found
    | some t => exact Value.ofJson_ne_timestamp raw t
  | some t =>
    cases first : Instant.ofLocal? settings.offset ⟨day, .midnight⟩ with
    | none => exact (Value.ofJson_ne_timestamp raw t).symm
    | some u =>
      intro same
      obtain rfl := Value.timestamp.inj same
      have nano := (Instant.ofLocal?_nano last).symm.trans (Instant.ofLocal?_nano first)
      cases nano

theorem clockOfDate_cases (settings : DateSettings) (r : Reading) :
    clockOfDate settings r = .midnight ∨ clockOfDate settings r = .lastOfDay := by
  unfold clockOfDate
  split
  · exact .inr rfl
  · exact .inl rfl

theorem timed_of_ne {day : Date} {r r' : Reading}
    (differ : Instant.ofLocal? settings.offset ⟨day, clockOfDate settings r⟩ ≠
      Instant.ofLocal? settings.offset ⟨day, clockOfDate settings r'⟩) : Timed settings day := by
  cases first : Instant.ofLocal? settings.offset ⟨day, clockOfDate settings r⟩ with
  | some t => exact ⟨_, t, clockOfDate_cases settings r, first⟩
  | none =>
    rw [first] at differ
    obtain ⟨t, second⟩ := Option.ne_none_iff_exists'.mp differ.symm
    exact ⟨_, t, clockOfDate_cases settings r', second⟩

theorem date_of_ne {r r' : Reading} {text : String}
    (differ : timestamp? settings r text ≠ timestamp? settings r' text) :
    ∃ day, millis? text = none ∧ internet? text = none ∧ localDateTime? settings text = none ∧
      localDate? settings text = some day ∧ Timed settings day := by
  -- The forms before a date, and after it, do not ask for the time of day.
  simp only [timestamp?] at differ
  split at differ
  · exact absurd rfl differ
  · next none =>
    obtain ⟨millis, internet⟩ := Option.or_eq_none_iff.mp none
    split at differ
    · exact absurd rfl differ
    · next shown =>
      split at differ
      · next day found => exact ⟨day, millis, internet, shown, found, timed_of_ne differ⟩
      · exact absurd rfl differ

theorem namesDay_of_ne {r : Reading}
    (differ : readOrKeep settings { r with index := i } type raw ≠
      readOrKeep settings { r with index := j } type raw) : NamesDay settings type raw := by
  simp only [readOrKeep, read] at differ
  cases held : literalText? raw with
  | none => simp [held] at differ
  | some text =>
    have times : ofText? settings { r with index := i } type text ≠
        ofText? settings { r with index := j } type text := by
      intro same
      simp [held, same] at differ
    cases type with
    | scalar s =>
      cases s with
      | timestamp =>
        obtain ⟨day, facts⟩ := date_of_ne fun same => times (congrArg (Option.map _) same)
        exact ⟨rfl, text, day, held, facts⟩
      | _ => exact absurd rfl times
    | _ => exact absurd rfl times

theorem readOrKeep_between (r : Reading) (type : FieldType) (raw : Json)
    (between : r.comparator = .between) (enabled : settings.endOfDay = true) :
    readOrKeep settings { r with index := i } type raw =
        readOrKeep settings { r with index := j } type raw ↔
      (NamesDay settings type raw → (i = 1 ↔ j = 1)) := by
  have clock : ∀ i, clockOfDate settings { r with index := i } =
      if i = 1 then .lastOfDay else .midnight :=
    fun i => clockOfDate_between between enabled
  by_cases named : NamesDay settings type raw
  · obtain ⟨day, timed, reads⟩ := readOrKeep_day r named
    have differ := ends_differ raw timed
    rw [reads, reads, clock, clock]
    by_cases first : i = 1 <;> by_cases second : j = 1 <;>
      simp [first, second, named, differ, differ.symm]
  · exact ⟨fun _ day => absurd day named, fun _ => by_contra fun differ =>
      named (namesDay_of_ne differ)⟩

end Coercion

namespace Filter

/-- The literals of operands without nulls, each with the position of its operand. -/
def placed (operands : List Json) : List (Json × Nat) :=
  operands.zipIdx.flatMap fun operand => (present operand.1).map fun raw => (raw, operand.2)

theorem placed_literals (operands : List Json) :
    (placed operands).map Prod.fst = operands.flatMap present := by
  have opened : ∀ first, ((operands.zipIdx first).flatMap fun operand =>
      (present operand.1).map fun raw => (raw, operand.2)).map Prod.fst =
        operands.flatMap present := by
    induction operands with
    | nil => intro first; rfl
    | cons raw rest ih =>
      intro first
      simp [List.zipIdx_cons, ih, Function.comp_def]
  exact opened 0

theorem placed_map_eq {vs ws : List Json} (same : vs.flatMap present = ws.flatMap present)
    (F : Json × Nat → Value) :
    (placed vs).map F = (placed ws).map F ↔ ∀ (k : Nat) raw i j, (placed vs)[k]? = some (raw, i) →
      (placed ws)[k]? = some (raw, j) → F (raw, i) = F (raw, j) := by
  have paired : (placed vs).map Prod.fst = (placed ws).map Prod.fst := by
    rw [placed_literals, placed_literals, same]
  constructor
  · intro equal k raw i j left right
    have here := congrArg (·[k]?) equal
    simpa [left, right] using here
  · intro each
    apply List.ext_getElem?
    intro k
    have first := congrArg (·[k]?) paired
    simp only [List.getElem?_map] at first ⊢
    cases left : (placed vs)[k]? with
    | none => cases right : (placed ws)[k]? <;> simp_all
    | some x =>
      obtain ⟨raw, i⟩ := x
      cases right : (placed ws)[k]? with
      | none => simp [left, right] at first
      | some y =>
        obtain ⟨raw', j⟩ := y
        obtain rfl : raw = raw' := by simpa [left, right] using first
        exact congrArg some (each k raw i j left right)

section
variable {settings : CompilerSettings} {field : String} {enclosing : Option Comparator}
  {comparator : Comparator} {trim upper : Bool} {vs ws : List Json} {r : Resolved}

def valueOf (settings : CompilerSettings) (type : FieldType) (r : Reading) (literal : Json × Nat) :
    Value :=
  Coercion.readOrKeep settings.dates { r with index := literal.2 } type literal.1

theorem operandValues_literals (type : FieldType) (c : Condition) (first : Nat) :
    ((vs.map Operand.literal).zipIdx first).mapM (fun operand =>
        operandValues settings field type c operand.2 operand.1) =
      .ok ((vs.zipIdx first).map fun operand => (present operand.1).map fun raw =>
        valueOf settings type (.ofCondition c 0) (raw, operand.2)) := by
  induction vs generalizing first with
  | nil => rfl
  | cons raw rest ih =>
    rw [List.map_cons, List.zipIdx_cons, List.mapM_cons, ih]
    rfl

theorem literalValues_eq (type : FieldType) :
    literalValues settings field type ⟨comparator, vs.map .literal, trim, upper⟩ =
      .ok ((placed vs).map (valueOf settings type ⟨comparator, trim, upper, 0⟩)) := by
  unfold literalValues
  refine (congrArg (· >>= _) (operandValues_literals type _ 0)).trans ?_
  refine congrArg Except.ok (?_ : List.flatten _ = _)
  rw [placed, List.map_flatMap, List.flatMap_def]
  simp only [List.map_map]
  rfl

def searchOne (settings : CompilerSettings) (field : String) (r : Resolved)
    (comparator : Comparator) (trim upper : Bool) (enclosing : Option Comparator) (raw : Json) :
    Except QueryError Predicate :=
  if comparator = .startsWith ∧ r.type.isTemporal then
    dayRange settings field r comparator enclosing raw
  else .ok (search settings r ⟨comparator, [], trim, upper⟩ enclosing 0 raw)

theorem searchLiteral_eq (values : List Operand) (index : Nat) (raw : Json) :
    searchLiteral settings field r ⟨comparator, values, trim, upper⟩ enclosing index raw =
      (present raw).mapM (searchOne settings field r comparator trim upper enclosing) := by
  unfold searchLiteral searchOne
  split
  · rfl
  · exact (List.mapM_pure (m := Except QueryError)).symm

theorem ofSearchOperands_literals {head : Condition.Head}
    {literal : Nat → Json → Except QueryError (List Predicate)}
    {one : Json → Except QueryError Predicate}
    (each : ∀ index raw, literal index raw = (present raw).mapM one) (index : Nat) :
    ofSearchOperands settings field head literal index (vs.map .literal) =
      Resolve.ofExcept ((vs.flatMap present).mapM one) := by
  induction vs generalizing index with
  | nil =>
    unfold ofSearchOperands
    rfl
  | cons raw rest ih =>
    rw [List.map_cons]
    unfold ofSearchOperands
    simp only [each, ih, List.flatMap_cons, List.mapM_append]
    cases (present raw).mapM one with
    | error e => rfl
    | ok parts => cases (rest.flatMap present).mapM one <;> rfl

theorem ofCondition_literals {s t : Scope} {p : Predicate} (leaf : comparator.isComposite = false)
    (compiled : ofCondition settings field enclosing ⟨comparator, vs.map .literal, trim, upper⟩ s =
      (.ok p, t)) :
    ∃ r, Resolve.resolve field s = (.ok r, t) ∧
      ((comparator.isPattern = true ∧ ∃ parts,
        (vs.flatMap present).mapM (searchOne settings field r comparator trim upper enclosing) =
          .ok parts ∧ p = connect (enclosing.getD .and) parts) ∨
      (comparator.isPattern = false ∧
        plain settings field r ⟨comparator, vs.map .literal, trim, upper⟩ = .ok p)) := by
  unfold ofCondition at compiled
  obtain ⟨_, u, allowed, compiled⟩ := run_bind_inv compiled
  obtain rfl : s = u := (Prod.mk.inj allowed).2
  cases comparator with
  | and | or | case => cases leaf
  | like | startsWith | endsWith | notLike =>
    obtain ⟨r, u, found, compiled⟩ := run_bind_inv compiled
    obtain ⟨_, v, searched, compiled⟩ := run_bind_inv compiled
    obtain rfl : u = v := (Prod.mk.inj searched).2
    rw [ofSearchOperands_literals (searchLiteral_eq _)] at compiled
    obtain ⟨parts, v, listed, compiled⟩ := run_bind_inv compiled
    obtain ⟨made, rfl⟩ := Prod.mk.inj listed
    split at compiled
    · cases compiled
    · obtain ⟨done, rfl⟩ := Prod.mk.inj compiled
      exact ⟨r, found, .inl ⟨rfl, parts, made, (Except.ok.inj done).symm⟩⟩
  | _ =>
    obtain ⟨r, u, found, compiled⟩ := run_bind_inv compiled
    obtain ⟨made, rfl⟩ := Prod.mk.inj compiled
    exact ⟨r, found, .inr ⟨rfl, made⟩⟩

theorem plain_congr
    (same : (placed vs).map (valueOf settings r.type ⟨comparator, trim, upper, 0⟩) =
      (placed ws).map (valueOf settings r.type ⟨comparator, trim, upper, 0⟩)) :
    plain settings field r ⟨comparator, vs.map .literal, trim, upper⟩ =
      plain settings field r ⟨comparator, ws.map .literal, trim, upper⟩ := by
  unfold plain
  simp only [literalValues_eq, same]
  cases comparator <;> rfl

theorem plain_between {p : Predicate}
    (made : plain settings field r ⟨.between, vs.map .literal, trim, upper⟩ = .ok p) :
    ∃ low high, (placed vs).map (valueOf settings r.type ⟨.between, trim, upper, 0⟩) = [low, high] ∧
      p = .between (column r ⟨.between, [], trim, upper⟩) low high := by
  simp only [plain, literalValues_eq, bind, Except.bind] at made
  unfold compareValues at made
  dsimp only at made
  split at made
  · next low high values => exact ⟨low, high, values, (Except.ok.inj made).symm⟩
  · cases made

theorem plain_regrouped (same : vs.flatMap present = ws.flatMap present)
    (apart : ¬(comparator = .between ∧ settings.dates.endOfDay = true)) :
    plain settings field r ⟨comparator, vs.map .literal, trim, upper⟩ =
      plain settings field r ⟨comparator, ws.map .literal, trim, upper⟩ := by
  have midnight : ∀ i, Coercion.clockOfDate settings.dates ⟨comparator, trim, upper, i⟩ = .midnight := by
    intro i
    rcases not_and_or.mp apart with other | disabled
    · exact Coercion.clockOfDate_of_ne other
    · exact Coercion.clockOfDate_disabled _ (Bool.not_eq_true _ ▸ disabled)
  apply plain_congr
  rw [placed_map_eq same]
  intro k raw i j _ _
  exact Coercion.readOrKeep_congr ⟨comparator, trim, upper, 0⟩ r.type raw
    ((midnight i).trans (midnight j).symm)

/-- Ranges are the same if each date ends both or none. -/
theorem ranges_eq {p q : Predicate} (same : vs.flatMap present = ws.flatMap present)
    (enabled : settings.dates.endOfDay = true)
    (made : plain settings field r ⟨.between, vs.map .literal, trim, upper⟩ = .ok p)
    (made' : plain settings field r ⟨.between, ws.map .literal, trim, upper⟩ = .ok q) :
    p = q ↔ ∀ (k : Nat) raw i j, (placed vs)[k]? = some (raw, i) →
      (placed ws)[k]? = some (raw, j) →
      Coercion.NamesDay settings.dates r.type raw → (i = 1 ↔ j = 1) := by
  have read : ∀ raw i j, valueOf settings r.type ⟨.between, trim, upper, 0⟩ (raw, i) =
      valueOf settings r.type ⟨.between, trim, upper, 0⟩ (raw, j) ↔
        (Coercion.NamesDay settings.dates r.type raw → (i = 1 ↔ j = 1)) :=
    fun raw i j => Coercion.readOrKeep_between _ r.type raw rfl enabled
  obtain ⟨low, high, values, rfl⟩ := plain_between made
  obtain ⟨low', high', values', rfl⟩ := plain_between made'
  have literals := placed_map_eq same (valueOf settings r.type ⟨.between, trim, upper, 0⟩)
  simp only [values, values', read] at literals
  simpa using literals

/-- Conditions on the same literals compile to the same predicate, but for ranges of timestamps:
there a date has to stand in the second operand of both or of neither. -/
theorem literal_grouping {s t u : Scope} {p q : Predicate} (leaf : comparator.isComposite = false)
    (same : vs.flatMap present = ws.flatMap present)
    (first : ofCondition settings field enclosing ⟨comparator, vs.map .literal, trim, upper⟩ s =
      (.ok p, t))
    (second : ofCondition settings field enclosing ⟨comparator, ws.map .literal, trim, upper⟩ s =
      (.ok q, u)) :
    ∃ r, Resolve.resolve field s = (.ok r, t) ∧ u = t ∧
      (p = q ↔ (comparator = .between → settings.dates.endOfDay = true →
        ∀ (k : Nat) raw i j, (placed vs)[k]? = some (raw, i) → (placed ws)[k]? = some (raw, j) →
          Coercion.NamesDay settings.dates r.type raw → (i = 1 ↔ j = 1))) := by
  obtain ⟨r, found, made⟩ := ofCondition_literals leaf first
  obtain ⟨r', found', made'⟩ := ofCondition_literals leaf second
  obtain ⟨outcome, rfl⟩ := Prod.mk.inj (found.symm.trans found')
  obtain rfl := Except.ok.inj outcome
  refine ⟨r, found, rfl, ?_⟩
  -- A search takes its literals one by one; a comparison reads them in their operands.
  cases pattern : comparator.isPattern with
  | true =>
    simp only [pattern, true_and, Bool.true_eq_false, false_and, or_false] at made made'
    obtain ⟨parts, made, rfl⟩ := made
    obtain ⟨parts', made', rfl⟩ := made'
    rw [same, made'] at made
    obtain rfl := Except.ok.inj made
    refine ⟨fun _ between => ?_, fun _ => rfl⟩
    rw [between] at pattern
    cases pattern
  | false =>
    simp only [pattern, true_and, Bool.false_eq_true, false_and, false_or] at made made'
    by_cases bounds : comparator = .between ∧ settings.dates.endOfDay = true
    · obtain ⟨rfl, enabled⟩ := bounds
      simpa only [enabled, forall_true_left] using ranges_eq same enabled made made'
    · rw [plain_regrouped same bounds, made'] at made
      exact ⟨fun _ between enabled => absurd ⟨between, enabled⟩ bounds, fun _ =>
        (Except.ok.inj made).symm⟩

end

end Filter

namespace Sample

def event : Entity := ⟨"Event", some "id", [⟨"id", .scalar .int64⟩, ⟨"at", .scalar .timestamp⟩]⟩

def agenda : Scope where
  catalog := { entities := [("Event", event)] }
  root := event
  identifier := "id"
  types := [("Event", event)]

def start : Json := .string "2024-03-01"

def final : Json := .string "2024-03-05"

def during (operands : List Json) : Condition :=
  ⟨.between, operands.map .literal, true, true⟩

theorem final_names_day : Coercion.NamesDay {} (.scalar .timestamp) final :=
  ⟨rfl, "2024-03-05", ⟨738949⟩, rfl, by decide +kernel, by decide +kernel, by decide +kernel,
    by decide +kernel, .midnight, ⟨⟨⟨738949⟩, .midnight⟩⟩, .inl rfl, by decide +kernel⟩

end Sample

namespace Filter

open Sample

/-- The time of the event between two literals, each read as in the operand at its position. -/
def timeBetween (first second : Json × Nat) : Predicate :=
  .between (.field ⟨.root, ["at"], "at"⟩)
    (valueOf {} (.scalar .timestamp) (.ofCondition (during []) 0) first)
    (valueOf {} (.scalar .timestamp) (.ofCondition (during []) 0) second)

theorem literal_grouping_nested :
    ∃ p q, ofCondition {} "at" none (during [.array [start, .null], final]) agenda =
        (.ok p, agenda) ∧
      ofCondition {} "at" none (during [start, final]) agenda = (.ok q, agenda) ∧ p = q := by
  have nested : ofCondition {} "at" none (during [.array [start, .null], final]) agenda =
    (.ok (timeBetween (start, 0) (final, 1)), agenda) := rfl
  have flat : ofCondition {} "at" none (during [start, final]) agenda =
    (.ok (timeBetween (start, 0) (final, 1)), agenda) := rfl
  obtain ⟨r, -, -, grouped⟩ := literal_grouping rfl (by rfl) nested flat
  refine ⟨_, _, nested, flat, grouped.mpr ?_⟩
  intro _ _ k raw i j left right _
  have same : placed [.array [start, .null], final] = placed [start, final] := rfl
  rw [same, right] at left
  obtain ⟨-, rfl⟩ := Prod.mk.inj (Option.some.inj left)
  rfl

/-- With both days in the first operand, the last one is not read to its end. -/
theorem literal_grouping_fails :
    [.array [start, final], .null].flatMap present = [start, final].flatMap present ∧
    ∃ p q, ofCondition {} "at" none (during [.array [start, final], .null]) agenda =
        (.ok p, agenda) ∧
      ofCondition {} "at" none (during [start, final]) agenda = (.ok q, agenda) ∧ p ≠ q := by
  refine ⟨rfl, timeBetween (start, 0) (final, 0), timeBetween (start, 0) (final, 1), rfl, rfl, ?_⟩
  intro same
  obtain ⟨-, -, read⟩ := Predicate.between.inj same
  have positions := (Coercion.readOrKeep_between _ _ _ rfl rfl).mp read final_names_day
  simp at positions

end Filter

end EntitySearch
