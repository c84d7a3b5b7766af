import EntitySearch.Proofs.BooleanLaws
import EntitySearch.Proofs.TextSearch

/-! Comparisons with literals, and which of them are complements.

A comparison compiles if it has enough literals and its attribute is found. Its
predicate depends on how many literals are left without the nulls, but not what
it says: to be none of them is the negation of being one of them, and to be above
a literal is the negation of being at most it, where unknown stays unknown.
-/

set_option autoImplicit false

namespace EntitySearch

namespace CompareOp

theorem truth_of_holds {op other : CompareOp}
    (opposite : ∀ a b, op.holds a b = Truth.not (other.holds a b)) (a b : Value) :
    op.truth a b = Truth.not (other.truth a b) := by
  unfold truth
  split
  · rfl
  · exact opposite a b

theorem truth_gt (a b : Value) : gt.truth a b = Truth.not (le.truth a b) := by
  apply truth_of_holds
  intro a b
  simp only [holds]
  rcases a.compare? b with _ | _ | _ | _ <;> rfl

theorem truth_ge (a b : Value) : ge.truth a b = Truth.not (lt.truth a b) := by
  apply truth_of_holds
  intro a b
  simp only [holds]
  rcases a.compare? b with _ | _ | _ | _ <;> rfl

theorem truth_eq {b : Value} (present : b.isNull = false) (a : Value) :
    eq.truth a b = Value.isAmong [b] false a := by
  simp [truth, holds, Value.isAmong, present]

theorem truth_ne {b : Value} (present : b.isNull = false) (a : Value) :
    ne.truth a b = Value.isAmong [b] true a := by
  simp [truth, holds, Value.isAmong, present]

end CompareOp

theorem Value.isAmong_not (values : List Value) (v : Value) :
    isAmong values true v = Truth.not (isAmong values false v) := by
  unfold isAmong
  split
  · rfl
  · simp [Truth.not]

theorem Value.isNull_of_isComparable {v : Value} (comparable : v.isComparable = true) :
    v.isNull = false := by
  cases v with
  | null => cases comparable
  | _ => rfl

theorem Value.isNull_ofJson (raw : Json) : (Value.ofJson raw).isNull = raw.isNull := by
  cases raw with
  | number n =>
    cases n with
    | int i =>
      rw [Value.ofJson]
      split <;> rfl
    | float x => rfl
  | _ => rfl

theorem Value.isComparable_ofJson {raw : Json} (scalar : raw.isScalar = true) :
    (Value.ofJson raw).isComparable = true := by
  cases raw with
  | number n =>
    cases n with
    | int i =>
      rw [Value.ofJson]
      split <;> rfl
    | float x => rfl
  | bool | string => rfl
  | null | array | object => cases scalar

namespace Coercion

variable {settings : DateSettings} {r r' : Reading} {type : FieldType} {raw : Json}

theorem ofText?_comparable {text : String} {v : Value}
    (read : ofText? settings r type text = some v) : v.isComparable = true := by
  have wrapped : ∀ {α : Type} {o : Option α} {wrap : α → Value},
      (∀ a, (wrap a).isComparable = true) → o.map wrap = some v → v.isComparable = true := by
    rintro α o wrap all held
    obtain ⟨a, -, rfl⟩ := Option.map_eq_some_iff.mp held
    exact all a
  cases type with
  | scalar s =>
    cases s <;> simp only [ofText?, scalar?, int?] at read
    case string | char =>
      obtain rfl := Option.some.inj read
      rfl
    case int16 | int32 | int64 =>
      obtain ⟨i, -, held⟩ := Option.bind_eq_some_iff.mp read
      exact wrapped (fun _ => rfl) held
    all_goals exact wrapped (fun _ => rfl) read
  | enumeration name variants =>
    simp only [ofText?] at read
    split at read
    · obtain rfl := Option.some.inj read
      rfl
    · cases read
  | embedded | compositeKey | relation => cases read

theorem readOrKeep_cases (settings : DateSettings) (r : Reading) (type : FieldType)
    (present : raw.isNull = false) : (readOrKeep settings r type raw).isComparable = true ∨
      readOrKeep settings r type raw = .ofJson raw := by
  simp only [readOrKeep, read, present, Bool.false_eq_true, if_false]
  split
  · next v read =>
    left
    split at read
    · cases read
    · split at read
      · next found =>
        obtain rfl := Except.ok.inj read
        exact ofText?_comparable found
      · cases read
  · exact .inr rfl

theorem isNull_readOrKeep (settings : DateSettings) (r : Reading) (type : FieldType)
    (present : raw.isNull = false) : (readOrKeep settings r type raw).isNull = false := by
  rcases readOrKeep_cases settings r type present with comparable | kept
  · exact Value.isNull_of_isComparable comparable
  · rw [kept, Value.isNull_ofJson, present]

theorem isComparable_readOrKeep (settings : DateSettings) (r : Reading) (type : FieldType)
    (scalar : raw.isScalar = true) : (readOrKeep settings r type raw).isComparable = true := by
  rcases readOrKeep_cases settings r type (Json.isNull_of_isScalar scalar) with comparable | kept
  · exact comparable
  · rw [kept]
    exact Value.isComparable_ofJson scalar

end Coercion

def Comparator.isComparison : Comparator → Bool
  | .eq | .ne | .gt | .ge | .lt | .le | .isIn | .notIn | .between => true
  | _ => false

namespace Filter

/-- Both fail, or both compile, and the second comes to what `f` makes of the first. -/
def Agree (f : Outcome → Outcome) (first second : Except QueryError Predicate × Scope) : Prop :=
  (∃ p q t, first = (.ok p, t) ∧ second = (.ok q, t) ∧ ∀ row, q.eval row = f (p.eval row)) ∨
    ∃ e e' t, first = (.error e, t) ∧ second = (.error e', t)

section
variable {settings : CompilerSettings} {field : String} {enclosing : Option Comparator}
  {comparator other : Comparator} {trim upper : Bool} {vs : List Json} {s t : Scope} {r : Resolved}

def comparing (comparator : Comparator) (trim upper : Bool) (vs : List Json) : Condition :=
  ⟨comparator, vs.map .literal, trim, upper⟩

def valuesOf (settings : CompilerSettings) (type : FieldType) (comparator : Comparator)
    (trim upper : Bool) (vs : List Json) : List Value :=
  (placed vs).map (valueOf settings type ⟨comparator, trim, upper, 0⟩)

theorem ofCondition_comparing (compares : comparator.isComparison = true) :
    ofCondition settings field enclosing (comparing comparator trim upper vs) = (do
      checked (comparing comparator trim upper vs)
      let r ← Resolve.resolve field
      Resolve.ofExcept (compareValues r (comparing comparator trim upper vs)
        (valuesOf settings r.type comparator trim upper vs))) := by
  have read : ∀ r : Resolved, plain settings field r (comparing comparator trim upper vs) =
      compareValues r (comparing comparator trim upper vs)
        (valuesOf settings r.type comparator trim upper vs) := by
    intro r
    unfold plain comparing
    rw [literalValues_eq]
    cases comparator with
    | eq | ne | gt | ge | lt | le | isIn | notIn | between => rfl
    | _ => cases compares
  simp only [← read]
  unfold comparing ofCondition
  cases comparator with
  | eq | ne | gt | ge | lt | le | isIn | notIn | between => rfl
  | _ => cases compares

def Accepted (comparator : Comparator) (vs : List Json) : Prop :=
  (Condition.expectedCount comparator).allows vs.length = true

theorem checked_accepted (trim upper : Bool) (accepted : Accepted comparator vs) (s : Scope) :
    checked (comparing comparator trim upper vs) s = (.ok (), s) := by
  have valid : (comparing comparator trim upper vs).validate = .ok () := by
    rw [Condition.validate, comparing, List.length_map]
    exact if_pos accepted
  rw [checked, valid]
  rfl

theorem comparing_found (compares : comparator.isComparison = true)
    (accepted : Accepted comparator vs) (found : Resolve.resolve field s = (.ok r, t)) :
    ofCondition settings field enclosing (comparing comparator trim upper vs) s =
      (compareValues r (comparing comparator trim upper vs)
        (valuesOf settings r.type comparator trim upper vs), t) := by
  rw [ofCondition_comparing compares]
  refine (run_bind_ok (checked_accepted trim upper accepted s)).trans ?_
  exact run_bind_ok found

theorem comparing_lost {e : QueryError} (compares : comparator.isComparison = true)
    (accepted : Accepted comparator vs) (lost : Resolve.resolve field s = (.error e, t)) :
    ofCondition settings field enclosing (comparing comparator trim upper vs) s = (.error e, t) := by
  rw [ofCondition_comparing compares]
  refine (run_bind_ok (checked_accepted trim upper accepted s)).trans ?_
  exact run_bind_error lost

theorem comparing_refused (settings : CompilerSettings) (field : String)
    (enclosing : Option Comparator) (trim upper : Bool) (s : Scope)
    (compares : comparator.isComparison = true) (refused : ¬Accepted comparator vs) :
    ∃ e, ofCondition settings field enclosing (comparing comparator trim upper vs) s =
      (.error e, s) := by
  rw [ofCondition_comparing compares]
  have invalid : (comparing comparator trim upper vs).validate =
      .error (.wrongCount comparator (Condition.expectedCount comparator) vs.length) := by
    rw [Condition.validate, comparing, List.length_map]
    exact if_neg refused
  have checks : checked (comparing comparator trim upper vs) s = (.error (.document
      (.wrongCount comparator (Condition.expectedCount comparator) vs.length)), s) := by
    rw [checked, invalid]
    rfl
  exact ⟨_, run_bind_error checks⟩

/-- Comparisons agree if what they compile to does, wherever the attribute is found. -/
theorem Agree.of_compared {f : Outcome → Outcome} (compares : comparator.isComparison = true)
    (compares' : other.isComparison = true)
    (counted : Accepted comparator vs ↔ Accepted other vs)
    (compared : ∀ r : Resolved, ∃ p q,
      compareValues r (comparing comparator trim upper vs)
        (valuesOf settings r.type comparator trim upper vs) = .ok p ∧
      compareValues r (comparing other trim upper vs)
        (valuesOf settings r.type other trim upper vs) = .ok q ∧
      ∀ row, q.eval row = f (p.eval row)) :
    Agree f (ofCondition settings field enclosing (comparing comparator trim upper vs) s)
      (ofCondition settings field enclosing (comparing other trim upper vs) s) := by
  -- The literals are counted before the attribute is looked for; either step fails for both.
  by_cases accepted : Accepted comparator vs
  · cases ran : Resolve.resolve field s with
    | mk outcome t =>
      cases outcome with
      | error e =>
        exact .inr ⟨e, e, t, comparing_lost compares accepted ran,
          comparing_lost compares' (counted.mp accepted) ran⟩
      | ok r =>
        obtain ⟨p, q, first, second, same⟩ := compared r
        refine .inl ⟨p, q, t, ?_, ?_, same⟩
        · rw [comparing_found compares accepted ran, first]
        · rw [comparing_found compares' (counted.mp accepted) ran, second]
  · have refused : ¬Accepted other vs := fun held => accepted (counted.mpr held)
    obtain ⟨e, first⟩ := comparing_refused settings field enclosing trim upper s compares accepted
    obtain ⟨e', second⟩ := comparing_refused settings field enclosing trim upper s compares' refused
    exact .inr ⟨e, e', s, first, second⟩

theorem valuesOf_congr (type : FieldType) (apart : comparator ≠ .between)
    (apart' : other ≠ .between) :
    valuesOf settings type comparator trim upper vs = valuesOf settings type other trim upper vs := by
  apply List.map_congr_left
  rintro ⟨raw, index⟩ -
  -- Reading asks for the comparator only where a date ends a range.
  have clock : Coercion.clockOfDate settings.dates ⟨comparator, trim, upper, index⟩ =
      Coercion.clockOfDate settings.dates ⟨other, trim, upper, index⟩ := by
    rw [Coercion.clockOfDate_of_ne apart, Coercion.clockOfDate_of_ne apart']
  exact congrFun (congrFun (Coercion.readOrKeep_same clock rfl) type) raw

theorem mem_placed {raw : Json} {index : Nat} (held : (raw, index) ∈ placed vs) :
    isNullLiteral raw = false := by
  simp only [placed, List.mem_flatMap, List.mem_map, present, List.mem_filter] at held
  obtain ⟨_, -, _, ⟨-, given⟩, same⟩ := held
  obtain ⟨rfl, -⟩ := Prod.mk.inj same
  simpa using given

theorem isNull_of_present {raw : Json} (given : isNullLiteral raw = false) : raw.isNull = false := by
  cases raw with
  | null => cases given
  | _ => rfl

theorem valuesOf_present (type : FieldType) :
    ∀ v ∈ valuesOf settings type comparator trim upper vs, v.isNull = false := by
  intro v member
  obtain ⟨⟨raw, index⟩, held, rfl⟩ := List.mem_map.mp member
  exact Coercion.isNull_readOrKeep _ _ _ (isNull_of_present (mem_placed held))

theorem placed_scalar {raw : Json} (scalar : raw.isScalar = true)
    (given : isNullLiteral raw = false) : placed [raw] = [(raw, 0)] := by
  simp [placed, present_scalar scalar given]

theorem valuesOf_scalar (type : FieldType) {raw : Json} (scalar : raw.isScalar = true)
    (given : isNullLiteral raw = false) :
    ∃ v, valuesOf settings type comparator trim upper [raw] = [v] ∧ v.isComparable = true := by
  rw [valuesOf, placed_scalar scalar given]
  exact ⟨_, rfl, Coercion.isComparable_readOrKeep _ _ _ scalar⟩

theorem excluded_eval (row : Row) (e column : Expr) (values : List Value) :
    (if values.isEmpty then Predicate.isNotNull e else .isIn column values true).eval row =
      Outcome.not
        ((if values.isEmpty then Predicate.isNull e else .isIn column values false).eval row) := by
  cases values with
  | nil =>
    rw [List.isEmpty_nil, if_pos rfl, if_pos rfl, Predicate.eval, Predicate.eval]
    cases e.eval row <;> rfl
  | cons v rest =>
    rw [List.isEmpty_cons, if_neg Bool.false_ne_true, if_neg Bool.false_ne_true, Predicate.eval,
      Predicate.eval]
    cases column.eval row with
    | error fault => rfl
    | ok a => exact congrArg Except.ok (Value.isAmong_not (v :: rest) a)

theorem ne_compared (trim upper : Bool) (vs : List Json) (r : Resolved) {values : List Value}
    (present : ∀ v ∈ values, v.isNull = false) :
    ∃ p, compareValues r (comparing .ne trim upper vs) values = .ok p ∧ ∀ row, p.eval row =
      (if values.isEmpty then Predicate.isNotNull r.expr
        else .isIn (column r (comparing .ne trim upper vs)) values true).eval row := by
  unfold compareValues
  match values, present with
  | [], _ => exact ⟨_, rfl, fun row => rfl⟩
  | [v], present =>
    refine ⟨_, rfl, fun row => ?_⟩
    rw [Predicate.eval_compareTo, List.isEmpty_cons, if_neg Bool.false_ne_true, Predicate.eval]
    exact congrArg (Except.map · _) (funext (CompareOp.truth_ne (present v List.mem_cons_self)))
  | _ :: _ :: _, _ => exact ⟨_, rfl, fun row => rfl⟩

theorem order_compared (r : Resolved) {v : Value} (comparable : v.isComparable = true)
    (ordered : comparator ∈ [.gt, .ge, .lt, .le]) :
    compareValues r (comparing comparator trim upper vs) [v] =
      .ok (.compareTo (orderOp comparator) (column r (comparing comparator trim upper vs)) v) := by
  have chosen : (if v.isComparable then orderOp comparator else .eq) = orderOp comparator :=
    if_pos comparable
  simp only [List.mem_cons, List.not_mem_nil, or_false] at ordered
  rcases ordered with rfl | rfl | rfl | rfl <;>
    exact congrArg (fun op => Except.ok (Predicate.compareTo op (column r _) v)) chosen

theorem agree_notIn :
    Agree Outcome.not (ofCondition settings field enclosing (comparing .isIn trim upper vs) s)
      (ofCondition settings field enclosing (comparing .notIn trim upper vs) s) := by
  have read : ∀ type, valuesOf settings type .notIn trim upper vs =
      valuesOf settings type .isIn trim upper vs :=
    fun type => valuesOf_congr type (by decide) (by decide)
  refine Agree.of_compared ?_ ?_ Iff.rfl fun r => ?_
  · rfl
  · rfl
  · rw [read]
    exact ⟨_, _, rfl, rfl, fun row => excluded_eval row _ _ _⟩

theorem agree_ne :
    Agree id (ofCondition settings field enclosing (comparing .notIn trim upper vs) s)
      (ofCondition settings field enclosing (comparing .ne trim upper vs) s) := by
  have read : ∀ type, valuesOf settings type .notIn trim upper vs =
      valuesOf settings type .ne trim upper vs :=
    fun type => valuesOf_congr type (by decide) (by decide)
  refine Agree.of_compared ?_ ?_ Iff.rfl fun r => ?_
  · rfl
  · rfl
  · rw [read]
    obtain ⟨p, compared, same⟩ := ne_compared trim upper vs r (valuesOf_present r.type)
    exact ⟨_, p, rfl, compared, same⟩

theorem Agree.trans {f g : Outcome → Outcome} {a b c : Except QueryError Predicate × Scope}
    (first : Agree f a b) (second : Agree g b c) : Agree (g ∘ f) a c := by
  rcases first with ⟨p, q, t, rfl, rfl, same⟩ | ⟨e, e', t, rfl, rfl⟩
  · rcases second with ⟨_, n, _, held, rfl, same'⟩ | ⟨_, _, _, held, -⟩
    · obtain ⟨kept, rfl⟩ := Prod.mk.inj held
      obtain rfl := Except.ok.inj kept
      exact .inl ⟨p, n, t, rfl, rfl, fun row => (same' row).trans (congrArg g (same row))⟩
    · cases held
  · rcases second with ⟨_, _, _, held, -, -⟩ | ⟨_, e'', _, held, rfl⟩
    · cases held
    · obtain ⟨-, rfl⟩ := Prod.mk.inj held
      exact .inr ⟨e, e'', t, rfl, rfl⟩

theorem isIn_compiles :
    (∃ p t, ofCondition settings field enclosing (comparing .isIn trim upper vs) s = (.ok p, t)) ↔
      vs ≠ [] ∧ ∃ r t, Resolve.resolve field s = (.ok r, t) := by
  have counted : Accepted .isIn vs ↔ vs ≠ [] := by
    cases vs <;> simp [Accepted, Condition.expectedCount, ValueCount.allows]
  rw [← counted]
  constructor
  · rintro ⟨p, t, compiled⟩
    by_cases accepted : Accepted .isIn vs
    · cases ran : Resolve.resolve field s with
      | mk outcome u =>
        cases outcome with
        | ok r => exact ⟨accepted, r, u, rfl⟩
        | error e =>
          rw [comparing_lost rfl accepted ran] at compiled
          cases compiled
    · obtain ⟨e, refused⟩ := comparing_refused settings field enclosing trim upper s rfl accepted
      rw [refused] at compiled
      cases compiled
  · rintro ⟨accepted, r, t, found⟩
    exact ⟨_, t, comparing_found rfl accepted found⟩

section
variable {raw : Json} (scalar : raw.isScalar = true) (given : isNullLiteral raw = false)
include scalar given

theorem agree_eq :
    Agree id (ofCondition settings field enclosing (comparing .isIn trim upper [raw]) s)
      (ofCondition settings field enclosing (comparing .eq trim upper [raw]) s) := by
  have read : ∀ type, valuesOf settings type .eq trim upper [raw] =
      valuesOf settings type .isIn trim upper [raw] :=
    fun type => valuesOf_congr type (by decide) (by decide)
  refine Agree.of_compared ?_ ?_ Iff.rfl fun r => ?_
  · rfl
  · rfl
  · obtain ⟨v, value, comparable⟩ := valuesOf_scalar r.type scalar given
    rw [read, value]
    refine ⟨_, _, rfl, rfl, fun row => ?_⟩
    rw [Predicate.eval_compareTo, List.isEmpty_cons, if_neg Bool.false_ne_true, Predicate.eval]
    have present := Value.isNull_of_isComparable comparable
    exact congrArg (Except.map · _) (funext (CompareOp.truth_eq present))

theorem agree_order (ordered : comparator ∈ [.gt, .ge, .lt, .le])
    (ordered' : other ∈ [.gt, .ge, .lt, .le])
    (opposite : ∀ a b, (orderOp other).truth a b = Truth.not ((orderOp comparator).truth a b)) :
    Agree Outcome.not (ofCondition settings field enclosing (comparing comparator trim upper [raw]) s)
      (ofCondition settings field enclosing (comparing other trim upper [raw]) s) := by
  have facts : ∀ c : Comparator, c ∈ [.gt, .ge, .lt, .le] → c.isComparison = true ∧ c ≠ .between ∧
      Accepted c [raw] := by
    intro c held
    simp only [List.mem_cons, List.not_mem_nil, or_false] at held
    rcases held with rfl | rfl | rfl | rfl <;> exact ⟨rfl, by decide, rfl⟩
  obtain ⟨compares, apart, accepted⟩ := facts comparator ordered
  obtain ⟨compares', apart', accepted'⟩ := facts other ordered'
  apply Agree.of_compared compares compares' (iff_of_true accepted accepted')
  intro r
  rw [valuesOf_congr r.type apart' apart]
  obtain ⟨v, read, comparable⟩ := valuesOf_scalar r.type scalar given
  rw [read]
  refine ⟨_, _, order_compared r comparable ordered, order_compared r comparable ordered',
    fun row => ?_⟩
  have same : column r (comparing other trim upper [raw]) =
      column r (comparing comparator trim upper [raw]) := rfl
  rw [Predicate.eval_compareTo, Predicate.eval_compareTo, same]
  cases (column r (comparing comparator trim upper [raw])).eval row with
  | error fault => rfl
  | ok a => exact congrArg Except.ok (opposite a v)

end

end

/-- Membership and its negations compile together, to complements of one another; a comparison with
one literal is the complement of the opposite one. -/
theorem complements (settings : CompilerSettings) (field : String) (enclosing : Option Comparator)
    (trim upper : Bool) (s : Scope) :
    let compile := fun comparator vs =>
      ofCondition settings field enclosing (comparing comparator trim upper vs) s
    (∀ vs : List Json,
      ((∃ p t, compile .isIn vs = (.ok p, t)) ↔
        vs ≠ [] ∧ ∃ r t, Resolve.resolve field s = (.ok r, t)) ∧
      Agree id (compile .notIn vs) (compile .ne vs) ∧
      Agree Outcome.not (compile .isIn vs) (compile .notIn vs) ∧
      Agree Outcome.not (compile .isIn vs) (compile .ne vs)) ∧
    ∀ raw : Json, raw.isScalar = true → isNullLiteral raw = false →
      Agree id (compile .isIn [raw]) (compile .eq [raw]) ∧
      Agree Outcome.not (compile .le [raw]) (compile .gt [raw]) ∧
      Agree Outcome.not (compile .lt [raw]) (compile .ge [raw]) := by
  constructor
  · intro vs
    exact ⟨isIn_compiles, agree_ne, agree_notIn, agree_notIn.trans agree_ne⟩
  · intro raw scalar given
    refine ⟨agree_eq scalar given, ?_, ?_⟩
    · exact agree_order scalar given (by decide) (by decide) CompareOp.truth_gt
    · exact agree_order scalar given (by decide) (by decide) CompareOp.truth_ge

theorem complements_name :
    (∃ p t, ofCondition {} "name" none (comparing .isIn true true [.string "Bob"]) Sample.scope =
      (.ok p, t)) ∧
    isNullLiteral (.string "Bob") = false ∧
    Agree Outcome.not
      (ofCondition {} "name" none (comparing .le true true [.string "Bob"]) Sample.scope)
      (ofCondition {} "name" none (comparing .gt true true [.string "Bob"]) Sample.scope) := by
  obtain ⟨members, single⟩ := complements {} "name" none true true Sample.scope
  have given : isNullLiteral (.string "Bob") = false := by decide
  have found : Resolve.resolve "name" Sample.scope =
      (.ok ⟨⟨.root, ["name"], "name"⟩, .scalar .string⟩, Sample.scope) := rfl
  refine ⟨?_, given, (single (.string "Bob") rfl given).2.1⟩
  exact (members [.string "Bob"]).1.mpr ⟨List.cons_ne_nil _ _, _, _, found⟩

end Filter

end EntitySearch
