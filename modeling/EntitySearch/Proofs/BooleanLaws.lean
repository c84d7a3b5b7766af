import EntitySearch.Proofs.Meaning

/-! The laws of connectives, errors included.

What a predicate comes to on a row is a truth or an error. A conjunction goes on
to its next part unless it is false already, a disjunction unless it is true, so
an error counts only where it is reached. The laws of negation and of nesting
hold for all outcomes; the order of the parts does not count where none fails.
-/

set_option autoImplicit false

namespace EntitySearch

namespace Truth

def rank : Truth → Nat
  | some false => 0
  | none => 1
  | some true => 2

theorem and_some (a b : Bool) : and (some a) (some b) = some (a && b) := by
  cases a <;> rfl

theorem and_left_comm (a b c : Truth) : and a (and b c) = and b (and a c) := by
  rcases a with _ | _ | _ <;> rcases b with _ | _ | _ <;> rcases c with _ | _ | _ <;> rfl

theorem or_left_comm (a b c : Truth) : or a (or b c) = or b (or a c) := by
  rcases a with _ | _ | _ <;> rcases b with _ | _ | _ <;> rcases c with _ | _ | _ <;> rfl

theorem rank_and (a b : Truth) : (and a b).rank = min a.rank b.rank := by
  rcases a with _ | _ | _ <;> rcases b with _ | _ | _ <;> rfl

theorem rank_or (a b : Truth) : (or a b).rank = max a.rank b.rank := by
  rcases a with _ | _ | _ <;> rcases b with _ | _ | _ <;> rfl

theorem rank_all (parts : List Truth) : (all parts).rank = (parts.map rank).foldr min 2 := by
  induction parts with
  | nil => rfl
  | cons t rest ih =>
    rw [List.map_cons, List.foldr_cons, ← ih]
    exact rank_and t (all rest)

theorem rank_any (parts : List Truth) : (any parts).rank = (parts.map rank).foldr max 0 := by
  induction parts with
  | nil => rfl
  | cons t rest ih =>
    rw [List.map_cons, List.foldr_cons, ← ih]
    exact rank_or t (any rest)

theorem all_perm {ts us : List Truth} (same : ts.Perm us) : all ts = all us :=
  same.foldr_eq' (fun t _ u _ z => and_left_comm u t z) (some true)

theorem any_perm {ts us : List Truth} (same : ts.Perm us) : any ts = any us :=
  same.foldr_eq' (fun t _ u _ z => or_left_comm u t z) (some false)

end Truth

abbrev Outcome : Type := Except QueryError Truth

namespace Outcome

def not (o : Outcome) : Outcome := o.map Truth.not

/-- The second outcome counts unless the first is false or an error. -/
def and : Outcome → Outcome → Outcome
  | .error e, _ => .error e
  | .ok (some false), _ => .ok (some false)
  | .ok t, o => o.map (Truth.and t)

def or : Outcome → Outcome → Outcome
  | .error e, _ => .error e
  | .ok (some true), _ => .ok (some true)
  | .ok t, o => o.map (Truth.or t)

def all (os : List Outcome) : Outcome := os.foldr and (.ok (some true))

def any (os : List Outcome) : Outcome := os.foldr or (.ok (some false))

theorem not_and (a b : Outcome) : not (and a b) = or (not a) (not b) := by
  rcases a with _ | _ | _ | _ <;> rcases b with _ | _ | _ | _ <;> rfl

theorem not_or (a b : Outcome) : not (or a b) = and (not a) (not b) := by
  rcases a with _ | _ | _ | _ <;> rcases b with _ | _ | _ | _ <;> rfl

theorem and_assoc (a b c : Outcome) : and (and a b) c = and a (and b c) := by
  rcases a with _ | _ | _ | _ <;> rcases b with _ | _ | _ | _ <;>
    rcases c with _ | _ | _ | _ <;> rfl

theorem or_assoc (a b c : Outcome) : or (or a b) c = or a (or b c) := by
  rcases a with _ | _ | _ | _ <;> rcases b with _ | _ | _ | _ <;>
    rcases c with _ | _ | _ | _ <;> rfl

theorem true_and (a : Outcome) : and (.ok (some true)) a = a := by
  rcases a with _ | _ | _ | _ <;> rfl

theorem false_or (a : Outcome) : or (.ok (some false)) a = a := by
  rcases a with _ | _ | _ | _ <;> rfl

theorem and_true (a : Outcome) : and a (.ok (some true)) = a := by
  rcases a with _ | _ | _ | _ <;> rfl

theorem or_false (a : Outcome) : or a (.ok (some false)) = a := by
  rcases a with _ | _ | _ | _ <;> rfl

theorem not_all (os : List Outcome) : not (all os) = any (os.map not) := by
  induction os with
  | nil => rfl
  | cons o rest ih =>
    calc not (and o (all rest)) = or (not o) (not (all rest)) := not_and o (all rest)
      _ = or (not o) (any (rest.map not)) := by rw [ih]

theorem not_any (os : List Outcome) : not (any os) = all (os.map not) := by
  induction os with
  | nil => rfl
  | cons o rest ih =>
    calc not (or o (any rest)) = and (not o) (not (any rest)) := not_or o (any rest)
      _ = and (not o) (all (rest.map not)) := by rw [ih]

theorem all_append (os us : List Outcome) : all (os ++ us) = and (all os) (all us) := by
  induction os with
  | nil => exact (true_and (all us)).symm
  | cons o rest ih =>
    calc and o (all (rest ++ us)) = and o (and (all rest) (all us)) := by rw [ih]
      _ = and (and o (all rest)) (all us) := (and_assoc o (all rest) (all us)).symm

theorem any_append (os us : List Outcome) : any (os ++ us) = or (any os) (any us) := by
  induction os with
  | nil => exact (false_or (any us)).symm
  | cons o rest ih =>
    calc or o (any (rest ++ us)) = or o (or (any rest) (any us)) := by rw [ih]
      _ = or (or o (any rest)) (any us) := (or_assoc o (any rest) (any us)).symm

end Outcome

theorem Value.compare?_null (v : Value) : v.compare? .null = none := by
  cases v <;> rfl

theorem CompareOp.truth_of_present (op : CompareOp) {a b : Value} (left : a.isNull = false)
    (right : b.isNull = false) : op.truth a b = op.holds a b := by
  simp [truth, left, right]

theorem CompareOp.truth_of_order (op : CompareOp) (f : Ordering → Bool) {a : Value}
    (order : ∀ b, op.holds a b = (a.compare? b).map f) (present : a.isNull = false) (b : Value) :
    op.truth a b = (a.compare? b).map f := by
  cases null : b.isNull with
  | false => rw [truth_of_present op present null, order]
  | true =>
    cases b with
    | null => simp [truth, Value.compare?_null, null]
    | _ => cases null

theorem Value.isWithin_eq (low high v : Value) :
    isWithin low high v = Truth.and (CompareOp.ge.truth v low) (CompareOp.le.truth v high) := by
  cases null : v.isNull with
  | true => simp [isWithin, CompareOp.truth, null, Truth.and]
  | false =>
    rw [CompareOp.truth_of_order .ge Ordering.isGE (fun _ => rfl) null,
      CompareOp.truth_of_order .le Ordering.isLE (fun _ => rfl) null, isWithin,
      if_neg (Bool.eq_false_iff.mp null)]

namespace Predicate

variable {row : Row} {ps qs : List Predicate}

theorem eval_not (row : Row) (p : Predicate) : (Predicate.not p).eval row = Outcome.not (p.eval row) := by
  rw [Predicate.eval]
  rfl

/-- A conjunction takes the outcomes of its parts together. -/
theorem eval_and (row : Row) (ps : List Predicate) :
    (Predicate.and ps).eval row = Outcome.all (ps.map (eval row)) := by
  rw [Predicate.eval]
  induction ps with
  | nil => rw [evalAnd]; rfl
  | cons p rest ih =>
    rw [evalAnd, ih]
    change _ = Outcome.and (p.eval row) (Outcome.all (rest.map (eval row)))
    rcases p.eval row with _ | _ | _ | _ <;>
      rcases Outcome.all (rest.map (eval row)) with _ | _ <;> rfl

theorem eval_or (row : Row) (ps : List Predicate) :
    (Predicate.or ps).eval row = Outcome.any (ps.map (eval row)) := by
  rw [Predicate.eval]
  induction ps with
  | nil => rw [evalOr]; rfl
  | cons p rest ih =>
    rw [evalOr, ih]
    change _ = Outcome.or (p.eval row) (Outcome.any (rest.map (eval row)))
    rcases p.eval row with _ | _ | _ | _ <;>
      rcases Outcome.any (rest.map (eval row)) with _ | _ <;> rfl

theorem eval_not_and (row : Row) (ps : List Predicate) :
    (Predicate.not (.and ps)).eval row = (Predicate.or (ps.map .not)).eval row := by
  rw [eval_not, eval_and, Outcome.not_all, eval_or, List.map_map, List.map_map]
  exact congrArg Outcome.any (List.map_congr_left fun p _ => (eval_not row p).symm)

theorem eval_not_or (row : Row) (ps : List Predicate) :
    (Predicate.not (.or ps)).eval row = (Predicate.and (ps.map .not)).eval row := by
  rw [eval_not, eval_or, Outcome.not_any, eval_and, List.map_map, List.map_map]
  exact congrArg Outcome.all (List.map_congr_left fun p _ => (eval_not row p).symm)

theorem eval_and_nested (row : Row) (ps qs rs : List Predicate) :
    (Predicate.and (ps ++ [.and qs] ++ rs)).eval row = (Predicate.and (ps ++ qs ++ rs)).eval row := by
  simp only [eval_and, List.map_append, List.map_cons, List.map_nil, Outcome.all_append]
  rw [show Outcome.all [Outcome.all (qs.map (eval row))] = Outcome.all (qs.map (eval row)) from
    Outcome.and_true _]

theorem eval_or_nested (row : Row) (ps qs rs : List Predicate) :
    (Predicate.or (ps ++ [.or qs] ++ rs)).eval row = (Predicate.or (ps ++ qs ++ rs)).eval row := by
  simp only [eval_or, List.map_append, List.map_cons, List.map_nil, Outcome.any_append]
  rw [show Outcome.any [Outcome.any (qs.map (eval row))] = Outcome.any (qs.map (eval row)) from
    Outcome.or_false _]

theorem eval_all (row : Row) (ps : List Predicate) :
    (Predicate.all ps).eval row = (Predicate.and ps).eval row := by
  unfold Predicate.all
  split
  · next p =>
    rw [eval_and]
    exact (Outcome.and_true (p.eval row)).symm
  · rfl

theorem eval_any (row : Row) (ps : List Predicate) :
    (Predicate.any ps).eval row = (Predicate.or ps).eval row := by
  unfold Predicate.any
  split
  · next p =>
    rw [eval_or]
    exact (Outcome.or_false (p.eval row)).symm
  · rfl

theorem eval_compareTo (row : Row) (op : CompareOp) (e : Expr) (v : Value) :
    (compareTo op e v).eval row = (e.eval row).map fun a => op.truth a v := by
  rw [compareTo, Predicate.eval]
  cases e.eval row with
  | error fault => rfl
  | ok a =>
    rw [Expr.eval]
    rfl

theorem eval_between (row : Row) (e : Expr) (low high : Value) :
    (Predicate.between e low high).eval row =
      (Predicate.and [compareTo .ge e low, compareTo .le e high]).eval row := by
  rw [eval_and, List.map_cons, List.map_cons, List.map_nil, eval_compareTo, eval_compareTo,
    Predicate.eval]
  cases e.eval row with
  | error fault => rfl
  | ok v =>
    -- A part that is false hides the other one, but no bound can fail.
    change Except.ok (Value.isWithin low high v) = Outcome.and (.ok (CompareOp.ge.truth v low))
      (Outcome.and (.ok (CompareOp.le.truth v high)) (.ok (some true)))
    rw [Outcome.and_true, Value.isWithin_eq]
    rcases CompareOp.ge.truth v low with _ | _ | _ <;> rfl

theorem HaveTruths.of_total (held : ∀ p ∈ ps, ∃ t, p.eval row = .ok t) :
    HaveTruths row ps (ps.map fun p => (p.eval row).toOption.join) := by
  rw [HaveTruths, List.map_map]
  apply List.map_congr_left
  intro p member
  obtain ⟨t, value⟩ := held p member
  rw [Function.comp_apply, value]
  rfl

theorem eval_and_perm (same : qs.Perm ps) (held : ∀ p ∈ ps, ∃ t, p.eval row = .ok t) :
    (Predicate.and qs).eval row = (Predicate.and ps).eval row := by
  -- The order decides which of two errors is seen, so that none may be there.
  have held' : ∀ p ∈ qs, ∃ t, p.eval row = .ok t := fun p member => held p (same.subset member)
  rw [(HaveTruths.of_total held).and, (HaveTruths.of_total held').and]
  exact congrArg Except.ok (Truth.all_perm (same.map _))

theorem eval_or_perm (same : qs.Perm ps) (held : ∀ p ∈ ps, ∃ t, p.eval row = .ok t) :
    (Predicate.or qs).eval row = (Predicate.or ps).eval row := by
  have held' : ∀ p ∈ qs, ∃ t, p.eval row = .ok t := fun p member => held p (same.subset member)
  rw [(HaveTruths.of_total held).or, (HaveTruths.of_total held').or]
  exact congrArg Except.ok (Truth.any_perm (same.map _))

/-- Connectives keep the laws of negation, of nesting and of ranges with every outcome of their
parts, and are the least and the greatest truth of parts that do not fail, in whatever order. -/
theorem boolean_laws (row : Row) (ps qs rs : List Predicate) (e : Expr) (low high : Value) :
    (Predicate.not (.and ps)).eval row = (Predicate.or (ps.map .not)).eval row ∧
    (Predicate.not (.or ps)).eval row = (Predicate.and (ps.map .not)).eval row ∧
    (Predicate.and (ps ++ [.and qs] ++ rs)).eval row = (Predicate.and (ps ++ qs ++ rs)).eval row ∧
    (Predicate.or (ps ++ [.or qs] ++ rs)).eval row = (Predicate.or (ps ++ qs ++ rs)).eval row ∧
    (Predicate.all ps).eval row = (Predicate.and ps).eval row ∧
    (Predicate.any ps).eval row = (Predicate.or ps).eval row ∧
    (Predicate.between e low high).eval row =
      (Predicate.and [compareTo .ge e low, compareTo .le e high]).eval row ∧
    ((∀ p ∈ ps, ∃ t, p.eval row = .ok t) →
      (∀ others : List Predicate, others.Perm ps →
        (Predicate.and others).eval row = (Predicate.and ps).eval row ∧
        (Predicate.or others).eval row = (Predicate.or ps).eval row) ∧
      ∃ ts, HaveTruths row ps ts ∧
        (∃ t, (Predicate.and ps).eval row = .ok t ∧ t.rank = (ts.map Truth.rank).foldr min 2) ∧
        ∃ t, (Predicate.or ps).eval row = .ok t ∧ t.rank = (ts.map Truth.rank).foldr max 0) := by
  refine ⟨eval_not_and row ps, eval_not_or row ps, eval_and_nested row ps qs rs,
    eval_or_nested row ps qs rs, eval_all row ps, eval_any row ps, eval_between row e low high, ?_⟩
  intro held
  have truths := HaveTruths.of_total held
  refine ⟨fun others same => ⟨eval_and_perm same held, eval_or_perm same held⟩, _, truths, ?_, ?_⟩
  · exact ⟨_, truths.and, Truth.rank_all _⟩
  · exact ⟨_, truths.or, Truth.rank_any _⟩

end Predicate

namespace Sample

def parts : List Predicate :=
  [.isNotNull (.field ⟨.root, ["id"], "id"⟩),
    .compareTo .eq (.field ⟨.root, ["name"], "name"⟩) (.string "Ann"),
    .compareTo .lt (.field ⟨.root, ["id"], "id"⟩) (.int 0)]

end Sample

namespace Predicate

theorem boolean_laws_unnamed :
    (∀ p ∈ Sample.parts, ∃ t, p.eval (Sample.row 3 .null) = .ok t) ∧
    (Predicate.and Sample.parts.reverse).eval (Sample.row 3 .null) = .ok (some false) ∧
    (Predicate.or Sample.parts.reverse).eval (Sample.row 3 .null) = .ok (some true) := by
  have truths : HaveTruths (Sample.row 3 .null) Sample.parts [some true, none, some false] := rfl
  have held : ∀ p ∈ Sample.parts, ∃ t, p.eval (Sample.row 3 .null) = .ok t := by
    intro p member
    have outcome := List.mem_map_of_mem (f := Predicate.eval (Sample.row 3 .null)) member
    rw [truths] at outcome
    obtain ⟨t, -, value⟩ := List.mem_map.mp outcome
    exact ⟨t, value.symm⟩
  obtain ⟨-, -, -, -, -, -, -, ordered⟩ :=
    boolean_laws (Sample.row 3 .null) Sample.parts [] [] (.literal .null) .null .null
  obtain ⟨conjunction, disjunction⟩ := (ordered held).1 _ (List.reverse_perm Sample.parts)
  exact ⟨held, conjunction.trans truths.and, disjunction.trans truths.or⟩

end Predicate

end EntitySearch
