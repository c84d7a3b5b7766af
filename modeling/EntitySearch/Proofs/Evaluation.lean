import EntitySearch.Run.Evaluate

/-! Expressions and predicates that have a value on every row.

Evaluation fails in calls of functions only. Everything that is built without a
call is total.
-/

set_option autoImplicit false

namespace EntitySearch

attribute [local simp] Expr.eval Predicate.eval Predicate.evalAnd Predicate.evalOr Except.map
  Except.bind

def Expr.Total (e : Expr) : Prop := ∀ row, ∃ v, e.eval row = .ok v

def Expr.TotalInGroups (e : Expr) : Prop := ∀ group, ∃ v, e.evalGroup group = .ok v

def Predicate.Total (p : Predicate) : Prop := ∀ row, ∃ t, p.eval row = .ok t

namespace Predicate

variable {row : Row} {p : Predicate} {rest : List Predicate} {t u : Truth}

/-- Where every part has a truth, stopping at a false one changes nothing. -/
theorem evalAnd_cons (first : p.eval row = .ok t) (others : evalAnd row rest = .ok u) :
    evalAnd row (p :: rest) = .ok (t.and u) := by
  by_cases decided : t = some false
  · subst decided
    simp [first, bind, pure, Except.pure, Truth.and]
  · simp [first, decided, others, bind, pure, Except.pure]

theorem evalOr_cons (first : p.eval row = .ok t) (others : evalOr row rest = .ok u) :
    evalOr row (p :: rest) = .ok (t.or u) := by
  by_cases decided : t = some true
  · subst decided
    simp [first, bind, pure, Except.pure, Truth.or]
  · simp [first, decided, others, bind, pure, Except.pure]

end Predicate

namespace Expr.Total

variable {e : Expr}

theorem field (f : FieldRef) : (Expr.field f).Total :=
  fun row => ⟨row.field f, by simp⟩

theorem literal (v : Value) : (Expr.literal v).Total :=
  fun _ => ⟨v, by simp⟩

theorem upper (h : e.Total) : (Expr.upper e).Total := by
  intro row
  obtain ⟨v, value⟩ := h row
  exact ⟨v.upper, by simp [value]⟩

theorem trim (h : e.Total) : (Expr.trim e).Total := by
  intro row
  obtain ⟨v, value⟩ := h row
  exact ⟨v.trim, by simp [value]⟩

theorem truth {p : Predicate} (h : p.Total) : (Expr.truth p).Total := by
  intro row
  obtain ⟨t, value⟩ := h row
  exact ⟨.ofTruth t, by simp [value]⟩

theorem case {p : Predicate} {otherwise : Option Expr} (condition : p.Total) (result : e.Total)
    (rest : ∀ o ∈ otherwise, o.Total) : (Expr.case p e otherwise).Total := by
  intro row
  obtain ⟨t, decided⟩ := condition row
  by_cases holds : t = some true
  · obtain ⟨v, value⟩ := result row
    exact ⟨v, by cases otherwise <;> simp [decided, holds, value, bind]⟩
  · cases otherwise with
    | none => exact ⟨.null, by simp [decided, holds, bind]⟩
    | some o =>
      obtain ⟨v, value⟩ := rest o rfl row
      exact ⟨v, by simp [decided, holds, value, bind]⟩

end Expr.Total

namespace Expr.TotalInGroups

variable {e : Expr}

theorem of_first (h : e.Total) (same : ∀ group, e.evalGroup group = e.evalFirst group) :
    e.TotalInGroups := by
  intro group
  rw [same]
  cases group with
  | nil => exact ⟨.null, rfl⟩
  | cons row _ => exact h row

theorem field (f : FieldRef) : (Expr.field f).TotalInGroups :=
  of_first (.field f) fun group => by rw [Expr.evalGroup] <;> simp

theorem literal (v : Value) : (Expr.literal v).TotalInGroups :=
  of_first (.literal v) fun group => by rw [Expr.evalGroup] <;> simp

theorem trim (h : e.TotalInGroups) : (Expr.trim e).TotalInGroups := by
  intro group
  obtain ⟨v, value⟩ := h group
  exact ⟨v.trim, by rw [Expr.evalGroup, value]; rfl⟩

theorem length (h : e.TotalInGroups) : (Expr.length e).TotalInGroups := by
  intro group
  obtain ⟨v, value⟩ := h group
  exact ⟨v.length, by rw [Expr.evalGroup, value]; rfl⟩

end Expr.TotalInGroups

theorem Expr.evalAll_ok {es : List Expr} (total : ∀ e ∈ es, e.Total) (row : Row) :
    ∃ values, Expr.evalAll row es = .ok values := by
  induction es with
  | nil => exact ⟨[], by rw [Expr.evalAll]⟩
  | cons e rest ih =>
    obtain ⟨first, others⟩ := List.forall_mem_cons.mp total
    obtain ⟨v, value⟩ := first row
    obtain ⟨vs, values⟩ := ih others
    exact ⟨v :: vs, by rw [Expr.evalAll, value, values]; rfl⟩

theorem Expr.evalGroupAll_ok {es : List Expr} (total : ∀ e ∈ es, e.TotalInGroups)
    (group : List Row) : ∃ values, Expr.evalGroupAll group es = .ok values := by
  induction es with
  | nil => exact ⟨[], by rw [Expr.evalGroupAll]⟩
  | cons e rest ih =>
    obtain ⟨first, others⟩ := List.forall_mem_cons.mp total
    obtain ⟨v, value⟩ := first group
    obtain ⟨vs, values⟩ := ih others
    exact ⟨v :: vs, by rw [Expr.evalGroupAll, value, values]; rfl⟩

namespace Predicate.Total

variable {e : Expr}

theorem of_value {p : Predicate} {f : Value → Truth} (h : e.Total)
    (same : ∀ row, p.eval row = (e.eval row).map f) : p.Total := by
  intro row
  obtain ⟨v, value⟩ := h row
  exact ⟨f v, by simp [same, value]⟩

theorem compareTo (op : CompareOp) (v : Value) (h : e.Total) :
    (Predicate.compareTo op e v).Total := by
  intro row
  obtain ⟨a, value⟩ := h row
  exact ⟨op.truth a v, by simp [Predicate.compareTo, value, bind, pure, Except.pure]⟩

theorem isIn (values : List Value) (negated : Bool) (h : e.Total) :
    (Predicate.isIn e values negated).Total :=
  of_value h fun row => by rw [Predicate.eval]

theorem between (low high : Value) (h : e.Total) : (Predicate.between e low high).Total :=
  of_value h fun row => by rw [Predicate.eval]

theorem like (pattern : String) (escape : Char) (h : e.Total) :
    (Predicate.like e pattern escape).Total :=
  of_value h fun row => by rw [Predicate.eval]

theorem isNull (h : e.Total) : (Predicate.isNull e).Total :=
  of_value h fun row => by rw [Predicate.eval]

theorem isNotNull (h : e.Total) : (Predicate.isNotNull e).Total :=
  of_value h fun row => by rw [Predicate.eval]

theorem isEmpty (h : e.Total) : (Predicate.isEmpty e).Total :=
  of_value h fun row => by rw [Predicate.eval]

theorem isNotEmpty (h : e.Total) : (Predicate.isNotEmpty e).Total :=
  of_value h fun row => by rw [Predicate.eval]

theorem isTrue (h : e.Total) : (Predicate.isTrue e).Total :=
  of_value h fun row => by rw [Predicate.eval]

theorem not {p : Predicate} (h : p.Total) : (Predicate.not p).Total := by
  intro row
  obtain ⟨t, value⟩ := h row
  exact ⟨t.not, by simp [value]⟩

theorem and {parts : List Predicate} (h : ∀ p ∈ parts, p.Total) : (Predicate.and parts).Total := by
  intro row
  simp only [Predicate.eval]
  induction parts with
  | nil => exact ⟨some true, by simp⟩
  | cons p rest ih =>
    obtain ⟨t, first⟩ := h p List.mem_cons_self row
    obtain ⟨u, others⟩ := ih fun q held => h q (List.mem_cons_of_mem p held)
    exact ⟨t.and u, evalAnd_cons first others⟩

theorem or {parts : List Predicate} (h : ∀ p ∈ parts, p.Total) : (Predicate.or parts).Total := by
  intro row
  simp only [Predicate.eval]
  induction parts with
  | nil => exact ⟨some false, by simp⟩
  | cons p rest ih =>
    obtain ⟨t, first⟩ := h p List.mem_cons_self row
    obtain ⟨u, others⟩ := ih fun q held => h q (List.mem_cons_of_mem p held)
    exact ⟨t.or u, evalOr_cons first others⟩

theorem all {parts : List Predicate} (h : ∀ p ∈ parts, p.Total) : (Predicate.all parts).Total := by
  unfold Predicate.all
  split
  · exact h _ List.mem_cons_self
  · exact and h

theorem any {parts : List Predicate} (h : ∀ p ∈ parts, p.Total) : (Predicate.any parts).Total := by
  unfold Predicate.any
  split
  · exact h _ List.mem_cons_self
  · exact or h

end Predicate.Total

end EntitySearch
