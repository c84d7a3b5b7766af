import Mathlib.Data.List.Basic
import EntitySearch.QueryError

/-! Computations that succeed or fail, one after the other and over lists. -/

set_option autoImplicit false

namespace EntitySearch

section
variable {α β ε : Type} {F : α → Except ε β}

theorem bind_error_inv {x : Except ε α} {e : ε} (h : (x >>= F) = .error e) :
    x = .error e ∨ ∃ a, x = .ok a ∧ F a = .error e := by
  cases x with
  | error fault =>
    obtain rfl := Except.error.inj h
    exact .inl rfl
  | ok a => exact .inr ⟨a, rfl, h⟩

theorem map_fails {f : α → β} {x : Except ε α} {e : ε} (h : x.map f = .error e) : x = .error e := by
  cases x with
  | error fault => exact congrArg Except.error (Except.error.inj h)
  | ok a => cases h

theorem map_ok_inv {f : α → β} {x : Except ε α} {y : β} (h : x.map f = .ok y) :
    ∃ a, x = .ok a ∧ f a = y := by
  cases x with
  | error fault => cases h
  | ok a => exact ⟨a, rfl, Except.ok.inj h⟩

theorem mapM_ok {g : α → β} (xs : List α) (h : ∀ x ∈ xs, F x = .ok (g x)) :
    xs.mapM F = .ok (xs.map g) := by
  induction xs with
  | nil => rfl
  | cons x rest ih =>
    rw [List.mapM_cons, h x List.mem_cons_self, ih fun y held => h y (List.mem_cons_of_mem x held)]
    rfl

theorem mapM_map_outcome {γ : Type} {G : α → Except ε γ} (g : β → γ)
    (changed : ∀ x, G x = (F x).map g) (xs : List α) : xs.mapM G = (xs.mapM F).map (List.map g) := by
  induction xs with
  | nil => rfl
  | cons x rest ih =>
    rw [List.mapM_cons, List.mapM_cons, changed, ih]
    cases F x with
    | error e => rfl
    | ok y => cases rest.mapM F <;> rfl

theorem mapM_fails {xs : List α} {e : ε} (h : xs.mapM F = .error e) : ∃ x ∈ xs, F x = .error e := by
  induction xs with
  | nil => cases h
  | cons x rest ih =>
    rw [List.mapM_cons] at h
    cases first : F x with
    | error fault =>
      rw [first] at h
      obtain rfl := Except.error.inj h
      exact ⟨x, List.mem_cons_self, first⟩
    | ok y =>
      cases others : rest.mapM F with
      | error fault =>
        rw [first, others] at h
        obtain rfl := Except.error.inj h
        obtain ⟨z, held, fails⟩ := ih others
        exact ⟨z, List.mem_cons_of_mem x held, fails⟩
      | ok ys =>
        rw [first, others] at h
        cases h

theorem exists_mapM {xs : List α} (h : ∀ x ∈ xs, ∃ y, F x = .ok y) : ∃ ys, xs.mapM F = .ok ys := by
  cases mapped : xs.mapM F with
  | ok ys => exact ⟨ys, rfl⟩
  | error e =>
    obtain ⟨x, held, fails⟩ := mapM_fails mapped
    obtain ⟨y, found⟩ := h x held
    cases fails.symm.trans found

theorem forall₂_of_mapM {xs : List α} {ys : List β} (h : xs.mapM F = .ok ys) :
    List.Forall₂ (fun x y => F x = .ok y) xs ys := by
  induction xs generalizing ys with
  | nil =>
    obtain rfl := Except.ok.inj h
    exact .nil
  | cons x rest ih =>
    rw [List.mapM_cons] at h
    cases first : F x with
    | error e =>
      rw [first] at h
      cases h
    | ok z =>
      cases others : rest.mapM F with
      | error e =>
        rw [first, others] at h
        cases h
      | ok zs =>
        rw [first, others] at h
        obtain rfl := Except.ok.inj h
        exact .cons first (ih others)

theorem mem_of_mapM {xs : List α} {ys : List β} (h : xs.mapM F = .ok ys) {y : β} (held : y ∈ ys) :
    ∃ x ∈ xs, F x = .ok y := by
  have paired := forall₂_of_mapM h
  clear h
  induction paired with
  | nil => cases held
  | cons first _ ih =>
    rcases List.mem_cons.mp held with rfl | held
    · exact ⟨_, List.mem_cons_self, first⟩
    · obtain ⟨x, there, same⟩ := ih held
      exact ⟨x, List.mem_cons_of_mem _ there, same⟩

theorem ok_of_mapM {xs : List α} {ys : List β} (h : xs.mapM F = .ok ys) {x : α} (held : x ∈ xs) :
    ∃ y, F x = .ok y := by
  have paired := forall₂_of_mapM h
  clear h
  induction paired with
  | nil => cases held
  | cons first _ ih =>
    rcases List.mem_cons.mp held with rfl | held
    · exact ⟨_, first⟩
    · exact ih held

theorem ok_of_forM {check : α → Except ε Unit} {xs : List α} (h : xs.forM check = .ok ()) {x : α}
    (held : x ∈ xs) : check x = .ok () := by
  induction xs with
  | nil => cases held
  | cons first rest ih =>
    rw [List.forM] at h
    obtain ⟨_, checked, others⟩ := bind_ok_inv h
    rcases List.mem_cons.mp held with rfl | held
    · exact checked
    · exact ih others held

end

end EntitySearch
