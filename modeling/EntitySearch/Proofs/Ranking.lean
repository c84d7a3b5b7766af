import Mathlib.Data.List.Basic
import Mathlib.Data.List.Nodup
import EntitySearch.Run.Execute

/-! Sorting and removal of repetitions.

Sorting keeps the elements and brings them into order. Removing repetitions
keeps an element for every element there was, and none that repeats another.
-/

set_option autoImplicit false

namespace EntitySearch

variable {α β : Type}

section
variable {before : α → α → Bool}

theorem insertSorted_perm (x : α) (xs : List α) : (insertSorted before x xs).Perm (x :: xs) := by
  induction xs with
  | nil => exact .refl _
  | cons y rest ih =>
    simp only [insertSorted]
    split
    · exact (ih.cons y).trans (.swap x y rest)
    · exact .refl _

theorem insertSorted_map (f : β → α) (x : β) (xs : List β) :
    insertSorted before (f x) (xs.map f) =
      (insertSorted (fun a b => before (f a) (f b)) x xs).map f := by
  induction xs with
  | nil => rfl
  | cons y rest ih =>
    simp only [List.map_cons, insertSorted]
    split
    · rw [ih, List.map_cons]
    · rfl

/-- The elements with a property are ranked; those that tie have one rank. -/
structure Ranks (before : α → α → Bool) (P : α → Prop) : Prop where
  asymm : ∀ a b, P a → P b → before a b = true → before b a = false
  trans : ∀ a b c, P a → P b → P c → before b a = false → before c b = false → before c a = false

theorem Ranks.of_transCmp {P : α → Prop} (cmp : α → α → Ordering)
    (order : Std.TransCmp fun a b : { x // P x } => cmp a.1 b.1) :
    Ranks (fun a b => cmp a b == .lt) P := by
  have swap : ∀ a b, P a → P b → cmp a b = (cmp b a).swap :=
    fun a b left right => order.eq_swap (a := ⟨a, left⟩) (b := ⟨b, right⟩)
  have le : ∀ a b, P a → P b → ((cmp a b == .lt) = false ↔ (cmp b a).isLE) := by
    intro a b left right
    rw [swap b a right left]
    cases cmp a b <;> decide
  constructor
  · intro a b left right first
    rw [swap b a right left, beq_iff_eq.mp first]
    rfl
  · intro a b c left middle right first second
    rw [le _ _ middle left] at first
    rw [le _ _ right middle] at second
    rw [le _ _ right left]
    exact order.isLE_trans (a := ⟨a, left⟩) (b := ⟨b, middle⟩) (c := ⟨c, right⟩) first second

/-- The list being built is sorted from the last to the first. -/
theorem insertSorted_pairwise {P : α → Prop} (ranks : Ranks before P) {x : α} {xs : List α}
    (new : P x) (old : ∀ y ∈ xs, P y) (sorted : xs.Pairwise fun a b => before a b = false) :
    (insertSorted before x xs).Pairwise fun a b => before a b = false := by
  -- Only an element that is not before the last one is set in front of it.
  induction xs with
  | nil => exact List.pairwise_singleton _ _
  | cons y rest ih =>
    obtain ⟨last, others⟩ := List.pairwise_cons.mp sorted
    obtain ⟨ranked, rest'⟩ := List.forall_mem_cons.mp old
    simp only [insertSorted]
    split
    · next h =>
      apply List.pairwise_cons.mpr ⟨_, ih rest' others⟩
      intro z held
      rcases List.mem_cons.mp ((insertSorted_perm x rest).subset held) with rfl | held
      · exact ranks.asymm _ _ new ranked h
      · exact last z held
    · next h =>
      have first : before x y = false := by simpa using h
      apply List.pairwise_cons.mpr ⟨_, sorted⟩
      intro z held
      rcases List.mem_cons.mp held with rfl | held
      · exact first
      · exact ranks.trans z y x (rest' z held) ranked new (last z held) first

theorem stableSort_perm (xs : List α) : (stableSort before xs).Perm xs := by
  have grows : ∀ done : List α,
      (xs.foldl (fun done x => insertSorted before x done) done).Perm (xs ++ done) := by
    induction xs with
    | nil => exact fun _ => .refl _
    | cons x rest ih =>
      intro done
      refine (ih _).trans (((insertSorted_perm x done).append_left rest).trans ?_)
      exact List.perm_middle
  exact (List.reverse_perm _).trans (by simpa using grows [])

theorem stableSort_map (f : β → α) (xs : List β) :
    stableSort before (xs.map f) = (stableSort (fun a b => before (f a) (f b)) xs).map f := by
  have grows : ∀ done : List β,
      (xs.map f).foldl (fun done x => insertSorted before x done) (done.map f) =
        (xs.foldl (fun done x => insertSorted (fun a b => before (f a) (f b)) x done)
          done).map f := by
    induction xs with
    | nil => exact fun _ => rfl
    | cons x rest ih =>
      intro done
      simp only [List.map_cons, List.foldl_cons, insertSorted_map]
      exact ih _
  simp only [stableSort, List.map_reverse]
  exact congrArg List.reverse (grows [])

theorem stableSort_pairwise {P : α → Prop} (ranks : Ranks before P) {xs : List α}
    (all : ∀ x ∈ xs, P x) : (stableSort before xs).Pairwise fun a b => before b a = false := by
  have grows : ∀ done : List α, (∀ y ∈ done, P y) →
      (done.Pairwise fun a b => before a b = false) →
      (xs.foldl (fun done x => insertSorted before x done) done).Pairwise
        fun a b => before a b = false := by
    induction xs with
    | nil => exact fun _ _ sorted => sorted
    | cons x rest ih =>
      intro done old sorted
      obtain ⟨new, others⟩ := List.forall_mem_cons.mp all
      apply ih others _ _ (insertSorted_pairwise ranks new old sorted)
      intro y held
      rcases List.mem_cons.mp ((insertSorted_perm x done).subset held) with rfl | held
      · exact new
      · exact old y held
  exact List.pairwise_reverse.mpr (grows [] (by simp) .nil)

theorem Ranks.on {P : α → Prop} {Q : β → Prop} (ranks : Ranks before P) (f : β → α)
    (sub : ∀ b, Q b → P (f b)) : Ranks (fun a b => before (f a) (f b)) Q :=
  ⟨fun a b left right => ranks.asymm _ _ (sub a left) (sub b right),
    fun a b c left middle right => ranks.trans _ _ _ (sub a left) (sub b middle) (sub c right)⟩

theorem Ranks.mono {P Q : α → Prop} (ranks : Ranks before P) (sub : ∀ a, Q a → P a) :
    Ranks before Q := ranks.on id sub

theorem countP_lt_of_imp {p q : α → Bool} {xs : List α} {x : α} (held : x ∈ xs) (new : q x = true)
    (old : p x = false) (imp : ∀ y ∈ xs, p y = true → q y = true) : xs.countP p < xs.countP q := by
  obtain ⟨front, rest, rfl⟩ := List.append_of_mem held
  have first : front.countP p ≤ front.countP q :=
    List.countP_mono_left fun y there => imp y (List.mem_append_left _ there)
  have last : rest.countP p ≤ rest.countP q := List.countP_mono_left fun y there =>
    imp y (List.mem_append_right _ (List.mem_cons_of_mem x there))
  simp only [List.countP_append, List.countP_cons, new, old, if_true, Bool.false_eq_true, if_false]
  omega

/-- An element comes before another exactly when fewer elements come before it. -/
theorem Ranks.before_iff {xs : List α} (ranks : Ranks before (· ∈ xs)) {a b : α} (left : a ∈ xs)
    (right : b ∈ xs) :
    before a b = true ↔ xs.countP (before · a) < xs.countP (before · b) := by
  constructor
  · intro first
    have behind := ranks.asymm a b left right first
    have itself : before a a = false := by
      by_contra stands
      exact stands (ranks.asymm a a left left (by simpa using stands))
    apply countP_lt_of_imp (p := (before · a)) (q := (before · b)) left first itself
    intro y there second
    by_contra apart
    have last := ranks.trans a b y left right there behind (by simpa using apart)
    simp [last] at second
  · intro fewer
    by_contra behind
    apply Nat.not_le_of_lt fewer
    apply List.countP_mono_left
    intro y there second
    by_contra apart
    have last := ranks.trans b a y right left there (by simpa using behind) (by simpa using apart)
    simp [last] at second

theorem isRanked_iff {xs : List α} : isRanked before xs = true ↔ Ranks before (· ∈ xs) := by
  have agree : ∀ (t : Bool) (n m : Nat), t = decide (n < m) ↔ (t = true ↔ n < m) := by
    intro t n m
    cases t <;> simp
  have counted : isRanked before xs = true ↔ ∀ a ∈ xs, ∀ b ∈ xs,
      (before a b = true ↔ xs.countP (before · a) < xs.countP (before · b)) := by
    simp only [isRanked, List.all_map, List.all_eq_true, Function.comp, beq_iff_eq, agree]
  rw [counted]
  refine ⟨fun ranked => ⟨?_, ?_⟩, fun ranks a left b right => ranks.before_iff left right⟩
  · intro a b left right first
    apply Bool.eq_false_iff.mpr
    rw [Ne, ranked b right a left]
    have := (ranked a left b right).mp first
    omega
  · intro a b c left middle right first second
    rw [Bool.eq_false_iff, Ne, ranked _ middle _ left] at first
    rw [Bool.eq_false_iff, Ne, ranked _ right _ middle] at second
    rw [Bool.eq_false_iff, Ne, ranked _ right _ left]
    omega

/-- A list that is sorted whatever comes of it: it is short, or its elements are ranked. -/
def Sortable (before : α → α → Bool) (xs : List α) : Prop :=
  xs.length ≤ insertionLimit ∨ Ranks before (· ∈ xs)

theorem sortBy_ok {xs : List α} (sortable : Sortable before xs) :
    sortBy before xs = .ok (stableSort before xs) := by
  apply if_pos
  simpa [isRanked_iff, Sortable] using sortable

theorem sortBy_fails {xs : List α} (unsortable : ¬Sortable before xs) :
    sortBy before xs = .error (.execution .unspecifiedOrder) := by
  apply if_neg
  simpa [isRanked_iff, Sortable] using unsortable

theorem sortBy_perm {xs ys : List α} (sorts : sortBy before xs = .ok ys) : ys.Perm xs := by
  unfold sortBy at sorts
  split at sorts
  · exact Except.ok.inj sorts ▸ stableSort_perm xs
  · cases sorts

theorem isRanked_map (f : β → α) (xs : List β) :
    isRanked before (xs.map f) = isRanked (fun a b => before (f a) (f b)) xs := by
  simp [isRanked, Function.comp_def]

theorem sortBy_map (f : β → α) (xs : List β) :
    sortBy before (xs.map f) =
      (sortBy (fun a b => before (f a) (f b)) xs).map (List.map f) := by
  unfold sortBy
  rw [List.length_map, isRanked_map, stableSort_map]
  split <;> rfl

theorem Sortable.perm {xs ys : List α} (sortable : Sortable before xs) (same : xs.Perm ys) :
    Sortable before ys :=
  sortable.imp (same.length_eq ▸ ·) fun ranks => ranks.mono fun _ held => same.mem_iff.mpr held

theorem Sortable.map_iff (f : β → α) (xs : List β) :
    Sortable before (xs.map f) ↔ Sortable (fun a b => before (f a) (f b)) xs := by
  unfold Sortable
  rw [List.length_map, ← isRanked_iff, isRanked_map, isRanked_iff]

end

section
variable {lt : α → α → Prop} {xs ys : List α}

theorem nodup_of_sorted (asymm : ∀ a ∈ xs, ∀ b ∈ xs, lt a b → ¬lt b a) (sorted : xs.Pairwise lt) :
    xs.Nodup := by
  apply sorted.imp_of_mem
  rintro a b left right first rfl
  exact asymm a left a right first first

theorem eq_of_sorted (asymm : ∀ a ∈ xs, ∀ b ∈ xs, lt a b → ¬lt b a) (first : xs.Pairwise lt)
    (second : ys.Pairwise lt) (same : ∀ x, x ∈ xs ↔ x ∈ ys) : xs = ys := by
  have asymm' : ∀ a ∈ ys, ∀ b ∈ ys, lt a b → ¬lt b a :=
    fun a left b right => asymm a ((same a).mpr left) b ((same b).mpr right)
  have perm : xs.Perm ys := (List.perm_ext_iff_of_nodup (nodup_of_sorted asymm first)
    (nodup_of_sorted asymm' second)).mpr same
  apply perm.eq_of_pairwise _ first second
  intro a b left right before behind
  exact absurd behind (asymm a left b ((same b).mpr right) before)

end

section
variable {repeats : α → α → Bool}

theorem keepFirst_sublist (kept xs : List α) :
    ∃ new, List.Sublist new xs ∧ keepFirst repeats kept xs = kept ++ new := by
  induction xs generalizing kept with
  | nil => exact ⟨[], .slnil, by simp [keepFirst]⟩
  | cons x rest ih =>
    simp only [keepFirst]
    split
    · obtain ⟨new, part, same⟩ := ih kept
      exact ⟨new, part.cons x, same⟩
    · obtain ⟨new, part, same⟩ := ih (kept ++ [x])
      exact ⟨x :: new, part.cons_cons x, by simp [same]⟩

theorem keepFirst_pairwise {kept : List α} (xs : List α)
    (h : kept.Pairwise fun a b => repeats a b = false) :
    (keepFirst repeats kept xs).Pairwise fun a b => repeats a b = false := by
  induction xs generalizing kept with
  | nil => exact h
  | cons x rest ih =>
    simp only [keepFirst]
    split
    · exact ih h
    · next new =>
      refine ih (List.pairwise_append.mpr ⟨h, List.pairwise_singleton _ _, ?_⟩)
      intro k held y last
      obtain rfl := List.mem_singleton.mp last
      simp only [List.any_eq_true, not_exists, not_and, Bool.not_eq_true] at new
      exact new k held

/-- What is not kept repeats something that is. -/
theorem keepFirst_covers (kept : List α) {xs : List α} {x : α} (held : x ∈ xs) :
    ∃ k ∈ keepFirst repeats kept xs, k = x ∨ repeats k x = true := by
  induction xs generalizing kept with
  | nil => cases held
  | cons y rest ih =>
    simp only [keepFirst]
    rcases List.mem_cons.mp held with rfl | held
    · split
      · next known =>
        obtain ⟨k, held, same⟩ := List.any_eq_true.mp known
        obtain ⟨new, -, whole⟩ := keepFirst_sublist kept rest
        exact ⟨k, by rw [whole]; exact List.mem_append_left new held, .inr same⟩
      · obtain ⟨new, -, whole⟩ := keepFirst_sublist (kept ++ [x]) rest
        exact ⟨x, by rw [whole]; simp, .inl rfl⟩
    · split
      · exact ih kept held
      · exact ih _ held

/-- Of every class of elements that repeat each other, one element is kept. -/
theorem keepFirst_classes {γ : Type} {f : α → γ} {xs : List α}
    (same : ∀ a ∈ xs, ∀ b ∈ xs, repeats a b = true ↔ f a = f b) :
    ((keepFirst repeats [] xs).map f).Nodup ∧
      ∀ c, c ∈ (keepFirst repeats [] xs).map f ↔ c ∈ xs.map f := by
  obtain ⟨new, part, whole⟩ := keepFirst_sublist [] xs
  have subset : ∀ x ∈ keepFirst repeats [] xs, x ∈ xs := by
    rw [whole]
    exact fun x held => part.subset held
  constructor
  · apply List.pairwise_map.mpr
    apply (keepFirst_pairwise xs .nil).imp_of_mem
    intro a b left right apart equal
    have met := (same a (subset a left) b (subset b right)).mpr equal
    simp [apart] at met
  · intro c
    constructor
    · intro kept
      obtain ⟨k, held, rfl⟩ := List.mem_map.mp kept
      exact List.mem_map_of_mem (subset k held)
    · intro there
      obtain ⟨x, held, rfl⟩ := List.mem_map.mp there
      obtain ⟨k, kept, rfl | met⟩ := keepFirst_covers [] held
      · exact List.mem_map_of_mem kept
      · exact (same k (subset k kept) x held).mp met ▸ List.mem_map_of_mem kept

theorem keepFirst_nodup {xs : List α} (same : ∀ a ∈ xs, ∀ b ∈ xs, repeats a b = true ↔ a = b) :
    (keepFirst repeats [] xs).Nodup ∧ ∀ x, x ∈ keepFirst repeats [] xs ↔ x ∈ xs := by
  simpa only [id, List.map_id] using keepFirst_classes (f := id) same

end

end EntitySearch
