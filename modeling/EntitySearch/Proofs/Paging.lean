import EntitySearch.Proofs.Listing

/-! Pages of listings.

A listing finds the records that match, each once and strictly sorted. A page
behind one of them finds those that come after it.
-/

set_option autoImplicit false

namespace EntitySearch

open Std (TransCmp OrientedCmp)

namespace Plan

section
variable {b : Base} {joins : List Join} {filters : List Predicate} {terms : List OrderTerm}
  {size : Option Nat}

theorem matches_seek {q : Predicate} {r : Record} {C : Prop}
    (truth : ∀ row : Row, row.root = r → (q.eval row = .ok (some true) ↔ C)) :
    (listing b joins filters terms size (some q)).Matches r ↔
      (listing b joins filters terms none none).Matches r ∧ C := by
  have accepts : ∀ row : Row, row.root = r →
      ((listing b joins filters terms size (some q)).Accepts row ↔
        (listing b joins filters terms none none).Accepts row ∧ C) := by
    intro row root
    rw [accepts_each, accepts_each, ← truth row root]
    simp [listing, or_imp, forall_and]
  constructor
  · rintro ⟨row, bound, accepted⟩
    obtain ⟨kept, holds⟩ := (accepts row bound.root).mp accepted
    exact ⟨⟨row, bound, kept⟩, holds⟩
  · rintro ⟨⟨row, bound, kept⟩, holds⟩
    exact ⟨row, bound, (accepts row bound.root).mpr ⟨kept, holds⟩⟩

def found (p : Plan) (stored : List Record) : List Record :=
  p.dedupe ((p.ranked stored).map Row.root)

theorem found_sublist (p : Plan) (stored : List Record) :
    List.Sublist (p.found stored) ((p.ranked stored).map Row.root) := by
  unfold found dedupe
  split
  · obtain ⟨new, part, whole⟩ := keepFirst_sublist [] ((p.ranked stored).map Row.root)
    rw [whole]
    exact part
  · exact List.Sublist.refl _

theorem ranked_pairwise {p : Plan} {stored : List Record}
    (ranks : Ranks p.precedes (·.root ∈ stored)) :
    (p.ranked stored).Pairwise fun row other => p.precedes other row = false :=
  stableSort_pairwise ranks fun _ held => (mem_matched.mp held).1

theorem execute_listing {seek : Option Predicate} (tables : Tables)
    (total : (listing b joins filters terms size seek).Total)
    (sorts : (listing b joins filters terms size seek).Sorts (tables.records b.root.name)) :
    (listing b joins filters terms size seek).execute tables =
      .ok (.entities (size.elim
        ((listing b joins filters terms none seek).found (tables.records b.root.name))
        ((listing b joins filters terms none seek).found (tables.records b.root.name)).take)) := by
  rw [execute_entity total rfl rfl tables sorts]
  cases size with
  | none => rfl
  | some n => rfl

end

end Plan

def Record.compareBy (name identifier : String) (d : Direction) (a c : Record) : Ordering :=
  (d.orient ((a.read [name]).sortOrder (c.read [name]))).then
    (d.orient ((a.read [identifier]).sortOrder (c.read [identifier])))

namespace SortKey

variable {b : Base} (k : SortKey b) (d : Direction)

structure Fits (r : Record) : Prop where
  value : (r.read [k.name]).Fits k.type
  id : (r.read [b.identifier]).Fits k.idType

def compare (a c : Record) : Ordering := Record.compareBy k.name b.identifier d a c

theorem transCmp_compare : TransCmp fun a c : { r // k.Fits r } => k.compare d a.1 c.1 := by
  obtain ⟨κ, kind⟩ := Value.Fits.kind k.type
  obtain ⟨κ', kind'⟩ := Value.Fits.kind k.idType
  let value (r : { r // k.Fits r }) : Value.OfKind κ := ⟨_, kind _ r.2.value⟩
  let id (r : { r // k.Fits r }) : Value.OfKind κ' := ⟨_, kind' _ r.2.id⟩
  let inKind (κ : Value.Kind) (v w : Value.OfKind κ) := d.orient (v.1.sortOrder w.1)
  have oriented : ∀ κ, TransCmp (inKind κ) := fun κ => d.transCmp_orient _
  have byValue := transCmp_on (inKind κ) value
  have byId := transCmp_on (inKind κ') id
  exact transCmp_then _ _

theorem read_field (row : Row) : row.field k.field.field = row.root.read [k.name] := rfl

theorem read_id (row : Row) : row.field k.id.field = row.root.read [b.identifier] := rfl

theorem compareKeys_behind (a : Record) (row : Row) :
    Plan.compareKeys (k.order d) [a.read [k.name], a.read [b.identifier]]
      (Keyset.keyOf k.field k.id row) = k.compare d a row.root := by
  unfold order Keyset.ordering Keyset.keyOf compare Record.compareBy
  rw [read_field, read_id]
  split
  · next same =>
    have name : k.name = b.identifier := congrArg FieldRef.qualified same
    rw [Plan.compareKeys_cons, name]
    cases d.orient ((a.read [b.identifier]).sortOrder (row.root.read [b.identifier])) <;> rfl
  · rw [Plan.compareKeys_cons, Plan.compareKeys_cons]
    dsimp only
    generalize d.orient ((a.read [b.identifier]).sortOrder (row.root.read [b.identifier])) = second
    cases second <;> simp [Plan.compareKeys]

theorem compareKeys_rows (row other : Row) :
    Plan.compareKeys (k.order d) (Keyset.keyOf k.field k.id row) (Keyset.keyOf k.field k.id other) =
      k.compare d row.root other.root := by
  rw [← compareKeys_behind]
  unfold order Keyset.ordering
  split
  · next same =>
    have name : k.name = b.identifier := congrArg FieldRef.qualified same
    simp only [Keyset.keyOf, same, if_true]
    rw [Plan.compareKeys_cons, Plan.compareKeys_cons, read_id, read_id, name]
    simp only [Plan.compareKeys]
  · next different =>
    simp only [Keyset.keyOf, different, if_false]
    rfl

variable {k}

theorem behind_iff {a : Record} {row : Row} (fits : k.Fits a) (fits' : k.Fits row.root) :
    (k.behind d a).eval row = .ok (some true) ↔ k.compare d a row.root = .lt := by
  obtain ⟨κ, kind⟩ := Value.Fits.kind k.type
  obtain ⟨κ', kind'⟩ := Value.Fits.kind k.idType
  have agree : k.field.field = k.id.field → a.read [b.identifier] = a.read [k.name] := by
    intro same
    have name : k.name = b.identifier := congrArg FieldRef.qualified same
    rw [name]
  rw [← compareKeys_behind]
  exact Keyset.behind_iff (kind _ fits.value) (kind' _ fits.id) agree (kind _ fits'.value)
    (kind' _ fits'.id)

/-- A table of records that sort, each with an identifier of its own. -/
structure Lists (k : SortKey b) (stored : List Record) : Prop where
  fits : ∀ r ∈ stored, k.Fits r
  identified : Identified Value.int b.identifier stored

namespace Lists

variable {stored : List Record} {d} {a c : Record}

theorem eq_of_tie (lists : k.Lists stored) (left : a ∈ stored) (right : c ∈ stored)
    (tie : k.compare d a c = .eq) : a = c := by
  obtain ⟨i, first⟩ := lists.identified.find left
  obtain ⟨j, second⟩ := lists.identified.find right
  have ids : d.orient ((Value.int i).sortOrder (.int j)) = .eq := by
    have tied := (Ordering.then_eq_eq.mp tie).2
    simpa [Record.read, first, second] using tied
  have order : (Value.int i).sortOrder (.int j) = .eq := by
    cases d with
    | asc => exact ids
    | desc => exact Ordering.swap_eq_eq.mp ids
  have equal := (Value.equals_of_kind (k := .int) rfl rfl).mpr order
  obtain rfl := (Value.exact_int.equals i j).mp equal
  exact lists.identified.inj Value.exact_int.inj left right (first.trans second.symm)

theorem transCmp_stored (lists : k.Lists stored) :
    TransCmp fun a c : { r // r ∈ stored } => k.compare d a.1 c.1 :=
  have := k.transCmp_compare d
  transCmp_on (fun a c : { r // k.Fits r } => k.compare d a.1 c.1)
    fun r : { r // r ∈ stored } => ⟨r.1, lists.fits r.1 r.2⟩

theorem compare_swap (lists : k.Lists stored) (left : a ∈ stored) (right : c ∈ stored) :
    k.compare d a c = (k.compare d c a).swap :=
  (lists.transCmp_stored (d := d)).eq_swap (a := ⟨a, left⟩) (b := ⟨c, right⟩)

theorem asymm (lists : k.Lists stored) (left : a ∈ stored) (right : c ∈ stored)
    (first : k.compare d a c = .lt) : k.compare d c a ≠ .lt := by
  rw [lists.compare_swap right left, first]
  decide

section
variable {joins : List Join} {filters : List Predicate} {size : Option Nat}
  {seek : Option Predicate}

theorem precedes_eq (row other : Row) :
    (Plan.listing b joins filters (k.order d) size seek).precedes row other =
      (k.compare d row.root other.root == .lt) := by
  have key : ∀ row, (Plan.listing b joins filters (k.order d) size seek).keyOf row =
      Keyset.keyOf k.field k.id row := by
    intro row
    simp only [Plan.keyOf, Plan.sortKey, Plan.listing, order, Keyset.keyOf_eq]
  rw [Plan.precedes, key, key, ← compareKeys_rows]
  rfl

theorem mem_found (lists : k.Lists stored) {r : Record} :
    r ∈ (Plan.listing b joins filters (k.order d) size seek).found stored ↔
      r ∈ stored ∧ (Plan.listing b joins filters (k.order d) size seek).Matches r :=
  (Plan.dedupe_nodup Value.exact_int lists.identified rfl rfl).2 r

theorem ranks (lists : k.Lists stored) :
    Ranks (Plan.listing b joins filters (k.order d) size seek).precedes (·.root ∈ stored) := by
  have order := lists.transCmp_stored (d := d)
  have byRoots : (Plan.listing b joins filters (k.order d) size seek).precedes =
      fun row other => k.compare d row.root other.root == .lt := by
    funext row other
    exact precedes_eq row other
  rw [byRoots]
  apply Ranks.of_transCmp fun row other : Row => k.compare d row.root other.root
  exact transCmp_on (fun a c : { r // r ∈ stored } => k.compare d a.1 c.1)
    fun row : { row : Row // row.root ∈ stored } => ⟨row.1.root, row.2⟩

theorem sorts (lists : k.Lists stored) :
    (Plan.listing b joins filters (k.order d) size seek).Sorts stored := by
  refine (Plan.sorts_entity_iff rfl rfl _).mpr (.inr (lists.ranks.mono ?_))
  exact fun row held => (Plan.mem_matched.mp held).1

theorem found_sorted (lists : k.Lists stored) :
    ((Plan.listing b joins filters (k.order d) size seek).found stored).Pairwise
      fun a c => k.compare d a c = .lt := by
  have nodup : ((Plan.listing b joins filters (k.order d) size seek).found stored).Nodup :=
    (Plan.dedupe_nodup Value.exact_int lists.identified rfl rfl).1
  have sorted : ((Plan.listing b joins filters (k.order d) size seek).found stored).Pairwise
      fun a c => (k.compare d c a == .lt) = false := by
    apply List.Pairwise.sublist (Plan.found_sublist _ stored)
    apply List.pairwise_map.mpr
    apply (Plan.ranked_pairwise lists.ranks).imp
    intro row other behind
    rw [← behind, precedes_eq]
  -- Not before and no tie leaves behind.
  apply (nodup.and sorted).imp_of_mem
  intro a c left right ⟨different, first⟩
  obtain ⟨held, -⟩ := lists.mem_found.mp left
  obtain ⟨held', -⟩ := lists.mem_found.mp right
  have apart : k.compare d a c ≠ .eq := fun tie => different (lists.eq_of_tie held held' tie)
  rw [lists.compare_swap held held'] at apart ⊢
  revert apart first
  cases k.compare d c a <;> decide

/-- Behind a record, a page finds what the listing finds after it. -/
theorem found_behind (lists : k.Lists stored) {last : Record} (held : last ∈ stored) :
    (Plan.listing b joins filters (k.order d) none (some (k.behind d last))).found stored =
      ((Plan.listing b joins filters (k.order d) none none).found stored).filter
        fun r => k.compare d last r == .lt := by
  -- Both sides are sorted, so it is enough that they have the same records.
  apply eq_of_sorted _ lists.found_sorted (lists.found_sorted.filter _)
  · intro r
    rw [List.mem_filter, lists.mem_found, lists.mem_found, beq_iff_eq, and_assoc]
    apply and_congr_right
    intro there
    apply Plan.matches_seek
    rintro row rfl
    exact behind_iff d (lists.fits last held) (lists.fits row.root there)
  · intro a left c right
    exact lists.asymm (lists.mem_found.mp left).1 (lists.mem_found.mp right).1

end

theorem filter_after (lists : k.Lists stored) {front rest : List Record} {last : Record}
    (sorted : (front ++ last :: rest).Pairwise fun a c => k.compare d a c = .lt)
    (subset : front ++ last :: rest ⊆ stored) :
    (front ++ last :: rest).filter (fun r => k.compare d last r == .lt) = rest := by
  -- What stands in front of `last`, `last` itself and what comes after it are told apart.
  obtain ⟨-, behind, before⟩ := List.pairwise_append.mp sorted
  obtain ⟨after, -⟩ := List.pairwise_cons.mp behind
  have there : last ∈ stored := subset (by simp)
  have dropped : front.filter (fun r => k.compare d last r == .lt) = [] := by
    apply List.filter_eq_nil_iff.mpr
    intro r held
    have first := before r held last List.mem_cons_self
    simpa using lists.asymm (subset (List.mem_append_left _ held)) there first
  have itself : (k.compare d last last == .lt) = false := by
    apply beq_eq_false_iff_ne.mpr
    intro first
    exact lists.asymm there there first first
  have kept : rest.filter (fun r => k.compare d last r == .lt) = rest := by
    apply List.filter_eq_self.mpr
    intro r held
    exact beq_iff_eq.mpr (after r held)
  rw [List.filter_append, dropped, List.filter_cons, itself, kept]
  rfl

end Lists

end SortKey

end EntitySearch
