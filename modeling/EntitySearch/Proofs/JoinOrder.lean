import Mathlib.Algebra.BigOperators.Group.List.Basic
import Mathlib.Data.List.Count
import Mathlib.Data.List.Induction
import Mathlib.Data.List.Nodup
import EntitySearch.Proofs.Binding
import EntitySearch.Proofs.Renumbering

/-! Joins in another order.

A row arises as often as the product of the ways in which its joins can bind
their records. The product does not depend on the order of the joins, so that
joins in another order make the same rows, with their records in another order.
-/

set_option autoImplicit false

namespace EntitySearch

open scoped Classical in
/-- In how many ways the join at a position binds the record that the row has there. -/
noncomputable def Row.ways (joins : List Join) (row : Row) (i : Nat) : Nat :=
  match joins[i]?, row.joined[i]? with
  | some j, some r => (j.targets row).count r
  | _, _ => 0

/-- Every join leads from the root or from an earlier join. -/
def Rooted (joins : List Join) : Prop :=
  ∀ (i : Nat) (j : Join) (k : Nat), joins[i]? = some j → j.parent = .join k → k < i

theorem Rooted.front {joins : List Join} {j : Join} (rooted : Rooted (joins ++ [j])) :
    Rooted joins := by
  intro i j' k held parent
  have here : i < joins.length := (List.getElem?_eq_some_iff.mp held).1
  exact rooted i j' k (by rw [List.getElem?_append_left here, held]) parent

namespace Row

theorem bind_inj {row other : Row} {r r' : Record} :
    row.bind r = other.bind r' ↔ row = other ∧ r = r' := by
  obtain ⟨root, joined⟩ := row
  obtain ⟨root', joined'⟩ := other
  constructor
  · intro same
    obtain ⟨rfl, joins⟩ := Row.mk.inj same
    obtain ⟨rfl, last⟩ := List.append_inj' joins rfl
    exact ⟨rfl, List.singleton_inj.mp last⟩
  · rintro ⟨same, rfl⟩
    rw [same]

theorem targets_bind {j : Join} {row : Row} (r : Record)
    (earlier : ∀ k, j.parent = .join k → k < row.joined.length) :
    j.targets (row.bind r) = j.targets row := by
  have seen : (row.bind r).source? j.parent = row.source? j.parent := by
    cases parent : j.parent with
    | root => rfl
    | join k => exact List.getElem?_append_left (earlier k parent)
  rw [Join.targets, Join.targets, seen]

open scoped Classical in
theorem count_bind (j : Join) (rows : List Row) (row : Row) (r : Record) :
    (rows.flatMap fun start => (j.targets start).map start.bind).count (row.bind r) =
      rows.count row * (j.targets row).count r := by
  induction rows with
  | nil => simp
  | cons first rest ih =>
    rw [List.flatMap_cons, List.count_append, ih, List.count_cons]
    by_cases same : first = row
    · subst same
      rw [List.count_map_of_injective _ first.bind fun a b equal => (bind_inj.mp equal).2]
      simp only [beq_self_eq_true, if_true, Nat.add_mul, Nat.one_mul, Nat.add_comm]
    · have none : ((j.targets first).map first.bind).count (row.bind r) = 0 := by
        apply List.count_eq_zero_of_not_mem
        intro held
        obtain ⟨other, -, equal⟩ := List.mem_map.mp held
        exact same (bind_inj.mp equal).1
      rw [none]
      simp [same]

section
variable {joins : List Join} {j : Join} {row : Row}

theorem ways_front (rooted : Rooted joins) (full : row.joined.length = joins.length) (r : Record)
    {i : Nat} (here : i < joins.length) : ways (joins ++ [j]) (row.bind r) i = ways joins row i := by
  have held : joins[i]? = some joins[i] := List.getElem?_eq_getElem here
  have known : (row.bind r).joined[i]? = row.joined[i]? := List.getElem?_append_left (full ▸ here)
  have seen : joins[i].targets (row.bind r) = joins[i].targets row := by
    apply targets_bind r
    intro k parent
    have first := rooted i _ k held parent
    omega
  rw [ways, ways, List.getElem?_append_left here, held, known]
  cases row.joined[i]? with
  | none => rfl
  | some r' => simp only [seen]

open scoped Classical in
theorem ways_last (rooted : Rooted (joins ++ [j])) (full : row.joined.length = joins.length)
    (r : Record) : ways (joins ++ [j]) (row.bind r) joins.length = (j.targets row).count r := by
  have held : (joins ++ [j])[joins.length]? = some j := by simp
  have bound : (row.bind r).joined[joins.length]? = some r := by
    rw [← full]
    exact List.getElem?_concat_length
  have seen : j.targets (row.bind r) = j.targets row :=
    targets_bind r fun k parent => full ▸ rooted _ j k held parent
  rw [ways, held, bound]
  simp only [seen]

open scoped Classical in
/-- How often a row arises from its root. -/
theorem count_expand {joins : List Join} (rooted : Rooted joins) {row : Row}
    (full : row.joined.length = joins.length) :
    (expand joins [⟨row.root, []⟩]).count row =
      ((List.range joins.length).map (ways joins row)).prod := by
  -- By induction on the joins from the last one, which binds the last record.
  induction joins using List.reverseRecOn generalizing row with
  | nil =>
    obtain ⟨root, joined⟩ := row
    obtain rfl := List.eq_nil_of_length_eq_zero full
    simp [expand]
  | append_singleton joins j ih =>
    obtain ⟨root, joined⟩ := row
    rcases List.eq_nil_or_concat joined with rfl | ⟨before, last, bound⟩
    · simp at full
    · rw [List.concat_eq_append] at bound
      subst bound
      let start : Row := ⟨root, before⟩
      have lengths : start.joined.length = joins.length := by simpa using full
      have expanded : expand (joins ++ [j]) [⟨root, []⟩] =
          (expand joins [⟨root, []⟩]).flatMap fun row => (j.targets row).map row.bind :=
        List.foldl_append
      have earlier : (List.range joins.length).map (ways (joins ++ [j]) (start.bind last)) =
          (List.range joins.length).map (ways joins start) := by
        apply List.map_congr_left
        intro i held
        exact ways_front rooted.front lengths last (List.mem_range.mp held)
      show (expand (joins ++ [j]) [⟨root, []⟩]).count (start.bind last) =
        ((List.range (joins ++ [j]).length).map (ways (joins ++ [j]) (start.bind last))).prod
      rw [expanded, count_bind, ih rooted.front lengths, List.length_append,
        List.length_singleton, List.range_succ, List.map_append, List.prod_append, earlier]
      simp [ways_last rooted lengths]

end

end Row

def position (first second : List String) (i : Nat) : Nat :=
  first[i]?.elim i second.idxOf

/-- The joins of the first list stand in the second one, in another order. -/
structure Reordered (first second : List String) (joins others : List Join) : Prop where
  once : first.Nodup
  perm : first.Perm second
  length : joins.length = first.length
  length' : others.length = second.length
  rooted : Rooted joins
  rooted' : Rooted others
  same : ∀ (i : Nat) (j : Join), joins[i]? = some j → ∃ j' : Join,
    others[position first second i]? = some j' ∧
      j'.parent = j.parent.renumber (position first second) ∧ j'.path = j.path

namespace Row

def carry (first second : List String) (row : Row) : Row :=
  ⟨row.root, second.map fun d => (row.joined[first.idxOf d]?).getD []⟩

section
variable {first second : List String} {row : Row}

theorem carry_renumbered (once : first.Nodup) (perm : first.Perm second)
    (full : row.joined.length = first.length) :
    Row.Renumbered (position first second) row (row.carry first second) where
  root := rfl
  joined i := by
    rw [carry, position, List.getElem?_map]
    cases held : first[i]? with
    | none =>
      have beyond : first.length ≤ i := List.getElem?_eq_none_iff.mp held
      have beyond' : second.length ≤ i := perm.length_eq ▸ beyond
      rw [Option.elim_none, List.getElem?_eq_none beyond', List.getElem?_eq_none (full ▸ beyond)]
      rfl
    | some d =>
      obtain ⟨here, rfl⟩ := List.getElem?_eq_some_iff.mp held
      have there : first[i] ∈ second := perm.mem_iff.mp (List.getElem_mem here)
      rw [Option.elim_some, List.getElem?_idxOf there, Option.map_some, once.idxOf_getElem,
        List.getElem?_eq_getElem (full ▸ here)]
      rfl

theorem carry_back (once : first.Nodup) (perm : first.Perm second)
    (full : row.joined.length = first.length) :
    (row.carry first second).carry second first = row := by
  obtain ⟨root, joined⟩ := row
  simp only [carry, Row.mk.injEq, true_and]
  apply List.ext_getElem (by simpa using full.symm)
  intro i here there
  have held : i < first.length := by simpa using here
  have known : first[i] ∈ second := perm.mem_iff.mp (List.getElem_mem held)
  rw [List.getElem_map, List.getElem?_map, List.getElem?_idxOf known, Option.map_some,
    Option.getD_some, once.idxOf_getElem, List.getElem?_eq_getElem there, Option.getD_some]

end

section
variable {first second : List String} {joins others : List Join}

theorem range_position (once : first.Nodup) (perm : first.Perm second) :
    ((List.range first.length).map (position first second)).Perm (List.range second.length) := by
  have positions : ∀ {xs : List String}, xs.Nodup → xs.map xs.idxOf = List.range xs.length := by
    intro xs nodup
    apply List.ext_getElem (by simp)
    intro i here there
    simp [nodup.idxOf_getElem]
  have moved : (List.range first.length).map (position first second) =
      first.map second.idxOf := by
    apply List.ext_getElem (by simp)
    intro i here there
    have held : i < first.length := by simpa using here
    simp [position, held]
  rw [moved, ← positions (perm.nodup_iff.mp once)]
  exact perm.map _

theorem ways_renumbered (same : Reordered first second joins others) {row other : Row}
    (renumbered : Row.Renumbered (position first second) row other) {i : Nat}
    (here : i < joins.length) :
    ways others other (position first second i) = ways joins row i := by
  obtain ⟨j', held, parent, path⟩ := same.same i _ (List.getElem?_eq_getElem here)
  have targets : j'.targets other = joins[i].targets row := by
    rw [Join.targets, Join.targets, parent, path, renumbered.source?]
  rw [ways, ways, held, List.getElem?_eq_getElem here, renumbered.joined]
  cases row.joined[i]? with
  | none => rfl
  | some r => simp only [targets]

open scoped Classical in
theorem count_carry (same : Reordered first second joins others) {row : Row}
    (full : row.joined.length = joins.length) :
    (expand others [⟨row.root, []⟩]).count (row.carry first second) =
      (expand joins [⟨row.root, []⟩]).count row := by
  have renumbered := carry_renumbered same.once same.perm (full.trans same.length)
  have full' : (row.carry first second).joined.length = others.length := by
    rw [carry, List.length_map, same.length']
  rw [count_expand same.rooted full]
  refine (count_expand same.rooted' full').trans ?_
  rw [same.length', ← ((range_position same.once same.perm).map _).prod_eq, List.map_map,
    ← same.length]
  congr 1
  apply List.map_congr_left
  intro i held
  exact ways_renumbered same renumbered (List.mem_range.mp held)

theorem expand_length {root : Record} {row : Row} (held : row ∈ expand joins [⟨root, []⟩]) :
    row.root = root ∧ row.joined.length = joins.length := by
  obtain ⟨start, begun, bound⟩ := mem_expand.mp held
  obtain rfl := List.mem_singleton.mp begun
  exact ⟨bound.root, by simpa using bound.joined_length⟩

/-- The same rows arise in both orders. -/
theorem expand_carry (same : Reordered first second joins others) (root : Record) :
    ((expand joins [⟨root, []⟩]).map (carry first second)).Perm (expand others [⟨root, []⟩]) := by
  classical
  have total : joins.length = others.length := by
    rw [same.length, same.length', same.perm.length_eq]
  apply List.perm_iff_count.mpr
  intro out
  by_cases shaped : out.root = root ∧ out.joined.length = others.length
  · obtain ⟨rfl, full⟩ := shaped
    -- The row stems from the one that it is carried back to.
    obtain ⟨row, back⟩ : ∃ row, row = out.carry second first := ⟨_, rfl⟩
    have forth : row.carry first second = out := by
      rw [back]
      exact carry_back (same.perm.nodup_iff.mp same.once) same.perm.symm (full.trans same.length')
    have full' : row.joined.length = joins.length := by
      rw [back, carry, List.length_map, same.length]
    have root : row.root = out.root := by rw [back, carry]
    have met : ∀ z ∈ expand joins [⟨out.root, []⟩],
        ((z.carry first second == out) = true ↔ (z == row) = true) := by
      intro z held
      rw [beq_iff_eq, beq_iff_eq]
      constructor
      · intro equal
        rw [back, ← equal]
        exact (carry_back same.once same.perm
          ((expand_length held).2.trans same.length)).symm
      · rintro rfl
        exact forth
    have mapped : ((expand joins [⟨out.root, []⟩]).map (carry first second)).count out =
        (expand joins [⟨out.root, []⟩]).count row := by
      rw [List.count, List.countP_map, List.count]
      exact List.countP_congr met
    have carried := count_carry same full'
    rw [forth, root] at carried
    exact mapped.trans carried.symm
  · have absent : out ∉ (expand joins [⟨root, []⟩]).map (carry first second) := by
      intro held
      obtain ⟨row, there, rfl⟩ := List.mem_map.mp held
      refine shaped ⟨(expand_length there).1, ?_⟩
      rw [carry, List.length_map, same.length']
    have absent' : out ∉ expand others [⟨root, []⟩] := fun held => shaped (expand_length held)
    rw [List.count_eq_zero_of_not_mem absent, List.count_eq_zero_of_not_mem absent']

end

end Row

end EntitySearch
