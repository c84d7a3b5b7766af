import Mathlib.Data.List.Perm.Subperm
import EntitySearch.Proofs.Ties

/-! Counting beside searching.

Counting crosses the relations of the filters only; a search crosses those of its
orders behind them, and loses the records that these lead nowhere from. Where
identifiers tell entities apart, a search finds as many records as are counted
exactly when it reaches the entity of every record that is counted.
-/

set_option autoImplicit false

namespace EntitySearch

open Numbered (renumber)

variable {b : Base}

section
variable {α : Type} {repeats : α → α → Bool} {xs ys : List α}

theorem repeats_iff (classes : Equivalence fun a b : { x // x ∈ xs } => repeats a.1 b.1 = true)
    {a b : α} (left : a ∈ xs) (right : b ∈ xs) :
    repeats a b = true ↔ xs.filter (repeats a) = xs.filter (repeats b) := by
  constructor
  · intro met
    apply List.filter_congr
    intro x held
    apply Bool.eq_iff_iff.mpr
    constructor
    · exact classes.trans (x := ⟨b, right⟩) (y := ⟨a, left⟩) (z := ⟨x, held⟩)
        (classes.symm (x := ⟨a, left⟩) (y := ⟨b, right⟩) met)
    · exact classes.trans (x := ⟨a, left⟩) (y := ⟨b, right⟩) (z := ⟨x, held⟩) met
  · intro same
    have itself : b ∈ xs.filter (repeats b) :=
      List.mem_filter.mpr ⟨right, classes.refl ⟨b, right⟩⟩
    exact (List.mem_filter.mp (same ▸ itself)).2

theorem length_eq_iff (first : xs.Nodup) (second : ys.Nodup) (within : xs ⊆ ys) :
    xs.length = ys.length ↔ ys ⊆ xs := by
  have part := List.subperm_of_subset first within
  constructor
  · intro same
    exact (part.perm_of_length_le (Nat.le_of_eq same.symm)).symm.subset
  · intro back
    exact Nat.le_antisymm part.length_le (List.subperm_of_subset second back).length_le

end

namespace Plan

variable {p q : Plan} {stored : List Record}

/-- The first plan has the conditions of the second one, and joins more. -/
structure Extends (p q : Plan) : Prop where
  root : p.root = q.root
  identifier : p.identifier = q.identifier
  joins : q.joins <+: p.joins
  filters : q.filters ⊆ p.filters
  seek : q.seek = none
  /-- The conditions do not look at other joins. -/
  settled : ∀ f : Nat → Nat, (∀ k < q.joins.length, f k = k) →
    ∀ part ∈ q.filters, part.renumber f = part

/-- With more joins, no more records match. -/
theorem Extends.matches (wider : p.Extends q) {r : Record} (found : p.Matches r) : q.Matches r := by
  obtain ⟨row, bound, accepted⟩ := found
  obtain ⟨extra, whole⟩ := wider.joins
  rw [← whole] at bound
  obtain ⟨between, first, last⟩ := bound.split
  refine ⟨between, first, accepts_each.mpr fun part held => ?_⟩
  have length : between.joined.length = q.joins.length := by
    simpa using first.joined_length
  -- What is bound later stands behind the joins of the second plan.
  let f : Nat → Nat := fun i => if i < q.joins.length then i else row.joined.length + i
  have renumbered : Row.Renumbered f between row := by
    refine ⟨last.root, fun i => ?_⟩
    obtain ⟨later, joined⟩ := last.joined_prefix
    by_cases below : i < q.joins.length
    · simp only [f, below, if_true, ← joined]
      exact List.getElem?_append_left (length ▸ below)
    · simp only [f, below, if_false]
      rw [List.getElem?_eq_none (by omega), List.getElem?_eq_none (by omega)]
  have part_held : part ∈ q.filters := by simpa [wider.seek] using held
  have fixed := wider.settled f (fun k below => if_pos below) part part_held
  rw [← part.eval_renumber renumbered, fixed]
  exact accepts_each.mp accepted part (List.mem_append_left _ (wider.filters part_held))

theorem countInScope_again (settings : CompilerSettings) (c : Criteria) {s t : Scope}
    (left : s.Sound b) (right : t.Sound b) (same : s.crossed = t.crossed) :
    (countInScope settings c s).1 = (countInScope settings c t).1 := by
  obtain ⟨new, g, -, filtering⟩ := Filter.all_uniform (b := b) settings c.filters
  obtain ⟨u, sound, crossed, ran⟩ := countInScope_runs filtering left
  obtain ⟨v, sound', crossed', ran'⟩ := countInScope_runs filtering right
  have met : u.crossed = v.crossed := by rw [crossed, crossed', same]
  have base : u.base = v.base := sound.base.trans sound'.base.symm
  have joins : u.joins = v.joins := sound.joins_eq sound' met
  have numbered : (Numbering.positions u.crossed).Of v.crossed := met ▸ Numbering.of_positions _
  rw [ran _ (Numbering.of_positions _), ran' _ numbered]
  have root : u.root = v.root := congrArg Base.root base
  have identifier : u.identifier = v.identifier := congrArg Base.identifier base
  simp only [counting, root, identifier, joins]

/-- Without columns, a search compiles its filters first, as counting does. -/
theorem inScope_extends (settings : CompilerSettings) {c d : Criteria} (functions : d.functions = [])
    (columns : d.columns = []) (filters : d.filters = c.filters) {s : Scope} (sound : s.Sound b) :
    (inScope settings d s).1.projection = .entity ∧
      (inScope settings d s).1.Extends (countInScope settings c s).1 := by
  have selecting : Runs b [] (fun _ => Projection.entity) fun _ => Selecting.projection d := by
    have entity : Selecting.projection d = pure .entity := by
      simp only [Selecting.projection, functions, columns, Selecting.columns]
      rfl
    rw [entity]
    exact .pure _
  have selected : Regular (fun _ => True) fun _ => Projection.entity := .const trivial fun _ => rfl
  obtain ⟨new, g, parts, filtering⟩ := Filter.all_uniform (b := b) settings c.filters
  obtain ⟨back, a, total, compiles⟩ := inScope_runs settings d selected selecting
  obtain ⟨t, left, crossed, ran⟩ := compiles c.filters new g filtering s sound
  obtain ⟨u, right, crossed', ran'⟩ := countInScope_runs filtering sound
  -- The filters cross their relations first in both, and so under the same numbers.
  have grown : u.crossed <+: t.crossed := by
    rw [crossed, crossed', List.nil_append, cross_append]
    exact prefix_cross _ _
  have numbered := Numbering.of_positions t.crossed
  have searched := ran _ numbered
  rw [show ({ d with filters := c.filters } : Criteria) = d by rw [← filters]] at searched
  have base : t.base = u.base := left.base.trans right.base.symm
  rw [searched, ran' _ (numbered.front grown)]
  refine ⟨rfl, congrArg (fun b : Base => b.root.name) base, congrArg Base.identifier base,
    right.joins_prefix left grown, List.Subset.refl _, rfl, ?_⟩
  intro f fixed part held
  -- Exchanging other numbers gives a numbering of the same relations, and the same plan.
  have within := numbered.front grown
  have moved : Numbering.Of (f ∘ Numbering.positions t.crossed) u.crossed :=
    within.fixed fun k below => fixed k (by simpa [counting, Scope.crossed] using below)
  have same : renumber f (g (.positions t.crossed)) = g (.positions t.crossed) := by
    rw [parts.natural]
    exact congrArg (fun ran => ran.1.filters) ((ran' _ moved).symm.trans (ran' _ within))
  exact List.map_inj_left.mp (same.trans (List.map_id _).symm) part held

theorem countOfCriteria_again {settings : CompilerSettings} {c d : Criteria}
    {catalog after loaded : Catalog} (searched : ofCriteria settings d catalog = (.ok p, after))
    (counted : countOfCriteria settings c catalog = (.ok q, loaded)) (entity : d.entity = c.entity) :
    ∃ later, countOfCriteria settings c after = (.ok q, later) := by
  obtain ⟨s, known, started, rfl⟩ := withScope_ok counted
  have sound := Scope.start_sound started
  obtain ⟨-, -, -, fresh, -⟩ := Scope.start_ok started
  obtain ⟨-, rfl⟩ := Prod.mk.inj ((withScope_start (entity.symm ▸ started)).symm.trans searched)
  have same : (inScope settings d s).2.catalog.definition = catalog.definition :=
    (congrArg Base.catalog (inScope_sound settings d sound).base).trans (Scope.start_catalog started)
  obtain ⟨t, known', started', base⟩ := Scope.start_again started same
  have sound' := Scope.start_sound started'
  rw [base] at sound'
  obtain ⟨-, -, -, fresh', -⟩ := Scope.start_ok started'
  have crossed : s.crossed = t.crossed := by
    simp only [Scope.crossed, fresh, fresh']
  rw [countInScope_again settings c sound sound' crossed]
  exact ⟨_, withScope_start started'⟩

def counted (q : Plan) (stored : List Record) : List Record := stored.filter fun r => q.Matches r

theorem mem_counted {r : Record} : r ∈ q.counted stored ↔ r ∈ stored ∧ q.Matches r := by
  simp [counted]

theorem sameEntity_eq {r other : Record} (left : (Keyed.find? r q.identifier).isSome)
    (right : (Keyed.find? other q.identifier).isSome) :
    q.sameEntity r other = (q.idOf r).equals (q.idOf other) := by
  obtain ⟨v, first⟩ := Option.isSome_iff_exists.mp left
  obtain ⟨w, second⟩ := Option.isSome_iff_exists.mp right
  simp only [sameEntity, idOf, first, second, Option.getD_some]

/-- Every record that is counted carries an identifier, by which some are the same entity. -/
structure Identifies (q : Plan) (stored : List Record) : Prop where
  named : ∀ r ∈ q.counted stored, (Keyed.find? r q.identifier).isSome
  classes : Equivalence fun a b : { r // r ∈ q.counted stored } => q.sameEntity a.1 b.1 = true

def standing (q : Plan) (stored : List Record) (r : Record) : List Record :=
  (q.counted stored).filter (q.sameEntity r)

namespace Identifies

variable {r other : Record}

theorem sameEntity_iff (identifies : q.Identifies stored) (left : r ∈ q.counted stored)
    (right : other ∈ q.counted stored) :
    q.sameEntity r other = true ↔ q.standing stored r = q.standing stored other :=
  repeats_iff identifies.classes left right

/-- A search finds one record of every entity that it reaches. -/
theorem dedupe_classes (identifies : q.Identifies stored) (entity : p.projection = .entity)
    (distinct : p.distinct = true) (identifier : p.identifier = q.identifier) {roots : List Record}
    (within : ∀ r ∈ roots, r ∈ q.counted stored) :
    ((p.dedupe roots).map (q.standing stored)).Nodup ∧
      ∀ c, c ∈ (p.dedupe roots).map (q.standing stored) ↔ c ∈ roots.map (q.standing stored) := by
  simp only [dedupe, distinct, if_true]
  apply keepFirst_classes
  intro a left b right
  rw [← identifies.sameEntity_iff (within a left) (within b right)]
  simp only [repeats, entity, Projection.isTuple, Bool.false_eq_true, if_false, sameEntity,
    identifier]

theorem count_classes (identifies : q.Identifies stored) :
    ∃ classes : List (List Record), q.countRows true (q.matched stored) = classes.length ∧
      classes.Nodup ∧ ∀ c, c ∈ classes ↔ c ∈ (q.counted stored).map (q.standing stored) := by
  -- An identifier is told by the records that carry it.
  let holders (v : Value) : List Record := (q.counted stored).filter fun r => v.equals (q.idOf r)
  let ids : List Value := (q.matched stored).map fun row => q.idOf row.root
  have told : ∀ r ∈ q.counted stored, holders (q.idOf r) = q.standing stored r :=
    fun r held => List.filter_congr fun other there =>
      (sameEntity_eq (identifies.named r held) (identifies.named other there)).symm
  have same : ∀ v ∈ ids, ∀ w ∈ ids, v.equals w = true ↔ holders v = holders w := by
    intro v left w right
    obtain ⟨a, held, rfl⟩ := List.mem_map.mp (mem_matched_ids.mp left)
    obtain ⟨c, held', rfl⟩ := List.mem_map.mp (mem_matched_ids.mp right)
    rw [told a held, told c held',
      ← sameEntity_eq (identifies.named a held) (identifies.named c held')]
    exact identifies.sameEntity_iff held held'
  obtain ⟨nodup, kept⟩ := keepFirst_classes same
  refine ⟨_, (List.length_map holders).symm, nodup, fun c => (kept c).trans ?_⟩
  constructor
  · intro found
    obtain ⟨v, held, rfl⟩ := List.mem_map.mp found
    obtain ⟨r, there, rfl⟩ := List.mem_map.mp (mem_matched_ids.mp held)
    exact told r there ▸ List.mem_map_of_mem there
  · intro found
    obtain ⟨r, there, rfl⟩ := List.mem_map.mp found
    exact told r there ▸ List.mem_map_of_mem (mem_matched_ids.mpr (List.mem_map_of_mem there))

/-- A search finds as many records as are counted exactly when it reaches the entity of every
record that is counted. -/
theorem length_eq_count_iff (identifies : q.Identifies stored) (entity : p.projection = .entity)
    (distinct : p.distinct = true) (wider : p.Extends q) :
    (p.dedupe ((p.ranked stored).map Row.root)).length = q.countRows true (q.matched stored) ↔
      ∀ r ∈ stored, q.Matches r →
        ∃ other ∈ stored, p.Matches other ∧ q.sameEntity other r = true := by
  have within : ∀ r ∈ (p.ranked stored).map Row.root, r ∈ q.counted stored := by
    intro r found
    obtain ⟨held, matched⟩ := mem_ranked_roots.mp found
    exact mem_counted.mpr ⟨held, wider.matches matched⟩
  -- Both numbers are lengths of lists of classes, and the search has no classes of its own.
  obtain ⟨nodup, kept⟩ := identifies.dedupe_classes entity distinct wider.identifier within
  obtain ⟨classes, count, nodup', kept'⟩ := identifies.count_classes
  rw [count, ← List.length_map (q.standing stored), length_eq_iff nodup nodup' _]
  · constructor
    · intro reached r held matched
      have there : r ∈ q.counted stored := mem_counted.mpr ⟨held, matched⟩
      have class_found := (kept _).mp (reached ((kept' _).mpr (List.mem_map_of_mem there)))
      obtain ⟨other, found, same⟩ := List.mem_map.mp class_found
      obtain ⟨held', matched'⟩ := mem_ranked_roots.mp found
      exact ⟨other, held', matched', (identifies.sameEntity_iff (within other found) there).mpr same⟩
    · intro reached c counted
      obtain ⟨r, there, rfl⟩ := List.mem_map.mp ((kept' c).mp counted)
      obtain ⟨held, matched⟩ := mem_counted.mp there
      obtain ⟨other, held', matched', met⟩ := reached r held matched
      have found : other ∈ (p.ranked stored).map Row.root := mem_ranked_roots.mpr ⟨held', matched'⟩
      rw [← (identifies.sameEntity_iff (within other found) there).mp met]
      exact (kept _).mpr (List.mem_map_of_mem found)
  · intro c found
    obtain ⟨r, there, rfl⟩ := List.mem_map.mp ((kept c).mp found)
    exact (kept' _).mpr (List.mem_map_of_mem (within r there))

end Identifies

end Plan

theorem Plan.Identifies.of_sorts {q : Plan} {stored : List Record} {k : Value.Kind}
    (sorts : ∀ r ∈ q.counted stored, ∃ v, Keyed.find? r q.identifier = some v ∧ Value.Sorts k v) :
    q.Identifies stored := by
  have named : ∀ r ∈ q.counted stored, (Keyed.find? r q.identifier).isSome := by
    intro r held
    obtain ⟨v, found, -⟩ := sorts r held
    rw [found]
    rfl
  have ids : ∀ r ∈ q.counted stored, Value.Sorts k (q.idOf r) := by
    intro r held
    obtain ⟨v, found, sort⟩ := sorts r held
    simpa only [idOf, found, Option.getD_some] using sort
  have := Value.transCmp_sorts k
  let id (r : { r // r ∈ q.counted stored }) : { v // Value.Sorts k v } :=
    ⟨q.idOf r.1, ids r.1 r.2⟩
  let compare (a c : { r // r ∈ q.counted stored }) : Ordering := (id a).1.sortOrder (id c).1
  have order : Std.TransCmp compare :=
    transCmp_on (fun v w : { v // Value.Sorts k v } => v.1.sortOrder w.1) id
  have same : ∀ a c : { r // r ∈ q.counted stored },
      q.sameEntity a.1 c.1 = true ↔ compare a c = .eq := by
    intro a c
    rw [sameEntity_eq (named a.1 a.2) (named c.1 c.2)]
    exact Value.equals_of_sorts (id a).2 (id c).2
  refine ⟨named, fun a => (same a a).mpr ?_, fun {a c} met => (same c a).mpr ?_,
    fun {a c d} met met' => (same a d).mpr ?_⟩
  · exact Std.ReflCmp.compare_self
  · exact order.eq_symm ((same a c).mp met)
  · exact order.eq_trans ((same a c).mp met) ((same c d).mp met')

end EntitySearch
