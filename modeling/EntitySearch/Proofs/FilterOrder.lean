import EntitySearch.Proofs.Closed
import EntitySearch.Proofs.JoinOrder
import EntitySearch.Proofs.Ties

/-! The order of the filters.

Filters in another order cross the same relations, so that the plan has the same
joins under other numbers. Its rows are the rows of the first plan with their
records in another order. They match and sort alike, and their roots come out in
one order.
-/

set_option autoImplicit false

namespace EntitySearch

open Numbered (renumber)
open Std (TransCmp)

variable {b : Base}

section
variable {first second : List String}

theorem position_idxOf {d : String} (held : d ∈ first) :
    position first second (first.idxOf d) = second.idxOf d := by
  rw [position, List.getElem?_idxOf held]
  rfl

theorem numbered_position (perm : first.Perm second) :
    Numbering.Of (position first second ∘ Numbering.positions first) second :=
  fun _ held => position_idxOf (perm.mem_iff.mpr held)

/-- The joins along one relation differ in their numbers only. -/
theorem Base.Joins.carried {i : Nat} {j j' : Join} (left : b.Joins first i j)
    (right : b.Joins second (position first second i) j') (same : j.dotted = j'.dotted) :
    j' = renumber (position first second) j := by
  obtain ⟨walked, p, segment, target, cardinality, segments, reached, type, anchored, rfl⟩ := left
  obtain ⟨walked', p', segment', target', cardinality', segments', reached', type', -, rfl⟩ := right
  obtain ⟨rfl, last⟩ := List.append_inj' (segments.eq_of_dotted segments' same) rfl
  obtain rfl := List.singleton_inj.mp last
  obtain rfl := reached.unique reached'
  obtain ⟨rfl, -⟩ := FieldType.relation.inj (Except.ok.inj (type.symm.trans type'))
  have parent : p.source (.positions second) =
      (p.source (.positions first)).renumber (position first second) := by
    rw [Spot.source_renumber]
    apply Spot.source_congr
    intro a held
    exact (position_idxOf (List.mem_of_mem_take (anchored a held))).symm
  exact congrArg (Join.mk _ · _ _ _) parent

theorem Scope.Sound.carried {s t : Scope} (left : s.Sound b) (right : t.Sound b) {i : Nat}
    {j : Join} (held : s.joins[i]? = some j) (known : j.dotted ∈ t.crossed) :
    t.joins[position s.crossed t.crossed i]? =
      some (renumber (position s.crossed t.crossed) j) := by
  have crossed : s.crossed[i]? = some j.dotted := by
    rw [Scope.crossed, List.getElem?_map, held]
    rfl
  have moved : position s.crossed t.crossed i = t.crossed.idxOf j.dotted := by
    rw [position, crossed]
    rfl
  have found := List.getElem?_idxOf known
  rw [← moved, Scope.crossed, List.getElem?_map] at found
  obtain ⟨j', held', named⟩ := Option.map_eq_some_iff.mp found
  exact held'.trans
    (congrArg some ((left.joins i j held).carried (right.joins _ j' held') named.symm))

theorem Scope.Sound.reordered {s t : Scope} (left : s.Sound b) (right : t.Sound b)
    (once : s.crossed.Nodup) (perm : s.crossed.Perm t.crossed) :
    Reordered s.crossed t.crossed s.joins t.joins where
  once := once
  perm := perm
  length := (List.length_map _).symm
  length' := (List.length_map _).symm
  rooted i j _ held parent := (left.joins i j held).parent_lt parent
  rooted' i j _ held parent := (right.joins i j held).parent_lt parent
  same i j held := by
    have crossed : j.dotted ∈ s.crossed := List.mem_map_of_mem (List.mem_of_getElem? held)
    exact ⟨_, left.carried right held (perm.mem_iff.mp crossed), rfl, rfl⟩

end

namespace Plan

/-- The second plan is the first one with other numbers for its joins, and with its filters in
another order. -/
structure Renumbers (first second : List String) (p q : Plan) : Prop where
  joins : Reordered first second p.joins q.joins
  root : q.root = p.root
  identifier : q.identifier = p.identifier
  projection : q.projection = renumber (position first second) p.projection
  filters : q.filters.Perm (renumber (position first second) p.filters)
  seek : q.seek = renumber (position first second) p.seek
  groupBy : q.groupBy = renumber (position first second) p.groupBy
  orderBy : q.orderBy = renumber (position first second) p.orderBy
  distinct : q.distinct = p.distinct
  offset : q.offset = p.offset
  limit : q.limit = p.limit

/-- What sorting and cutting look at of a row. -/
def keyed (p : Plan) (row : Row) : List Value × Record := (p.keyOf row, row.root)

namespace Renumbers

variable {first second : List String} {p q : Plan}

section
variable {row : Row} {other : Row}

theorem keyOf (same : Renumbers first second p q)
    (renumbered : Row.Renumbered (position first second) row other) :
    q.keyOf other = p.keyOf row := by
  have exprs : q.orderBy.map OrderTerm.expr =
      Expr.renumberAll (position first second) (p.orderBy.map OrderTerm.expr) := by
    rw [same.orderBy, Expr.renumberAll_eq]
    show (p.orderBy.map _).map _ = _
    rw [List.map_map, List.map_map]
    rfl
  simp only [Plan.keyOf, sortKey, exprs, Expr.evalGroupAll_renumber renumbered]

theorem accepts (same : Renumbers first second p q)
    (renumbered : Row.Renumbered (position first second) row other) :
    q.accepts other = p.accepts row := by
  have parts : (q.filters ++ q.seek.toList).Perm
      ((p.filters ++ p.seek.toList).map (Predicate.renumber (position first second))) := by
    rw [List.map_append, same.seek]
    apply same.filters.append
    cases p.seek <;> exact .refl _
  rw [Bool.eq_iff_iff, accepts_iff, accepts_iff, accepts_each, accepts_each]
  constructor
  · intro accepted part held
    rw [← part.eval_renumber renumbered]
    exact accepted _ (parts.mem_iff.mpr (List.mem_map_of_mem held))
  · intro accepted part held
    obtain ⟨original, there, rfl⟩ := List.mem_map.mp (parts.mem_iff.mp held)
    rw [original.eval_renumber renumbered]
    exact accepted original there

end

/-- Both plans keep the same rows of a record, up to the order of their records. -/
theorem matched_keyed (same : Renumbers first second p q) (r : Record) :
    ((p.matched [r]).map p.keyed).Perm ((q.matched [r]).map q.keyed) := by
  have renumbered : ∀ row ∈ p.joinedRows [r],
      Row.Renumbered (position first second) row (row.carry first second) := by
    intro row held
    apply Row.carry_renumbered same.joins.once same.joins.perm
    rw [joined_length held, same.joins.length]
  have rows : ((p.joinedRows [r]).map (Row.carry first second)).Perm (q.joinedRows [r]) :=
    Row.expand_carry same.joins r
  have kept := (rows.filter q.accepts).map q.keyed
  rw [List.filter_map, List.map_map] at kept
  refine List.Perm.trans (.of_eq ?_) kept
  have accepted : ∀ row ∈ p.joinedRows [r],
      p.accepts row = (q.accepts ∘ Row.carry first second) row :=
    fun row held => (same.accepts (renumbered row held)).symm
  rw [matched, List.filter_congr accepted]
  apply List.map_congr_left
  intro row held
  have known := renumbered row (List.mem_of_mem_filter held)
  exact Prod.ext (same.keyOf known).symm rfl

/-- Whatever is chosen by keys, the chosen rows of both plans have the same roots. -/
theorem matched_roots (same : Renumbers first second p q) (stored : List Record)
    (chosen : List Value × Record → Bool) :
    (((p.matched stored).map p.keyed).filter chosen).map Prod.snd =
      (((q.matched stored).map q.keyed).filter chosen).map Prod.snd := by
  have repeated : ∀ (p : Plan) (r : Record),
      (((p.matched [r]).map p.keyed).filter chosen).map Prod.snd =
        List.replicate (((p.matched [r]).map p.keyed).filter chosen).length r := by
    intro p r
    apply List.eq_replicate_iff.mpr ⟨List.length_map _, _⟩
    intro root held
    obtain ⟨k, there, rfl⟩ := List.mem_map.mp held
    obtain ⟨row, kept, rfl⟩ := List.mem_map.mp (List.mem_of_mem_filter there)
    exact List.mem_singleton.mp (mem_matched.mp kept).1
  -- Of one record, both sides repeat it, and equally often.
  have single : ∀ r, (((p.matched [r]).map p.keyed).filter chosen).map Prod.snd =
      (((q.matched [r]).map q.keyed).filter chosen).map Prod.snd := by
    intro r
    rw [repeated p, repeated q, ((same.matched_keyed r).filter chosen).length_eq]
  rw [matched_flatMap, matched_flatMap (p := q), List.map_flatMap, List.map_flatMap,
    List.filter_flatMap, List.filter_flatMap, List.map_flatMap, List.map_flatMap]
  exact congrArg (stored.flatMap ·) (funext single)

theorem ranked_keyed (p : Plan) (stored : List Record) : (p.ranked stored).map Row.root =
    (stableSort (fun a c => compareKeys p.orderBy a.1 c.1 == .lt)
      ((p.matched stored).map p.keyed)).map Prod.snd := by
  rw [stableSort_map, List.map_map]
  rfl

theorem directions (same : Renumbers first second p q) :
    p.orderBy.map OrderTerm.direction = q.orderBy.map OrderTerm.direction := by
  rw [same.orderBy]
  show _ = (p.orderBy.map _).map _
  rw [List.map_map]
  rfl

theorem keyed_perm (same : Renumbers first second p q) (stored : List Record) :
    ((p.matched stored).map p.keyed).Perm ((q.matched stored).map q.keyed) := by
  rw [matched_flatMap, matched_flatMap (p := q), List.map_flatMap, List.map_flatMap]
  exact List.Perm.flatMap_left stored fun r _ => same.matched_keyed r

theorem sortable_keyed (p : Plan) (stored : List Record) :
    Sortable (fun a c => compareKeys p.orderBy a.1 c.1 == .lt) ((p.matched stored).map p.keyed) ↔
      Sortable p.precedes (p.matched stored) := Sortable.map_iff _ _

theorem sortable (same : Renumbers first second p q) {stored : List Record}
    (h : Sortable p.precedes (p.matched stored)) : Sortable q.precedes (q.matched stored) := by
  rw [← sortable_keyed] at h ⊢
  rw [← compareKeys_directions same.directions]
  exact h.perm (same.keyed_perm stored)

theorem ranked_roots (same : Renumbers first second p q) (total : p.Total) {stored : List Record}
    (comparable : p.Comparable stored) :
    (p.ranked stored).map Row.root = (q.ranked stored).map Row.root := by
  obtain ⟨kinds, sorts⟩ := comparable.keys total
  have left : ∀ k ∈ (p.matched stored).map p.keyed, List.Forall₂ Value.Sorts kinds k.1 := by
    intro k held
    obtain ⟨row, kept, rfl⟩ := List.mem_map.mp held
    exact sorts row (List.mem_of_mem_filter kept)
  have right : ∀ k ∈ (q.matched stored).map q.keyed, List.Forall₂ Value.Sorts kinds k.1 :=
    fun k held => left k ((same.keyed_perm stored).mem_iff.mpr held)
  have := transCmp_keys p.orderBy kinds
  rw [ranked_keyed, ranked_keyed, ← compareKeys_directions same.directions]
  apply stableSort_map_eq_of (fun a c : List Value × Record => compareKeys p.orderBy a.1 c.1) _
    left right
  · exact fun x _ => same.matched_roots stored _
  · exact transCmp_on (fun a c : KeysOf kinds => compareKeys p.orderBy a.1 c.1)
      fun k : { k : List Value × Record // List.Forall₂ Value.Sorts kinds k.1 } => ⟨k.1.1, k.2⟩

theorem execute_eq (same : Renumbers first second p q) (total : p.Total) (total' : q.Total)
    (entity : p.projection = .entity) (ungrouped : p.groupBy = []) {tables : Tables}
    (comparable : p.Comparable (tables.records p.root)) : q.execute tables = p.execute tables := by
  have entity' : q.projection = .entity := by
    rw [same.projection, entity]
    rfl
  have ungrouped' : q.groupBy = [] := by
    rw [same.groupBy, ungrouped]
    rfl
  have repeating : q.repeats = p.repeats := by
    funext a c
    simp only [repeats, sameEntity, entity, entity', same.identifier]
  have deduped : q.dedupe = p.dedupe := by
    funext records
    simp only [dedupe, same.distinct, repeating]
  have paged : q.page = p.page := by
    funext records
    simp only [page, same.offset, same.limit]
  have sortable := comparable.sortable total
  have sorts : p.Sorts (tables.records p.root) :=
    (sorts_entity_iff entity ungrouped _).mpr sortable
  have sorts' : q.Sorts (tables.records q.root) := by
    rw [same.root]
    exact (sorts_entity_iff entity' ungrouped' _).mpr (same.sortable sortable)
  rw [execute_entity total entity ungrouped tables sorts,
    execute_entity total' entity' ungrouped' tables sorts', same.root,
    same.ranked_roots total comparable, deduped, paged]

end Renumbers

/-- Filters in another order compile to the same plan under other numbers. -/
theorem inScope_renumbers (settings : CompilerSettings) (c : Criteria) {filters : Keyed Condition}
    (reordered : c.filters.Perm filters) {s : Scope} (sound : s.Sound b) (fresh : s.joins = []) :
    ∃ first second, Renumbers first second (inScope settings c s).1
      (inScope settings { c with filters } s).1 := by
  obtain ⟨front, projection, selected, selecting⟩ := Selecting.projection_uniform (b := b) c
  obtain ⟨new, g, parts, filtering⟩ := Filter.all_runs b settings
  obtain ⟨back, a, total, compiles⟩ := inScope_runs settings c selected selecting
  obtain ⟨t, left, crossed, ran⟩ := compiles c.filters _ _ (filtering c.filters) s sound
  obtain ⟨u, right, crossed', ran'⟩ := compiles filters _ _ (filtering filters) s sound
  have empty : s.crossed = [] := by rw [Scope.crossed, fresh, List.map_nil]
  have once : t.crossed.Nodup := by
    rw [crossed, empty]
    exact nodup_cross List.nodup_nil _
  have perm : t.crossed.Perm u.crossed := by
    apply (List.perm_ext_iff_of_nodup once _).mpr
    · intro d
      rw [crossed, crossed', mem_cross, mem_cross]
      simp only [List.mem_append, (reordered.flatMap_right new).mem_iff]
    · rw [crossed', empty]
      exact nodup_cross List.nodup_nil _
  -- A number of the first plan becomes the number that its relation has in the second.
  let f := position t.crossed u.crossed
  let ν := Numbering.positions t.crossed
  have numbered : Numbering.Of (f ∘ ν) u.crossed := numbered_position perm
  have plan := congrArg Prod.fst (ran ν (Numbering.of_positions _))
  have plan' := congrArg Prod.fst (ran' (f ∘ ν) numbered)
  have arranged := total.natural f ν
  refine ⟨t.crossed, u.crossed, ?_⟩
  rw [show (inScope settings c s).1 = _ from plan, plan']
  have base : t.base = u.base := left.base.trans right.base.symm
  constructor
  · exact left.reordered right once perm
  · exact congrArg (fun b : Base => b.root.name) base.symm
  · exact congrArg Base.identifier base.symm
  · exact (selected.natural f ν).symm
  · show (filters.flatMap (g · (f ∘ ν))).Perm (renumber f (c.filters.flatMap (g · ν)))
    rw [(Regular.flatMap c.filters parts).natural]
    exact (reordered.flatMap_right _).symm
  · show (a (f ∘ ν)).keyset.map Prod.fst = renumber f ((a ν).keyset.map Prod.fst)
    rw [← arranged]
    cases h : (a ν).keyset <;> simp only [renumber, h] <;> rfl
  · show (a (f ∘ ν)).groupBy = _
    rw [← arranged]
    rfl
  · show (a (f ∘ ν)).orderBy = _
    rw [← arranged]
    rfl
  · rfl
  · show (if (a (f ∘ ν)).keyset.isSome then none else c.first) =
      if (a ν).keyset.isSome then none else c.first
    rw [← arranged]
    show (if ((a ν).keyset.map _).isSome then none else c.first) = _
    rw [Option.isSome_map]
  · rfl

/-- A search finds the same records in the same order, in whatever order its filters stand. -/
theorem filter_order {settings : CompilerSettings} {c : Criteria} {catalog after : Catalog}
    {p : Plan} (compiled : ofCriteria settings c catalog = (.ok p, after))
    (entity : p.projection = .entity) (ungrouped : p.groupBy = []) {filters : Keyed Condition}
    (reordered : c.filters.Perm filters) {tables : Tables}
    (comparable : p.Comparable (tables.records p.root)) :
    ∃ q later found, ofCriteria settings { c with filters } catalog = (.ok q, later) ∧
      p.execute tables = .ok (.entities found) ∧ q.execute tables = .ok (.entities found) := by
  obtain ⟨s, loaded, started, rfl⟩ := withScope_ok compiled
  have sound := Scope.start_sound started
  obtain ⟨-, -, -, fresh, -⟩ := Scope.start_ok started
  obtain ⟨first, second, same⟩ := inScope_renumbers settings c reordered sound fresh
  have serves := inScope_serves settings c sound
  have serves' := inScope_serves settings { c with filters } sound
  have sorts := (sorts_entity_iff entity ungrouped _).mpr (comparable.sortable serves.total)
  have found := execute_entity serves.total entity ungrouped tables sorts
  refine ⟨_, _, _, withScope_start started, found, ?_⟩
  rw [same.execute_eq serves.total serves'.total entity ungrouped comparable, found]

end Plan

namespace Sample

/-- Two filters, behind two relations. -/
def located : Criteria :=
  { tagged with
    filters := tagged.filters ++ [("city.name", ⟨.eq, [.literal (.string "Oslo")], false, false⟩)] }

def tagsScope : Scope :=
  { scope with
    joins := [⟨0, .root, ["tags"], "Tag", "tags"⟩]
    places := [("tags", ⟨.join 0, "Tag", []⟩)]
    types := scope.types ++ [("Tag", tag)] }

def cityScope : Scope :=
  { tagsScope with
    joins := tagsScope.joins ++ [⟨1, .root, ["city"], "City", "city"⟩]
    places := tagsScope.places ++ [("city", ⟨.join 1, "City", []⟩)]
    types := tagsScope.types ++ [("City", city)] }

def locatedPlan : Plan :=
  { taggedPlan with
    joins := cityScope.joins
    filters := taggedPlan.filters ++
      [.compareTo .eq (.field ⟨.join 1, ["name"], "city.name"⟩) (.string "Oslo")] }

theorem ofCriteria_located :
    Plan.ofCriteria {} located catalog = (.ok locatedPlan, catalog) := by
  have tags : (Filter.ofCondition {} "tags.label" none
        ⟨.isIn, [.literal (.string "north"), .literal (.string "south")], false, false⟩).outcome
      scope = (.ok (.isIn (.field ⟨.join 0, ["label"], "tags.label"⟩)
        [.string "north", .string "south"] false), tagsScope) := rfl
  have city : (Filter.ofCondition {} "city.name" none
        ⟨.eq, [.literal (.string "Oslo")], false, false⟩).outcome tagsScope =
      (.ok (.compareTo .eq (.field ⟨.join 1, ["name"], "city.name"⟩) (.string "Oslo")),
        cityScope) := rfl
  have filters : Filter.all {} located.filters scope = (locatedPlan.filters, cityScope) :=
    (state_bind tags).trans (state_bind (state_bind city))
  have projection : Selecting.projection located scope = (.entity, scope) := rfl
  have keyset : Keyset.ofCriteria {} located cityScope = (none, cityScope) := rfl
  have requested : Order.terms located.orders cityScope = ([], cityScope) := rfl
  have ordered : Order.stableOr [] cityScope = (locatedPlan.orderBy, cityScope) := rfl
  have planned : Plan.inScope {} located scope = (locatedPlan, cityScope) := by
    refine (state_bind projection).trans ?_
    refine (state_bind filters).trans ?_
    refine (state_bind keyset).trans ?_
    refine (state_bind requested).trans ?_
    exact state_bind ordered
  have started : Scope.start "Person" catalog = (.ok scope, catalog) := rfl
  refine (Plan.withScope_start started).trans ?_
  exact congrArg (fun ran : Plan × Scope => (Except.ok ran.1, ran.2.catalog)) planned

end Sample

namespace Plan

/-- The tags are joined before the city, or behind it. -/
theorem filter_order_located :
    ∃ q later found, ofCriteria {} { Sample.located with filters := Sample.located.filters.reverse }
        Sample.catalog = (.ok q, later) ∧
      Sample.locatedPlan.execute Sample.tables = .ok (.entities found) ∧
      q.execute Sample.tables = .ok (.entities found) :=
  have comparable : Sample.locatedPlan.Comparable (Sample.tables.records "Person") :=
    comparable_of_identified Sample.identified (by decide)
  filter_order Sample.ofCriteria_located rfl rfl (List.reverse_perm _).symm comparable

end Plan

end EntitySearch
