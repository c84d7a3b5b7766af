import EntitySearch.Proofs.FilterOrder

/-! Filters shared by a search and its count.

A search resolves what it selects before its filters, while a count starts with
the filters. Each filter meets the same fate in both: it fails with one error, or
compiles to predicates that differ in the numbers of their joins, which can be
told from the dotted paths of the joins.
-/

set_option autoImplicit false

namespace EntitySearch

open Numbered (renumber)

variable {b : Base}

instance {α ε : Type} [Numbered α] : Numbered (Except ε α) := ⟨fun f => Except.map (renumber f)⟩

section
variable {α β : Type} [Numbered α] {P : α → Prop}

theorem Even.regular {o : Numbering → Except QueryError α} (h : Even (Regular P) o) :
    Regular (fun outcome => ∀ a, outcome = .ok a → P a) o := by
  rcases h with ⟨e, fails⟩ | ⟨g, regular, same⟩
  · obtain rfl : o = fun _ => .error e := funext fails
    exact .const (by simp) fun _ => rfl
  · obtain rfl : o = fun ν => .ok (g ν) := funext same
    exact regular.map (fun _ _ => rfl) fun a holds c same => Except.ok.inj same ▸ holds

theorem Regular.mapped {g : β → Numbering → α} (h : ∀ x, Regular P (g x)) (xs : List β) :
    Regular (fun ys => ∀ y ∈ ys, P y) fun ν => xs.map (g · ν) := by
  induction xs with
  | nil => exact .nil
  | cons x rest ih => exact (h x).cons ih

theorem position_beyond {first second : List String} {i : Nat} (beyond : first.length ≤ i) :
    position first second i = i := by
  rw [position, List.getElem?_eq_none beyond, Option.elim_none]

/-- What is settled by the numbers of the relations crossed is the same after others, up to the
numbers. -/
theorem Regular.carried {g : Numbering → α} {first : List String} (h : Regular P g)
    (settled : ∀ ν : Numbering, ν.Of first → g ν = g (Numbering.positions first))
    (second : List String) : g (Numbering.positions second) =
      renumber (position first second) (g (Numbering.positions first)) := by
  -- Relations that were not crossed get numbers beyond the positions. No outcome mentions them:
  -- `back` would take them to the second list, `clear` moves them to where it does nothing.
  let bound := first.length + second.length
  let apart : Numbering := fun d =>
    if d ∈ first then first.idxOf d else first.length + second.idxOf d
  let clear : Nat → Nat := fun i => if i < first.length then i else i + bound + 1
  let back : Nat → Nat := fun i =>
    if i < first.length then position first second i
    else if i ≤ bound then i - first.length else i
  have numbered : apart.Of first := fun d held => if_pos held
  have cleared : Numbering.Of (clear ∘ apart) first := numbered.fixed fun k below => if_pos below
  have arrives : back ∘ apart = Numbering.positions second := by
    funext d
    by_cases held : d ∈ first
    · have below : first.idxOf d < first.length := List.idxOf_lt_length_of_mem held
      simp only [Function.comp_apply, apart, back, held, below, if_true, position_idxOf held]
      rfl
    · have within : second.idxOf d ≤ second.length := List.idxOf_le_length
      have beyond : ¬ first.length + second.idxOf d < first.length := by omega
      have known : first.length + second.idxOf d ≤ bound := by omega
      simp only [Function.comp_apply, apart, back, held, beyond, known, if_true, if_false,
        Nat.add_sub_cancel_left]
      rfl
  have meets : back ∘ clear = position first second ∘ clear := by
    funext i
    by_cases below : i < first.length
    · simp only [Function.comp_apply, clear, back, below, if_true]
    · have beyond : ¬ i + bound + 1 < first.length := by omega
      have far : ¬ i + bound + 1 ≤ bound := by omega
      have fixed : position first second (i + bound + 1) = i + bound + 1 :=
        position_beyond (by omega)
      simp only [Function.comp_apply, clear, back, below, beyond, far, if_false, fixed]
  calc
    g (Numbering.positions second) = g (back ∘ apart) := by rw [arrives]
    _ = renumber back (g apart) := (h.natural back apart).symm
    _ = renumber back (g (clear ∘ apart)) := by rw [settled _ numbered, settled _ cleared]
    _ = g (back ∘ clear ∘ apart) := h.natural back _
    _ = g (position first second ∘ clear ∘ apart) := by
      rw [← Function.comp_assoc, meets, Function.comp_assoc]
    _ = renumber (position first second) (g (clear ∘ apart)) := (h.natural _ _).symm
    _ = renumber (position first second) (g (Numbering.positions first)) := by rw [settled _ cleared]

end

theorem Scope.Sound.joins_carried {s t : Scope} (left : s.Sound b) (right : t.Sound b)
    (more : s.crossed ⊆ t.crossed) :
    renumber (position s.crossed t.crossed) s.joins ⊆ t.joins := by
  intro j held
  obtain ⟨original, there, rfl⟩ := List.mem_map.mp held
  obtain ⟨i, found⟩ := List.getElem?_of_mem there
  exact List.mem_of_getElem? (left.carried right found (more (List.mem_map_of_mem there)))

theorem Filter.kept_renumber (f : Nat → Nat) (outcomes : List (Except QueryError Predicate)) :
    kept (renumber f outcomes) = renumber f (kept outcomes) := by
  show (outcomes.map (renumber f)).flatMap _ = (outcomes.flatMap _).map (renumber f)
  rw [List.flatMap_map, List.map_flatMap]
  congr 1
  funext outcome
  cases outcome <;> rfl

namespace Plan

/-- What becomes of the filters of a search, which come after what it selects. -/
def searchOutcomes (settings : CompilerSettings) (c : Criteria) :
    Catalog.Lookup (List (Except QueryError Predicate)) :=
  withScope c.entity do
    let _ ← Selecting.projection c
    Filter.outcomes settings c.filters

def countOutcomes (settings : CompilerSettings) (c : Criteria) :
    Catalog.Lookup (List (Except QueryError Predicate)) :=
  withScope c.entity (Filter.outcomes settings c.filters)

/-- The numbers of the joins of a plan in another plan, by their dotted paths. -/
def numbersIn (p other : Plan) : Nat → Nat :=
  position (p.joins.map Join.dotted) (other.joins.map Join.dotted)

/-- The plans of a search and its count keep the filters that compile, which are the same, and
reach what these read along the same joins. -/
structure SharesFilters (search count : Plan)
    (searched counted : List (Except QueryError Predicate)) : Prop where
  outcomes : searched = renumber (count.numbersIn search) counted
  filters : search.filters = renumber (count.numbersIn search) count.filters
  joins : renumber (count.numbersIn search) count.joins ⊆ search.joins
  kept : search.filters = Filter.kept searched
  kept' : count.filters = Filter.kept counted

/-- In one scope, the filters come to the same after what is selected as without it. -/
theorem inScope_shares (settings : CompilerSettings) (c : Criteria) {s : Scope}
    (sound : s.Sound b) : ∃ searched counted,
      (Filter.outcomes settings c.filters (Selecting.projection c s).2).1 = searched ∧
      (Filter.outcomes settings c.filters s).1 = counted ∧ counted.length = c.filters.length ∧
      SharesFilters (inScope settings c s).1 (countInScope settings c s).1 searched counted := by
  obtain ⟨front, projection, selected, selecting⟩ := Selecting.projection_uniform (b := b) c
  obtain ⟨new, o, even, outcomes⟩ := Filter.outcomes_runs b settings
  let os : Numbering → List (Except QueryError Predicate) := fun ν => c.filters.map (o · ν)
  have regular : Regular _ os := .mapped (fun entry => (even entry).regular) c.filters
  have filtering : Runs b (c.filters.flatMap new) os fun _ => Filter.outcomes settings c.filters :=
    outcomes c.filters
  -- The search crosses what it selects, the filters and the rest, the count the filters alone.
  obtain ⟨back, a, -, compiles⟩ := inScope_runs settings c selected selecting
  obtain ⟨t, left, crossed, search⟩ :=
    compiles c.filters _ _ (Filter.all_of_outcomes filtering) s sound
  obtain ⟨u, right, crossed', count⟩ :=
    countInScope_runs (Filter.all_of_outcomes filtering) sound
  have both : Runs b (front ++ c.filters.flatMap new) os fun _ =>
      Selecting.projection c >>= fun _ => Filter.outcomes settings c.filters :=
    selecting.bind filtering
  obtain ⟨v, searched, -, met⟩ := both.run sound
  obtain ⟨w, counted, -, met'⟩ := filtering.run sound
  have numbered := Numbering.of_positions t.crossed
  have numbered' := Numbering.of_positions u.crossed
  have grown : v.crossed <+: t.crossed := by
    rw [met, crossed, ← List.append_assoc, cross_append _ _ back]
    exact prefix_cross _ _
  have same : w.crossed = u.crossed := met'.trans crossed'.symm
  have more : u.crossed ⊆ t.crossed := by
    rw [crossed, crossed']
    intro d held
    rw [mem_cross] at held ⊢
    exact held.imp_right fun new => by simp [new]
  have carried : os (.positions t.crossed) =
      renumber (position u.crossed t.crossed) (os (.positions u.crossed)) := by
    apply regular.carried
    intro ν known
    have here := counted ν (same ▸ known)
    exact congrArg Prod.fst (here.symm.trans (counted _ (same ▸ numbered')))
  refine ⟨os (.positions t.crossed), os (.positions u.crossed),
    congrArg Prod.fst (searched _ (numbered.front grown)),
    congrArg Prod.fst (counted _ (same ▸ numbered')), List.length_map _, ?_⟩
  rw [search _ numbered, count _ numbered']
  constructor
  · exact carried
  · show Filter.kept (os (.positions t.crossed)) = renumber _ (Filter.kept (os _))
    rw [carried, Filter.kept_renumber]
    rfl
  · exact right.joins_carried left more
  · rfl
  · rfl

/-- Searching and counting read the filters alike. A type without identifier is unknown to both. -/
theorem filters_shared (settings : CompilerSettings) {c : Criteria} {catalog : Catalog}
    {root : Entity} {identifier : String} (defined : catalog.definition c.entity = .ok root)
    (identity : root.identity = some identifier) :
    ∃ search count searched counted, (ofCriteria settings c catalog).1 = .ok search ∧
      (countOfCriteria settings c catalog).1 = .ok count ∧
      (searchOutcomes settings c catalog).1 = .ok searched ∧
      (countOutcomes settings c catalog).1 = .ok counted ∧
      counted.length = c.filters.length ∧ SharesFilters search count searched counted := by
  obtain ⟨s, loaded, started, -, -⟩ := Scope.start_of_definition defined identity
  have runs : ∀ {α : Type} (X : StateM Scope α), (withScope c.entity X catalog).1 = .ok (X s).1 :=
    fun X => congrArg Prod.fst (withScope_start started)
  obtain ⟨_, _, rfl, rfl, each, shared⟩ :=
    inScope_shares settings c (Scope.start_sound started)
  exact ⟨_, _, _, _, runs _, runs _, runs _, runs _, each, shared⟩

end Plan

namespace Sample

/-- The names of the cities of people with tags, who are asked for a nickname too. -/
def cities : Criteria :=
  { located with
    columns := ["city.name"]
    filters := ("nickname", ⟨.eq, [.literal (.string "Al")], false, false⟩) :: located.filters }

end Sample

namespace Plan

/-- One filter fails, and the others read joins that the count numbers in another way. -/
theorem filters_shared_cities :
    ∃ search count searched counted, (ofCriteria {} Sample.cities Sample.catalog).1 = .ok search ∧
      (countOfCriteria {} Sample.cities Sample.catalog).1 = .ok count ∧
      (searchOutcomes {} Sample.cities Sample.catalog).1 = .ok searched ∧
      (countOutcomes {} Sample.cities Sample.catalog).1 = .ok counted ∧
      counted.length = Sample.cities.filters.length ∧
      SharesFilters search count searched counted :=
  have defined : Sample.catalog.definition "Person" = .ok Sample.person := rfl
  filters_shared {} defined rfl

example : (ofCriteria {} Sample.cities Sample.catalog).1.toOption.map
      (fun p => p.joins.map Join.dotted) = some ["city", "tags"] ∧
    (countOfCriteria {} Sample.cities Sample.catalog).1.toOption.map
      (fun p => p.joins.map Join.dotted) = some ["tags", "city"] := by
  decide +kernel

end Plan

end EntitySearch
