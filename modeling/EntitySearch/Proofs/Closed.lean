import EntitySearch.Proofs.Distinct

/-! Closed plans.

A plan reads the records that its own joins have bound. Were there a number
beyond them in a compiled plan, numbers beyond the joins could be exchanged and
the plan would change; but they count nothing that was crossed, so that it
stays.
-/

set_option autoImplicit false

namespace EntitySearch

open Numbered (renumber)

variable {b : Base}

theorem Regular.bounded {α : Type} [Numbered α] {P : α → Prop} {g : Numbering → α}
    {sources : α → List RowSource} {crossed : List String} (h : Regular P g)
    (natural : ∀ f a, sources (renumber f a) = (sources a).map (RowSource.renumber f))
    (settled : ∀ ν : Numbering, ν.Of crossed →
      sources (g ν) = sources (g (.positions crossed)))
    {k : Nat} (read : .join k ∈ sources (g (.positions crossed))) : k < crossed.length := by
  -- Numbers beyond the positions move, and what is crossed keeps its numbers.
  let shift : Nat → Nat := fun i => if i < crossed.length then i else i + 1
  have numbered : Numbering.Of (shift ∘ Numbering.positions crossed) crossed :=
    (Numbering.of_positions crossed).fixed fun k below => if_pos below
  have fixed : (sources (g (.positions crossed))).map (RowSource.renumber shift) =
      sources (g (.positions crossed)) := by
    rw [← natural, h.natural, settled _ numbered]
  have stays : shift k = k := RowSource.join.inj
    (List.map_inj_left.mp (fixed.trans (List.map_id _).symm) (.join k) read)
  by_contra beyond
  simp only [shift, beyond, if_false] at stays
  omega

def Projection.sources : Projection → List RowSource
  | .columns selections => selections.flatMap fun s => s.expr.sources
  | _ => []

namespace Plan

def sources (p : Plan) : List RowSource :=
  p.projection.sources ++ p.filters.flatMap Predicate.sources ++
    p.seek.toList.flatMap Predicate.sources ++ p.groupBy.flatMap Expr.sources ++
    p.orderBy.flatMap fun t => t.expr.sources

/-- The joins of the plan are numbered by their positions, each leads from the root or from an
earlier one, and nothing is read from a join that the plan does not have. -/
structure Closed (p : Plan) : Prop where
  index : ∀ (i : Nat) (j : Join), p.joins[i]? = some j → j.index = i
  parent : ∀ (i : Nat) (j : Join) (k : Nat), p.joins[i]? = some j → j.parent = .join k → k < i
  read : ∀ k, .join k ∈ p.sources → k < p.joins.length

def partSources (parts : Projection × List Predicate × Arrangement) : List RowSource :=
  parts.1.sources ++ parts.2.1.flatMap Predicate.sources ++
    (parts.2.2.keyset.map Prod.fst).toList.flatMap Predicate.sources ++
    parts.2.2.groupBy.flatMap Expr.sources ++ parts.2.2.orderBy.flatMap fun t => t.expr.sources

theorem flatMap_renumber {α : Type} [Numbered α] {sources : α → List RowSource} (f : Nat → Nat)
    (natural : ∀ a, sources (renumber f a) = (sources a).map (RowSource.renumber f))
    (xs : List α) :
    (renumber f xs).flatMap sources = (xs.flatMap sources).map (RowSource.renumber f) := by
  show (xs.map _).flatMap _ = _
  rw [List.flatMap_map, List.map_flatMap]
  exact congrArg (xs.flatMap ·) (funext natural)

theorem partSources_renumber (f : Nat → Nat) (parts : Projection × List Predicate × Arrangement) :
    partSources (renumber f parts) = (partSources parts).map (RowSource.renumber f) := by
  obtain ⟨projection, filters, keyset, orderBy, groupBy⟩ := parts
  have selected : (renumber f projection).sources =
      projection.sources.map (RowSource.renumber f) := by
    cases projection with
    | columns selections => exact flatMap_renumber f (fun s => s.expr.sources_renumber f) selections
    | entity | count => rfl
  have behind : ((renumber f keyset).map Prod.fst).toList.flatMap Predicate.sources =
      ((keyset.map Prod.fst).toList.flatMap Predicate.sources).map (RowSource.renumber f) := by
    cases keyset with
    | none => rfl
    | some part => exact flatMap_renumber f (fun p => p.sources_renumber f) [part.1]
  show (renumber f projection).sources ++ (renumber f filters).flatMap Predicate.sources ++
    ((renumber f keyset).map Prod.fst).toList.flatMap Predicate.sources ++
    (renumber f groupBy).flatMap Expr.sources ++
    (renumber f orderBy).flatMap (fun t => t.expr.sources) = _
  simp only [partSources, List.map_append]
  rw [selected, behind, flatMap_renumber f (fun p => p.sources_renumber f) filters,
    flatMap_renumber f (fun e => e.sources_renumber f) groupBy,
    flatMap_renumber f (fun t => t.expr.sources_renumber f) orderBy]

theorem Closed.of_sound {p : Plan} {t : Scope} (sound : t.Sound b) (joins : p.joins = t.joins)
    (read : ∀ k, .join k ∈ p.sources → k < t.crossed.length) : p.Closed where
  index i j held := by
    obtain ⟨_, _, _, _, _, _, _, _, _, rfl⟩ := sound.joins i j (joins ▸ held)
    rfl
  parent i j k held parent := (sound.joins i j (joins ▸ held)).parent_lt parent
  read k held := by
    rw [joins]
    simpa [Scope.crossed] using read k held

theorem inScope_closed (settings : CompilerSettings) (c : Criteria) {s : Scope}
    (sound : s.Sound b) : (inScope settings c s).1.Closed := by
  obtain ⟨projection, g, a, selected, parts, total, compiles⟩ := inScope_parts (b := b) settings c
  obtain ⟨t, sound', ran⟩ := compiles s sound
  have plan : ∀ ν : Numbering, ν.Of t.crossed →
      (inScope settings c s).1.sources = partSources (projection ν, g ν, a ν) := by
    intro ν numbered
    exact congrArg (fun ran => ran.1.sources) (ran ν numbered)
  have here := Numbering.of_positions t.crossed
  apply Closed.of_sound sound' (congrArg (fun ran => ran.1.joins) (ran _ here))
  intro k held
  rw [plan _ here] at held
  exact (selected.pair (parts.pair total)).bounded partSources_renumber
    (fun ν numbered => (plan ν numbered).symm.trans (plan _ here)) held

theorem countInScope_closed (settings : CompilerSettings) (c : Criteria) {s : Scope}
    (sound : s.Sound b) : (countInScope settings c s).1.Closed := by
  obtain ⟨new, g, parts, filtering⟩ := Filter.all_uniform (b := b) settings c.filters
  obtain ⟨t, sound', -, ran⟩ := countInScope_runs filtering sound
  have plan : ∀ ν : Numbering, ν.Of t.crossed →
      (countInScope settings c s).1.sources = (g ν).flatMap Predicate.sources := by
    intro ν numbered
    rw [ran ν numbered]
    show [] ++ _ ++ [] ++ [] ++ [] = _
    simp only [List.nil_append, List.append_nil]
    rfl
  have here := Numbering.of_positions t.crossed
  apply Closed.of_sound sound' (congrArg (fun ran => ran.1.joins) (ran _ here))
  intro k held
  rw [plan _ here] at held
  exact parts.bounded (fun f => flatMap_renumber f (fun p => p.sources_renumber f))
    (fun ν numbered => (plan ν numbered).symm.trans (plan _ here)) held

theorem joined_length {p : Plan} {roots : List Record} {row : Row}
    (held : row ∈ p.joinedRows roots) : row.joined.length = p.joins.length := by
  obtain ⟨start, there, bound⟩ := Row.mem_expand.mp held
  obtain ⟨r, -, rfl⟩ := List.mem_map.mp there
  simpa using bound.joined_length

/-- Of a closed plan, no row lacks a record that is read. -/
theorem Closed.source_isSome {p : Plan} (closed : p.Closed) {roots : List Record} {row : Row}
    (held : row ∈ p.joinedRows roots) {source : RowSource} (read : source ∈ p.sources) :
    (row.source? source).isSome := by
  cases source with
  | root => rfl
  | join k =>
    have bound : k < row.joined.length := by
      rw [joined_length held]
      exact closed.read k read
    exact Option.isSome_iff_exists.mpr ⟨_, List.getElem?_eq_getElem bound⟩

/-- Compiled plans are closed, and every row holds all records that they read from. -/
theorem compiled_closed {settings : CompilerSettings} {c : Criteria} {catalog after : Catalog}
    {p : Plan} (compiled : ofCriteria settings c catalog = (.ok p, after) ∨
      countOfCriteria settings c catalog = (.ok p, after)) :
    p.Closed ∧ ∀ tables : Tables, ∀ row ∈ p.joinedRows (tables.records p.root),
      row.joined.length = p.joins.length ∧ ∀ source ∈ p.sources, (row.source? source).isSome := by
  have closed : p.Closed := by
    rcases compiled with searched | counted
    · obtain ⟨s, loaded, started, rfl⟩ := withScope_ok searched
      exact inScope_closed settings c (Scope.start_sound started)
    · obtain ⟨s, loaded, started, rfl⟩ := withScope_ok counted
      exact countInScope_closed settings c (Scope.start_sound started)
  exact ⟨closed, fun tables row held =>
    ⟨joined_length held, fun source read => closed.source_isSome held read⟩⟩

/-- The plan for people by their tags reads from the tag it joins. -/
theorem compiled_closed_tagged :
    Sample.taggedPlan.Closed ∧ ∀ tables : Tables,
      ∀ row ∈ Sample.taggedPlan.joinedRows (tables.records Sample.taggedPlan.root),
        row.joined.length = Sample.taggedPlan.joins.length ∧
          ∀ source ∈ Sample.taggedPlan.sources, (row.source? source).isSome :=
  have compiled : ofCriteria {} Sample.tagged Sample.catalog =
      (.ok Sample.taggedPlan, Sample.catalog) := rfl
  compiled_closed (.inl compiled)

example : RowSource.join 0 ∈ Sample.taggedPlan.sources := by
  decide

end Plan

end EntitySearch
