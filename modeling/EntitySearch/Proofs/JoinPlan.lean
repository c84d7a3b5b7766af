import EntitySearch.Proofs.SchemaWalk

/-! The joins of a scope.

A join is added where a path crosses a relation for the first time, and stays as
it is. From then on all paths through this relation lead through its join.
-/

set_option autoImplicit false

namespace EntitySearch

open Text (dotted)

theorem Chain.mem {joins js : List Join} {source : RowSource} (chain : Chain joins source js)
    {j : Join} (held : j ∈ js) : j ∈ joins := by
  induction chain with
  | root => cases held
  | join here _ ih =>
    rcases List.mem_cons.mp held with rfl | held
    · exact List.mem_of_getElem? here
    · exact ih held

namespace Scope

/-- The joins of a scope and the places of the prefixes that it has walked. -/
structure Planned (define : String → Except QueryError Entity) (s : Scope) : Prop where
  distinct : (s.joins.map Join.dotted).Nodup
  /-- A join leads along a relation of a record that stands before it. -/
  joins : ∀ (i : Nat) (j : Join), s.joins[i]? = some j → j.index = i ∧ (∀ k, j.parent = .join k → k < i) ∧
    ∃ front owner hops holder name cardinality, s.Stands front owner j.parent ∧
      Within define owner hops holder ∧ Declares define holder name (.relation j.entity cardinality) ∧
      j.path = hops ++ [name] ∧ Text.segments j.dotted = front ++ j.path
  /-- A prefix leads to a record, and on within it. -/
  places : ∀ d place, Keyed.find? s.places d = some place → ∃ front owner,
    s.Stands front owner place.source ∧ Within define owner place.hops place.type ∧
      Text.segments d = front ++ place.hops

section
variable {b : Base} {first s t : Scope}

theorem Sound.planned (sound : s.Sound b) (distinct : s.crossed.Nodup) :
    s.Planned b.definition where
  distinct := distinct
  joins i j held := by
    have earlier := fun k => (sound.joins i j held).parent_lt (k := k)
    obtain ⟨walked, p, name, target, cardinality, segments, reached, declared, anchored, rfl⟩ :=
      sound.joins i j held
    obtain ⟨front, owner, rfl, anchor, across, within⟩ := reached.splits
    have clean : ∀ part ∈ front, '.' ∉ part.toList :=
      fun part inside => segments.clean part (by simp [inside])
    refine ⟨rfl, earlier, front, owner, p.hops, p.type, name, cardinality,
      sound.stands clean across anchor fun a crossed => List.mem_of_mem_take (anchored a crossed),
      within, Base.attributeType_ok.mp declared, rfl, ?_⟩
    rw [Text.segments_dotted segments.clean segments.nonempty, List.append_assoc]
  places d place held := by
    obtain ⟨walked, p, segments, rfl, reached, anchored, rfl⟩ := sound.places d place held
    obtain ⟨front, owner, rfl, anchor, across, within⟩ := reached.splits
    have clean : ∀ part ∈ front, '.' ∉ part.toList :=
      fun part inside => segments.clean part (List.mem_append_left _ inside)
    exact ⟨front, owner, sound.stands clean across anchor anchored, within,
      Text.segments_dotted segments.clean segments.nonempty⟩

theorem Reached.trans (before : first.Reached s) (after : s.Reached t) : first.Reached t := by
  induction after with
  | first => exact before
  | resolve path _ ih => exact .resolve path ih

theorem resolve_distinct (path : String) (sound : s.Sound b) (distinct : s.crossed.Nodup) :
    (Resolve.resolve path s).2.crossed.Nodup := by
  obtain ⟨t, ran, -, crossed⟩ := Resolve.resolve_settled path sound
  rw [ran, crossed]
  exact nodup_cross distinct _

theorem Reached.distinct (sound : first.Sound b) (distinct : first.crossed.Nodup)
    (reached : first.Reached s) : s.crossed.Nodup := by
  induction reached with
  | first => exact distinct
  | resolve path before ih => exact resolve_distinct path (before.sound sound) ih

theorem resolve_appends (path : String) (sound : s.Sound b) :
    s.joins <+: (Resolve.resolve path s).2.joins := by
  obtain ⟨t, ran, sound', crossed⟩ := Resolve.resolve_settled path sound
  rw [ran]
  exact sound.joins_prefix sound' (crossed ▸ prefix_cross _ _)

theorem Reached.appends (sound : first.Sound b) (reached : first.Reached s) :
    first.joins <+: s.joins := by
  induction reached with
  | first => exact List.prefix_refl _
  | resolve path before ih => exact ih.trans (resolve_appends path (before.sound sound))

theorem Sound.chain_through {whole rest : List String} {owner : String} {p : Spot}
    (sound : s.Sound b) (clean : ∀ part ∈ whole ++ rest, '.' ∉ part.toList) (crosses : whole ≠ [])
    (across : Across b.definition b.root.name whole owner) (reached : b.Reaches (whole ++ rest) p)
    (anchored : ∀ a ∈ p.anchor, a ∈ s.crossed) :
    ∃ js j, Chain s.joins (p.source (.positions s.crossed)) js ∧ j ∈ js ∧
      j.dotted = dotted whole := by
  -- By induction on the segments behind the relation, which only put joins in front of its own.
  induction rest using List.reverseRecOn generalizing p with
  | nil =>
    rw [List.append_nil] at clean reached
    obtain rfl := reached.unique (.of_across across)
    cases across with
    | root => exact absurd rfl crosses
    | relation before within declared =>
      rw [Spot.anchorOf_append] at anchored ⊢
      have reached' := (Base.Reaches.of_across before).within within
      obtain ⟨j, held, link, parent, anchored'⟩ := sound.join_of_relation ⟨by simp, clean⟩ reached'
        declared (anchored _ rfl)
      obtain ⟨_, chained⟩ := reached'.chained fun part inside =>
        clean part (List.mem_append_left _ inside)
      obtain ⟨js, chain, -⟩ := chained s sound anchored'
      obtain ⟨-, -, named⟩ := Link.mk.inj link
      exact ⟨j :: js, j, .join held (parent ▸ chain), List.mem_cons_self, named⟩
  | append_singleton rest segment ih =>
    rw [← List.append_assoc] at clean reached
    have clean' : ∀ part ∈ whole ++ rest, '.' ∉ part.toList :=
      fun part inside => clean part (List.mem_append_left _ inside)
    obtain ⟨q, before⟩ := reached.of_append
    obtain ⟨_, _, -, -, -, rfl⟩ | ⟨_, _, declared, rfl⟩ :=
      Base.step_cases (reached.last before "")
    · exact ih (p := q) clean' before anchored
    · obtain ⟨j, held, -, parent, anchored'⟩ := sound.join_of_relation ⟨by simp, clean⟩ before
        declared (anchored _ rfl)
      obtain ⟨js, i, chain, inside, named⟩ := ih clean' before anchored'
      exact ⟨j :: js, i, .join held (parent ▸ chain), List.mem_cons_of_mem j inside, named⟩

/-- An attribute that is found lies behind the joins of all relations that its path crosses. -/
theorem Sound.resolve_through {path : String} {r : Resolved} {whole rest : List String}
    {owner : String} (sound : s.Sound b) (found : Resolve.resolve path s = (.ok r, t))
    (spelled : Text.segments (Text.trim path) = whole ++ rest) (more : rest ≠ []) (crosses : whole ≠ [])
    (across : Across b.definition b.root.name whole owner) :
    ∃ js j, Chain t.joins r.field.source js ∧ j ∈ js ∧ j.dotted = dotted whole := by
  obtain ⟨sound', walked, last, p, spelled', -, reached, anchored, -, field⟩ :=
    Resolve.resolve_found sound found
  obtain ⟨middle, final, rfl⟩ := (List.eq_nil_or_concat' rest).resolve_left more
  rw [spelled', ← List.append_assoc] at spelled
  obtain ⟨rfl, -⟩ := List.append_inj' spelled rfl
  rw [field]
  exact sound'.chain_through (Text.clean_of_segments spelled') crosses across reached anchored

end

/-- Whatever is resolved, and whatever comes of it: joins are only appended, each relation has one
join, and paths that cross it in common lie behind the same one. -/
theorem joins_planned {entity : String} {catalog loaded : Catalog} {first s : Scope}
    (started : Scope.start entity catalog = (.ok first, loaded)) (reached : first.Reached s) :
    s.Planned first.definition ∧ (∀ t, s.Reached t → s.joins <+: t.joins) ∧
    ∀ path r t u other r' v, Resolve.resolve path s = (.ok r, t) → t.Reached u →
      Resolve.resolve other u = (.ok r', v) → ∀ whole owner rest rest', whole ≠ [] →
      Across first.definition first.root.name whole owner → rest ≠ [] → rest' ≠ [] →
      Text.segments (Text.trim path) = whole ++ rest →
      Text.segments (Text.trim other) = whole ++ rest' →
      ∃ js ks j, Chain t.joins r.field.source js ∧ Chain v.joins r'.field.source ks ∧
        j ∈ js ∧ j ∈ ks ∧ j.dotted = dotted whole := by
  have soundFirst := Scope.start_sound started
  have sound := reached.sound soundFirst
  obtain ⟨-, -, -, fresh, -⟩ := Scope.start_ok started
  have empty : first.crossed.Nodup := by simp [crossed, fresh]
  refine ⟨sound.planned (reached.distinct soundFirst empty), fun t => Reached.appends sound, ?_⟩
  intro path r t u other r' v found later found' whole owner rest rest' crosses across more more'
    spelled spelled'
  have soundT := Resolve.resolve_sound sound found
  have soundU := later.sound soundT
  obtain ⟨js, j, chain, inside, named⟩ := sound.resolve_through found spelled more crosses across
  obtain ⟨ks, j', chain', inside', named'⟩ :=
    soundU.resolve_through found' spelled' more' crosses across
  -- The first join is still there after the second call, where its dotted path stands once.
  have toV : t.Reached v := by
    have last := Reached.resolve other later
    rwa [found'] at last
  have toT : first.Reached t := by
    have last := Reached.resolve path reached
    rwa [found] at last
  have kept : j ∈ v.joins := (toV.appends soundT).subset (chain.mem inside)
  have once := (toT.trans toV).distinct soundFirst empty
  obtain rfl : j = j' :=
    List.inj_on_of_nodup_map once kept (chain'.mem inside') (named.trans named'.symm)
  exact ⟨js, ks, j, chain, chain', inside, inside', named⟩

theorem joins_planned_city :
    Sample.labelled.Planned Sample.scope.definition ∧
    (∃ j, Sample.labelled.joins = [j] ∧
      [j] <+: (Resolve.resolve "city.name" Sample.labelled).2.joins) ∧
    ∃ r t r' v js ks j, Resolve.resolve "city.name" Sample.labelled = (.ok r, t) ∧
      Resolve.resolve "city.id" t = (.ok r', v) ∧ Chain t.joins r.field.source js ∧
      Chain v.joins r'.field.source ks ∧ j ∈ js ∧ j ∈ ks ∧ j.dotted = dotted ["city"] :=
  have started : Scope.start "Person" Sample.catalog = (.ok Sample.scope, Sample.catalog) := rfl
  have ⟨planned, appended, shared⟩ := joins_planned started (.resolve "tags.label" .first)
  have crossed : Across Sample.scope.definition "Person" ["city"] "City" :=
    .of_root ⟨_, _, rfl, rfl, rfl⟩
  have ⟨js, ks, j, chains⟩ := shared "city.name" _ _ _ "city.id" _ _ rfl .first rfl ["city"] "City"
    ["name"] ["id"] (by decide) crossed (by decide) (by decide) (by decide +kernel)
    (by decide +kernel)
  ⟨planned, ⟨_, rfl, appended _ (.resolve "city.name" .first)⟩, _, _, _, _, js, ks, j, rfl, rfl,
    chains⟩

end Scope

end EntitySearch
