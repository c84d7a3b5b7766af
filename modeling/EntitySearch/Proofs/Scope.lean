import EntitySearch.Proofs.Navigation

/-! Sound scopes.

A scope is sound when what it keeps is what its base and the dotted paths it has
crossed determine: the places of prefixes, and its joins with their numbers.
Resolving a path in a sound scope finds what navigation finds, numbers the
relations that are new, and leaves a sound scope.
-/

set_option autoImplicit false

namespace EntitySearch

open Text (dotted)

/-- Cross more relations; those crossed before keep their place. -/
def cross (crossed more : List String) : List String :=
  more.foldl (fun crossed d => if d ∈ crossed then crossed else crossed ++ [d]) crossed

theorem cross_append (crossed first rest : List String) :
    cross crossed (first ++ rest) = cross (cross crossed first) rest :=
  List.foldl_append

theorem prefix_cross (crossed more : List String) : crossed <+: cross crossed more := by
  induction more generalizing crossed with
  | nil => exact List.prefix_refl crossed
  | cons d rest ih =>
    by_cases held : d ∈ crossed
    · simpa [cross, held] using ih crossed
    · have grown := ih (crossed ++ [d])
      simp only [cross, List.foldl_cons, held, if_false]
      exact (List.prefix_append crossed [d]).trans grown

theorem mem_cross (crossed more : List String) (d : String) :
    d ∈ cross crossed more ↔ d ∈ crossed ∨ d ∈ more := by
  induction more generalizing crossed with
  | nil => simp [cross]
  | cons first rest ih =>
    by_cases held : first ∈ crossed <;> simp only [cross, List.foldl_cons, held, if_true, if_false]
    · rw [← cross, ih]
      grind
    · rw [← cross, ih]
      grind

theorem nodup_cross {crossed : List String} (nodup : crossed.Nodup) (more : List String) :
    (cross crossed more).Nodup := by
  induction more generalizing crossed with
  | nil => exact nodup
  | cons d rest ih =>
    by_cases held : d ∈ crossed <;> simp only [cross, List.foldl_cons, held, if_true, if_false]
    · exact ih nodup
    · apply ih
      refine List.nodup_append.mpr ⟨nodup, by simp, ?_⟩
      rintro a there _ last rfl
      obtain rfl := List.mem_singleton.mp last
      exact held there

theorem cross_eq_self {crossed more : List String} (h : ∀ d ∈ more, d ∈ crossed) :
    cross crossed more = crossed := by
  induction more with
  | nil => rfl
  | cons first rest ih =>
    simp only [List.mem_cons, forall_eq_or_imp] at h
    simp only [cross, List.foldl_cons, h.1, if_true]
    exact ih h.2

theorem cross_singleton {crossed : List String} {d : String} (h : d ∉ crossed) :
    cross crossed [d] = crossed ++ [d] := by
  simp [cross, h]

def Numbering.Of (ν : Numbering) (crossed : List String) : Prop :=
  ∀ d ∈ crossed, ν d = crossed.idxOf d

namespace Numbering

def positions (crossed : List String) : Numbering := fun d => crossed.idxOf d

theorem of_positions (crossed : List String) : (positions crossed).Of crossed :=
  fun _ _ => rfl

theorem Of.fixed {ν : Numbering} {crossed : List String} {f : Nat → Nat} (h : ν.Of crossed)
    (fixed : ∀ k < crossed.length, f k = k) : Numbering.Of (f ∘ ν) crossed := by
  intro d held
  show f (ν d) = _
  rw [h d held]
  exact fixed _ (List.idxOf_lt_length_of_mem held)

theorem Of.front {ν : Numbering} {front whole : List String} (h : ν.Of whole)
    (grown : front <+: whole) : ν.Of front := by
  obtain ⟨rest, rfl⟩ := grown
  intro d held
  rw [h d (List.mem_append_left rest held), List.idxOf_append_of_mem held]

theorem Of.agree {ν μ : Numbering} {crossed : List String} (first : ν.Of crossed)
    (second : μ.Of crossed) {d : String} (h : d ∈ crossed) : ν d = μ d :=
  (first d h).trans (second d h).symm

theorem Of.source {ν μ : Numbering} {crossed : List String} (first : ν.Of crossed)
    (second : μ.Of crossed) {p : Spot} (anchored : ∀ a ∈ p.anchor, a ∈ crossed) :
    p.source ν = p.source μ := by
  apply Spot.source_congr
  intro a held
  exact first.agree second (anchored a held)

theorem Of.place {ν μ : Numbering} {crossed : List String} (first : ν.Of crossed)
    (second : μ.Of crossed) {p : Spot} (anchored : ∀ a ∈ p.anchor, a ∈ crossed) :
    p.place ν = p.place μ := by
  apply Spot.place_congr
  intro a held
  exact first.agree second (anchored a held)

theorem Of.last {ν : Numbering} {crossed : List String} {d : String} (h : ν.Of (crossed ++ [d]))
    (new : d ∉ crossed) : ν d = crossed.length := by
  rw [h d (by simp), List.idxOf_append_of_notMem new]
  simp

end Numbering

namespace Scope

def definition (s : Scope) (name : String) : Except QueryError Entity :=
  match Keyed.find? s.types name with
  | some e => .ok e
  | none => s.catalog.definition name

def base (s : Scope) : Base := ⟨s.definition, s.root, s.identifier, s.catalog.definition⟩

def crossed (s : Scope) : List String := s.joins.map Join.dotted

/-- What a scope may change when it looks a type up. -/
structure Loads (s t : Scope) : Prop where
  base : t.base = s.base
  joins : t.joins = s.joins
  places : t.places = s.places

end Scope

/-- The segments are not empty and can be told apart within their dotted path. -/
structure Segments (walked : List String) : Prop where
  nonempty : walked ≠ []
  clean : ∀ segment ∈ walked, '.' ∉ segment.toList

theorem Segments.eq_of_dotted {a b : List String} (first : Segments a) (second : Segments b)
    (same : dotted a = dotted b) : a = b := by
  have split := congrArg Text.segments same
  rwa [Text.segments_dotted first.clean first.nonempty,
    Text.segments_dotted second.clean second.nonempty] at split

namespace Base

def Leads (b : Base) (crossed : List String) (d : String) (place : Place) : Prop :=
  ∃ walked p, Segments walked ∧ dotted walked = d ∧ b.Reaches walked p ∧
    (∀ a ∈ p.anchor, a ∈ crossed) ∧ place = p.place (.positions crossed)

/-- The join at a position: it leads along the last segment of its dotted path, from what was
crossed before. -/
def Joins (b : Base) (crossed : List String) (index : Nat) (j : Join) : Prop :=
  ∃ walked p segment target cardinality, Segments (walked ++ [segment]) ∧ b.Reaches walked p ∧
    b.attributeType p.type segment = .ok (.relation target cardinality) ∧
    (∀ a ∈ p.anchor, a ∈ crossed.take index) ∧
    j = ⟨index, p.source (.positions crossed), p.hops ++ [segment], target,
      dotted (walked ++ [segment])⟩

theorem Leads.cross {b : Base} {crossed more : List String} {d : String} {place : Place}
    (h : b.Leads crossed d place) (grown : crossed <+: more) : b.Leads more d place := by
  obtain ⟨walked, p, segments, spelled, reached, anchored, rfl⟩ := h
  have later : (Numbering.positions more).Of crossed := (Numbering.of_positions more).front grown
  exact ⟨walked, p, segments, spelled, reached, fun a held => grown.subset (anchored a held),
    (Numbering.of_positions crossed).place later anchored⟩

theorem Joins.cross {b : Base} {crossed more : List String} {index : Nat} {j : Join}
    (h : b.Joins crossed index j) (grown : crossed <+: more) : b.Joins more index j := by
  obtain ⟨walked, p, segment, target, cardinality, segments, reached, type, anchored, rfl⟩ := h
  have later : (Numbering.positions more).Of crossed := (Numbering.of_positions more).front grown
  rw [(Numbering.of_positions crossed).source later
    fun a held => List.mem_of_mem_take (anchored a held)]
  refine ⟨walked, p, segment, target, cardinality, segments, reached, type, ?_, rfl⟩
  intro a held
  obtain ⟨rest, rfl⟩ := grown
  rw [List.take_append]
  exact List.mem_append_left _ (anchored a held)

theorem Joins.parent_lt {b : Base} {crossed : List String} {index k : Nat} {j : Join}
    (h : b.Joins crossed index j) (parent : j.parent = .join k) : k < index := by
  obtain ⟨_, ⟨anchor, _, _⟩, _, _, _, _, _, _, anchored, rfl⟩ := h
  cases anchor with
  | none => cases parent
  | some a =>
    have held : a ∈ crossed.take index := anchored a rfl
    have number := (Numbering.of_positions crossed).front (List.take_prefix index crossed) a held
    obtain rfl : crossed.idxOf a = k := RowSource.join.inj parent
    calc
      crossed.idxOf a = (crossed.take index).idxOf a := number
      _ < (crossed.take index).length := List.idxOf_lt_length_of_mem held
      _ ≤ index := List.length_take_le index crossed

theorem Leads.spot {b : Base} {crossed walked : List String} {place : Place}
    (h : b.Leads crossed (dotted walked) place) (segments : Segments walked) :
    ∃ p, b.Reaches walked p ∧ (∀ a ∈ p.anchor, a ∈ crossed) ∧
      place = p.place (.positions crossed) := by
  obtain ⟨walked', p, segments', spelled, rest⟩ := h
  obtain rfl := segments'.eq_of_dotted segments spelled
  exact ⟨p, rest⟩

/-- Where a dotted path leads is settled by the relations crossed. -/
theorem Joins.unique {b : Base} {crossed : List String} {index : Nat} {i j : Join}
    (first : b.Joins crossed index i) (second : b.Joins crossed index j)
    (same : i.dotted = j.dotted) : i = j := by
  obtain ⟨walked, p, segment, target, _, segments, reached, type, _, rfl⟩ := first
  obtain ⟨walked', p', segment', target', _, segments', reached', type', _, rfl⟩ := second
  have whole := segments.eq_of_dotted segments' same
  obtain ⟨rfl, last⟩ := List.append_inj' whole rfl
  obtain ⟨rfl⟩ := List.singleton_inj.mp last
  obtain rfl := reached.unique reached'
  obtain ⟨rfl, -⟩ := FieldType.relation.inj (Except.ok.inj (type.symm.trans type'))
  rfl

end Base

/-- A scope that keeps nothing but what its base and the paths it has crossed determine. -/
structure Scope.Sound (b : Base) (s : Scope) : Prop where
  base : s.base = b
  places : ∀ d place, Keyed.find? s.places d = some place → b.Leads s.crossed d place
  /-- What is crossed is kept. -/
  kept : ∀ d ∈ s.crossed, (Keyed.find? s.places d).isSome
  joins : ∀ i j, s.joins[i]? = some j → b.Joins s.crossed i j

namespace Scope

theorem Loads.crossed_eq {s t : Scope} (h : Loads s t) : t.crossed = s.crossed := by
  simp only [crossed, h.joins]

theorem Sound.loads {b : Base} {s t : Scope} (sound : s.Sound b) (h : Loads s t) : t.Sound b where
  base := h.base.trans sound.base
  places d place held := by
    rw [h.crossed_eq]
    exact sound.places d place (by rwa [h.places] at held)
  kept d held := by
    rw [h.places]
    exact sound.kept d (by rwa [h.crossed_eq] at held)
  joins i j held := by
    rw [h.crossed_eq]
    exact sound.joins i j (by rwa [h.joins] at held)

end Scope

namespace Resolve

open Scope (Loads)

theorem typeNamed_run (name : String) (s : Scope) :
    ∃ t, typeNamed name s = (s.definition name, t) ∧ Loads s t := by
  simp only [typeNamed, run_get_bind]
  cases held : Keyed.find? s.types name with
  | some e => exact ⟨s, by simp [Scope.definition, held, run_pure], rfl, rfl, rfl⟩
  | none =>
    obtain ⟨catalog, asked, same⟩ := Catalog.entity_run name s.catalog
    have ran : inCatalog (Catalog.entity name) s =
        (s.catalog.definition name, { s with catalog }) := by
      simp only [inCatalog, asked]
    cases found : s.catalog.definition name with
    | error e =>
      rw [found] at ran
      refine ⟨{ s with catalog }, ?_, ?_, rfl, rfl⟩
      · simp only [Scope.definition, held, found]
        exact run_bind_error ran
      · simp only [Scope.base, Base.mk.injEq, same, and_true]
        funext other
        simp only [Scope.definition, same]
    | ok e =>
      rw [found] at ran
      refine ⟨{ s with catalog, types := Keyed.put s.types name e }, ?_, ?_, rfl, rfl⟩
      · simp only [Scope.definition, held, found]
        exact run_bind_ok ran
      · simp only [Scope.base, Base.mk.injEq, same, and_true]
        funext other
        by_cases equal : name = other
        · subst equal
          simp [Scope.definition, Keyed.find?_put, held, found]
        · simp [Scope.definition, Keyed.find?_put, equal, same]

theorem attributeType_run (type name : String) (s : Scope) :
    ∃ t, attributeType type name s = (s.base.attributeType type name, t) ∧ Loads s t := by
  obtain ⟨t, ran, loads⟩ := typeNamed_run type s
  refine ⟨t, ?_, loads⟩
  have same : s.base.definition type = s.definition type := rfl
  simp only [attributeType, Base.attributeType, same]
  cases found : s.definition type with
  | error e => exact run_bind_error (by rw [ran, found])
  | ok e =>
    rw [run_bind_ok (by rw [ran, found])]
    dsimp only
    cases e.field? name with
    | none => exact run_throw _
    | some field => exact run_pure _

end Resolve

namespace Scope.Sound

variable {b : Base} {s : Scope} {d : String} {place : Place}

theorem withPlace (sound : s.Sound b) (leads : b.Leads s.crossed d place) :
    (s.withPlace d place).Sound b where
  base := sound.base
  places other found held := by
    simp only [Scope.withPlace, Keyed.find?_put] at held
    by_cases same : d = other
    · subst same
      simp only [if_true, Option.some.injEq] at held
      exact held ▸ leads
    · exact sound.places other found (by simpa [same] using held)
  kept other held := by
    simp only [Scope.withPlace, Keyed.find?_put]
    split
    · rfl
    · exact sound.kept other held
  joins := sound.joins

theorem withJoin (sound : s.Sound b) {j : Join} (named : j.dotted = d)
    (join : b.Joins (s.crossed ++ [d]) s.joins.length j)
    (leads : b.Leads (s.crossed ++ [d]) d place) :
    ({ s with joins := s.joins ++ [j] }.withPlace d place).Sound b := by
  have grown : s.crossed <+: s.crossed ++ [d] := List.prefix_append _ _
  have crossed : ({ s with joins := s.joins ++ [j] } : Scope).crossed = s.crossed ++ [d] := by
    simp [Scope.crossed, named]
  constructor
  · exact sound.base
  · intro other found held
    simp only [Scope.withPlace, Keyed.find?_put] at held
    show b.Leads (Scope.crossed { s with joins := s.joins ++ [j] }) other found
    rw [crossed]
    by_cases same : d = other
    · subst same
      simp only [if_true, Option.some.injEq] at held
      exact held ▸ leads
    · exact (sound.places other found (by simpa [same] using held)).cross grown
  · intro other held
    simp only [Scope.withPlace, Keyed.find?_put]
    split
    · rfl
    · next different =>
      have before : other ∈ s.crossed ++ [d] := crossed ▸ held
      simp only [List.mem_append, List.mem_singleton, Ne.symm different, or_false] at before
      exact sound.kept other before
  · intro i found held
    show b.Joins (Scope.crossed { s with joins := s.joins ++ [j] }) i found
    rw [crossed]
    simp only [Scope.withPlace, List.getElem?_append] at held
    split at held
    · exact (sound.joins i found held).cross grown
    · next past =>
      have last : i = s.joins.length := by
        have := (List.getElem?_eq_some_iff.mp held).1
        simp only [List.length_singleton] at this
        omega
      subst last
      simp only [Nat.sub_self, List.getElem?_cons_zero, Option.some.injEq] at held
      exact held ▸ join

end Scope.Sound

namespace Base

/-- The relations that a path crosses, and what it resolves to once they are numbered. -/
def locate (b : Base) (path : String) :
    List String × Except QueryError (Numbering → Resolved) :=
  let path := Text.trim path
  let segments := Text.segments path
  if segments.any Text.isBlankText then ([], .error (.unresolvable path .emptySegment))
  else
    let last := segments.getLastD ""
    let (anchors, place) := b.walk path [] b.rootSpot segments.dropLast
    (anchors, do
      let p ← place
      let type ← b.attributeType p.type last
      return fun ν => ⟨⟨p.source ν, p.hops ++ [last], path⟩, type⟩)

theorem locate_ok {b : Base} {path : String} {g : Numbering → Resolved}
    (h : (b.locate path).2 = .ok g) :
    ∃ (p : Spot) (names : List String) (type : FieldType),
      g = fun ν => ⟨⟨p.source ν, names, Text.trim path⟩, type⟩ := by
  simp only [locate] at h
  split at h
  · cases h
  · simp only [bind, Except.bind] at h
    split at h
    · cases h
    · split at h
      · cases h
      · exact ⟨_, _, _, (Except.ok.inj h).symm⟩

theorem locate_trim {b : Base} {path other : String} (same : Text.trim path = Text.trim other) :
    b.locate path = b.locate other := by
  simp only [locate, same]

theorem step_ok {b : Base} {path d segment : String} {p next : Spot}
    (h : b.step path d p segment = .ok next) :
    ∃ type, b.attributeType p.type segment = .ok type ∧
      p.through path d segment type = .ok next := by
  simp only [step, Except.bind] at h
  cases found : b.attributeType p.type segment with
  | error e => simp [found] at h
  | ok type => exact ⟨type, rfl, by simpa [found] using h⟩

end Base

namespace Resolve

variable {b : Base} {s : Scope} {path segment : String} {walked : List String} {p next : Spot}

theorem enter_cached (path : String) (sound : s.Sound b) (segments : Segments (walked ++ [segment]))
    (reached : b.Reaches walked p) {place : Place}
    (held : Keyed.find? s.places (dotted (walked ++ [segment])) = some place) :
    ∃ q, b.step path (dotted (walked ++ [segment])) p segment = .ok q ∧
      (∀ a ∈ q.anchor, a ∈ s.crossed) ∧ place = q.place (.positions s.crossed) := by
  obtain ⟨q, reached', anchored, rfl⟩ := (sound.places _ _ held).spot segments
  exact ⟨q, reached'.last reached path, anchored, rfl⟩

theorem within_record (sound : s.Sound b) (segments : Segments (walked ++ [segment]))
    (reached : b.Reaches (walked ++ [segment]) next) (anchored : ∀ a ∈ next.anchor, a ∈ s.crossed)
    {ν : Numbering} (numbered : ν.Of s.crossed) :
    (s.withPlace (dotted (walked ++ [segment])) (next.place ν)).Sound b := by
  apply sound.withPlace
  exact ⟨_, next, segments, rfl, reached, anchored,
    numbered.place (Numbering.of_positions _) anchored⟩

theorem across_relation (path : String) {target : String} {cardinality : Cardinality}
    (sound : s.Sound b) (segments : Segments (walked ++ [segment])) (reached : b.Reaches walked p)
    (anchored : ∀ a ∈ p.anchor, a ∈ s.crossed)
    (found : b.attributeType p.type segment = .ok (.relation target cardinality))
    {ν : Numbering} (numbered : ν.Of (s.crossed ++ [dotted (walked ++ [segment])])) :
    let join : Join := ⟨s.joins.length, p.source ν, p.hops ++ [segment], target,
      dotted (walked ++ [segment])⟩
    ({ s with joins := s.joins ++ [join] }.withPlace (dotted (walked ++ [segment]))
      (Spot.place ν ⟨some (dotted (walked ++ [segment])), target, []⟩)).Sound b := by
  intro join
  have front : s.crossed <+: s.crossed ++ [dotted (walked ++ [segment])] := List.prefix_append _ _
  have positions := Numbering.of_positions (s.crossed ++ [dotted (walked ++ [segment])])
  have later : ∀ a ∈ p.anchor, a ∈ s.crossed ++ [dotted (walked ++ [segment])] :=
    fun a held => front.subset (anchored a held)
  have before : ∀ a ∈ p.anchor,
      a ∈ (s.crossed ++ [dotted (walked ++ [segment])]).take s.joins.length := by
    simpa [Scope.crossed] using anchored
  have taken : b.step path (dotted (walked ++ [segment])) p segment =
      .ok ⟨some (dotted (walked ++ [segment])), target, []⟩ := by
    simp [Base.step, found, Except.bind, Spot.through]
  apply sound.withJoin rfl
  · refine ⟨walked, p, segment, target, cardinality, segments, reached, found, before, ?_⟩
    simp only [join, numbered.source positions later]
  · exact ⟨_, _, segments, rfl, .step reached taken, by simp [join],
      numbered.place positions (by simp)⟩

theorem enter_ok (sound : s.Sound b) (segments : Segments (walked ++ [segment]))
    (reached : b.Reaches walked p) (anchored : ∀ a ∈ p.anchor, a ∈ s.crossed)
    (taken : b.step path (dotted (walked ++ [segment])) p segment = .ok next) {ν : Numbering}
    (numbered : ν.Of (cross s.crossed next.anchor.toList)) :
    ∃ t, enter path (dotted (walked ++ [segment])) (p.place ν) segment s = (.ok (next.place ν), t) ∧
      t.Sound b ∧ t.crossed = cross s.crossed next.anchor.toList := by
  have numberedBefore := numbered.front (prefix_cross s.crossed _)
  simp only [enter, run_get_bind]
  cases held : Keyed.find? s.places (dotted (walked ++ [segment])) with
  | some place =>
    obtain ⟨q, taken', anchored', rfl⟩ := enter_cached path sound segments reached held
    obtain rfl := Except.ok.inj (taken'.symm.trans taken)
    refine ⟨s, ?_, sound, (cross_eq_self (by simpa using anchored')).symm⟩
    rw [(Numbering.of_positions s.crossed).place numberedBefore anchored']
    exact run_pure _
  | none =>
    have new : dotted (walked ++ [segment]) ∉ s.crossed := by
      intro crossed
      simpa [held] using sound.kept _ crossed
    obtain ⟨type, found, moved⟩ := Base.step_ok taken
    obtain ⟨u, ran, loads⟩ := attributeType_run p.type segment s
    rw [sound.base, found] at ran
    -- Looking the type up leaves the joins as they are, so `u` stands for `s` from here on.
    have soundU := sound.loads loads
    rw [← loads.crossed_eq] at anchored numbered numberedBefore new ⊢
    cases type with
    | embedded target | compositeKey target =>
      obtain rfl := Except.ok.inj moved
      have stays : cross u.crossed p.anchor.toList = u.crossed :=
        cross_eq_self (by simpa using anchored)
      refine ⟨_, ?_, within_record soundU segments (.step reached taken) anchored numberedBefore,
        stays.symm⟩
      simp only [step, bind_assoc]
      exact (run_bind_ok ran).trans rfl
    | relation target cardinality =>
      obtain rfl := Except.ok.inj moved
      simp only [Option.toList_some, cross_singleton new] at numbered ⊢
      refine ⟨_, ?_, across_relation path soundU segments reached anchored found numbered, ?_⟩
      · have placed : Spot.place ν ⟨some (dotted (walked ++ [segment])), target, []⟩ =
            ⟨.join u.joins.length, target, []⟩ := by
          simp [Spot.place, Spot.source, numbered.last new, Scope.crossed]
        rw [placed]
        simp only [step, bind_assoc]
        exact (run_bind_ok ran).trans rfl
      · simp [Scope.crossed, Scope.withPlace]
    | scalar | enumeration => cases moved

theorem enter_error (ν : Numbering) (sound : s.Sound b) (segments : Segments (walked ++ [segment]))
    (reached : b.Reaches walked p) {e : QueryError}
    (taken : b.step path (dotted (walked ++ [segment])) p segment = .error e) :
    ∃ t, enter path (dotted (walked ++ [segment])) (p.place ν) segment s = (.error e, t) ∧
      t.Sound b ∧ t.crossed = s.crossed := by
  simp only [enter, run_get_bind]
  cases held : Keyed.find? s.places (dotted (walked ++ [segment])) with
  | some place =>
    obtain ⟨q, taken', -⟩ := enter_cached path sound segments reached held
    rw [taken] at taken'
    cases taken'
  | none =>
    obtain ⟨t, ran, loads⟩ := attributeType_run p.type segment s
    refine ⟨t, ?_, sound.loads loads, loads.crossed_eq⟩
    simp only [step, bind_assoc]
    simp only [Base.step, ← sound.base, Except.bind] at taken
    cases found : s.base.attributeType p.type segment with
    | error fault =>
      rw [found] at ran taken
      exact Except.error.inj taken ▸ run_bind_error ran
    | ok type =>
      rw [found] at ran taken
      refine (run_bind_ok ran).trans ?_
      cases type with
      | scalar | enumeration => exact Except.error.inj taken ▸ rfl
      | embedded | compositeKey | relation => cases taken

/-- Walking in a sound scope arrives where navigation does. -/
theorem walk_run (path : String) (rest : List String) (sound : s.Sound b)
    (clean : ∀ part ∈ walked ++ rest, '.' ∉ part.toList) (reached : b.Reaches walked p)
    (anchored : ∀ a ∈ p.anchor, a ∈ s.crossed) {ν : Numbering}
    (numbered : ν.Of (cross s.crossed (b.walk path walked p rest).1)) :
    ∃ t, walk path walked (p.place ν) rest s =
        ((b.walk path walked p rest).2.map (Spot.place ν), t) ∧
      t.Sound b ∧ t.crossed = cross s.crossed (b.walk path walked p rest).1 := by
  induction rest generalizing walked p s with
  | nil => exact ⟨s, run_pure _, sound, rfl⟩
  | cons segment rest ih =>
    have segments : Segments (walked ++ [segment]) :=
      ⟨by simp, fun part held => clean part (by simp only [List.mem_append] at held ⊢; grind)⟩
    simp only [walk]
    cases taken : b.step path (dotted (walked ++ [segment])) p segment with
    | error e =>
      simp only [Base.walk, taken]
      obtain ⟨t, ran, sound', same⟩ := enter_error ν sound segments reached taken
      exact ⟨t, run_bind_error ran, sound', same⟩
    | ok next =>
      simp only [Base.walk, taken, cross_append] at numbered ⊢
      obtain ⟨u, ran, soundU, crossedU⟩ := enter_ok sound segments reached anchored taken
        (numbered.front (prefix_cross _ _))
      rw [← crossedU] at numbered ⊢
      have anchoredNext : ∀ a ∈ next.anchor, a ∈ u.crossed := fun a held => by
        rw [crossedU, mem_cross]
        exact .inr (by simpa using held)
      obtain ⟨t, ran', sound', crossed'⟩ := ih soundU (by simpa using clean)
        (.step reached taken) anchoredNext numbered
      exact ⟨t, (run_bind_ok ran).trans ran', sound', crossed'⟩

theorem root_place (sound : s.Sound b) (ν : Numbering) : s.rootPlace = b.rootSpot.place ν := by
  rw [← sound.base]
  rfl

/-- Resolving in a sound scope: the outcome is settled by the base, the numbers by what was
crossed before. -/
theorem resolve_run (path : String) (sound : s.Sound b) {ν : Numbering}
    (numbered : ν.Of (cross s.crossed (b.locate path).1)) :
    ∃ t, resolve path s = ((b.locate path).2.map (· ν), t) ∧
      t.Sound b ∧ t.crossed = cross s.crossed (b.locate path).1 := by
  simp only [resolve]
  simp only [Base.locate] at numbered ⊢
  split
  · next blank => exact ⟨s, run_bind_error (run_throw _), sound, rfl⟩
  · next solid =>
    simp only [solid, Bool.false_eq_true, if_false] at numbered ⊢
    have clean : ∀ part ∈ [] ++ (Text.segments (Text.trim path)).dropLast, '.' ∉ part.toList :=
      fun part held => Text.mark_notMem_segments (List.dropLast_subset _ (by simpa using held))
    obtain ⟨t, ran, sound', crossed'⟩ := walk_run (Text.trim path) _ sound clean
      .root (by simp [Base.rootSpot]) numbered
    simp only [run_get_bind, root_place sound ν]
    cases outcome : (b.walk (Text.trim path) [] b.rootSpot
      (Text.segments (Text.trim path)).dropLast).2 with
    | error e =>
      rw [outcome] at ran
      exact ⟨t, run_bind_error ran, sound', crossed'⟩
    | ok q =>
      rw [outcome] at ran
      obtain ⟨u, asked, loads⟩ := attributeType_run q.type
        ((Text.segments (Text.trim path)).getLastD "") t
      rw [sound'.base] at asked
      refine ⟨u, (run_bind_ok ran).trans ?_, sound'.loads loads, loads.crossed_eq.trans crossed'⟩
      cases found : b.attributeType q.type ((Text.segments (Text.trim path)).getLastD "") with
      | error e =>
        rw [found] at asked
        refine (run_bind_error asked).trans ?_
        simp only [found, bind, Except.bind, Except.map]
      | ok type =>
        rw [found] at asked
        refine (run_bind_ok asked).trans ?_
        simp only [found, bind, Except.bind, Except.map, pure, Except.pure]
        rfl

end Resolve

namespace Scope

theorem Sound.of_empty {s : Scope} (joins : s.joins = []) (places : s.places = []) :
    s.Sound s.base where
  base := rfl
  places d place held := by simp [places, Keyed.find?] at held
  kept d held := by simp [crossed, joins] at held
  joins i j held := by simp [joins] at held

theorem Sound.joins_prefix {b : Base} {s t : Scope} (first : s.Sound b) (second : t.Sound b)
    (grown : s.crossed <+: t.crossed) : s.joins <+: t.joins := by
  have lengths : s.joins.length ≤ t.joins.length := by
    simpa [crossed] using grown.length_le
  refine List.prefix_iff_getElem.mpr ⟨lengths, fun i here => ?_⟩
  have there : i < t.joins.length := Nat.lt_of_lt_of_le here lengths
  have join := (first.joins i _ (List.getElem?_eq_getElem here)).cross grown
  refine join.unique (second.joins i _ (List.getElem?_eq_getElem there)) ?_
  have named := (List.prefix_iff_getElem.mp grown).2 i (by simpa [crossed] using here)
  simpa [crossed] using named

/-- Sound scopes that crossed the same relations have the same joins. -/
theorem Sound.joins_eq {b : Base} {s t : Scope} (first : s.Sound b) (second : t.Sound b)
    (same : s.crossed = t.crossed) : s.joins = t.joins := by
  have lengths : s.joins.length = t.joins.length := by
    simpa [crossed] using congrArg List.length same
  exact (first.joins_prefix second (same ▸ List.prefix_refl _)).eq_of_length lengths

theorem start_ok {entity : String} {catalog after : Catalog} {s : Scope}
    (h : Scope.start entity catalog = (.ok s, after)) :
    catalog.definition entity = .ok s.root ∧ s.root.identity = some s.identifier ∧
      s.types = [(s.root.name, s.root)] ∧ s.joins = [] ∧ s.places = [] := by
  obtain ⟨loaded, ran, -⟩ := Catalog.entity_run entity catalog
  simp only [start] at h
  cases found : catalog.definition entity with
  | error e =>
    rw [found] at ran
    rw [run_bind_error ran] at h
    cases h
  | ok root =>
    rw [found] at ran
    rw [run_bind_ok ran] at h
    cases identity : root.identity with
    | none =>
      simp only [identity] at h
      cases h
    | some identifier =>
      simp only [identity] at h
      obtain rfl := Except.ok.inj (Prod.mk.inj h).1
      exact ⟨rfl, identity, rfl, rfl, rfl⟩

theorem start_of_definition {entity identifier : String} {catalog : Catalog} {root : Entity}
    (defined : catalog.definition entity = .ok root) (identity : root.identity = some identifier) :
    ∃ s after, Scope.start entity catalog = (.ok s, after) ∧ s.root = root ∧
      s.identifier = identifier := by
  obtain ⟨loaded, ran, -⟩ := Catalog.entity_run entity catalog
  rw [defined] at ran
  simp only [start]
  rw [run_bind_ok ran]
  simp only [identity]
  exact ⟨_, _, rfl, rfl, rfl⟩

theorem start_catalog {entity : String} {catalog after : Catalog} {s : Scope}
    (h : Scope.start entity catalog = (.ok s, after)) :
    s.catalog.definition = catalog.definition := by
  obtain ⟨loaded, ran, same⟩ := Catalog.entity_run entity catalog
  obtain ⟨defined, identity, -⟩ := start_ok h
  rw [defined] at ran
  simp only [start] at h
  rw [run_bind_ok ran] at h
  simp only [identity] at h
  rw [← Except.ok.inj (Prod.mk.inj h).1]
  exact same

theorem start_again {entity : String} {catalog other loaded : Catalog} {s : Scope}
    (started : Scope.start entity catalog = (.ok s, loaded))
    (same : other.definition = catalog.definition) :
    ∃ t after, Scope.start entity other = (.ok t, after) ∧ t.base = s.base := by
  obtain ⟨defined, identity, types, -⟩ := start_ok started
  obtain ⟨t, after, started', root, identifier⟩ := start_of_definition (same ▸ defined) identity
  obtain ⟨-, -, types', -⟩ := start_ok started'
  have known : t.catalog.definition = s.catalog.definition :=
    (start_catalog started').trans (same.trans (start_catalog started).symm)
  refine ⟨t, after, started', ?_⟩
  have definition : t.definition = s.definition := by
    funext name
    simp only [Scope.definition, types, types', root, known]
  simp only [base, definition, root, identifier, known]

theorem start_sound {entity : String} {catalog after : Catalog} {s : Scope}
    (h : Scope.start entity catalog = (.ok s, after)) : s.Sound s.base :=
  have ⟨_, _, _, joins, places⟩ := start_ok h
  .of_empty joins places

end Scope

end EntitySearch