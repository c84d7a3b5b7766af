import Mathlib.Data.List.Induction
import EntitySearch.Proofs.Cursor

/-! Walks through a schema.

Paths lead within a record through embedded types and composite keys, and across
relations to other records. Where a path leads, and along which joins, is settled
by the definitions of the types; what a scope has walked before shows in the
numbers of its joins only.
-/

set_option autoImplicit false

namespace EntitySearch

open Text (dotted)

section
variable (define : String → Except QueryError Entity)

def Declares (owner name : String) (type : FieldType) : Prop :=
  ∃ e a, define owner = .ok e ∧ e.field? name = some a ∧ a.type = type

/-- Attributes that lead from one type to another within a record. -/
inductive Within (owner : String) : List String → String → Prop
  | here : Within owner [] owner
  | inline {hops : List String} {type name target : String} {inlined : FieldType} :
    Within owner hops type → Declares define type name inlined → inlined.isInline = true →
    inlined.target? = some target → Within owner (hops ++ [name]) target

/-- Segments that lead from the root to another record; a relation is the last of them. -/
inductive Across (root : String) : List String → String → Prop
  | root : Across root [] root
  | relation {front hops : List String} {owner type name target : String}
    {cardinality : Cardinality} :
    Across root front owner → Within define owner hops type →
    Declares define type name (.relation target cardinality) →
    Across root (front ++ hops ++ [name]) target

theorem Across.of_root {define : String → Except QueryError Entity} {root name target : String}
    {cardinality : Cardinality} (declared : Declares define root name (.relation target cardinality)) :
    Across define root [name] target :=
  Across.root.relation .here declared

/-- A path spells a walk: across relations, within the record that they lead to, and to an
attribute there. -/
structure Walk (root path : String) (front hops : List String) (last : String) (type : FieldType) :
    Prop where
  spelled : Text.segments (Text.trim path) = front ++ hops ++ [last]
  solid : ∀ segment ∈ Text.segments (Text.trim path), Text.isBlankText segment = false
  walked : ∃ owner holder, Across define root front owner ∧ Within define owner hops holder ∧
    Declares define holder last type

end

structure Link where
  path : List String
  entity : String
  dotted : String
  deriving DecidableEq, Repr

def Join.link (j : Join) : Link := ⟨j.path, j.entity, j.dotted⟩

/-- The joins that lead from a record back to the root. -/
inductive Chain (joins : List Join) : RowSource → List Join → Prop
  | root : Chain joins .root []
  | join {k : Nat} {j : Join} {rest : List Join} :
    joins[k]? = some j → Chain joins j.parent rest → Chain joins (.join k) (j :: rest)

/-- The same failure, or the same attribute behind joins that have the same links. -/
inductive SameAttribute (joins others : List Join) :
    Except QueryError Resolved → Except QueryError Resolved → Prop
  | error (e : QueryError) : SameAttribute joins others (.error e) (.error e)
  | ok {source other : RowSource} {js ks : List Join} (names : List String) (qualified : String)
    (type : FieldType) : Chain joins source js → Chain others other ks →
    js.map Join.link = ks.map Join.link →
    SameAttribute joins others (.ok ⟨⟨source, names, qualified⟩, type⟩)
      (.ok ⟨⟨other, names, qualified⟩, type⟩)

theorem Text.clean_of_segments {text : String} {front rest : List String}
    (spelled : segments text = front ++ rest) : ∀ part ∈ front, '.' ∉ part.toList :=
  fun _ held => mark_notMem_segments (spelled ▸ List.mem_append_left rest held)

namespace Spot

def anchorOf : List String → Option String
  | [] => none
  | front => some (dotted front)

theorem anchorOf_append (front : List String) (name : String) :
    anchorOf (front ++ [name]) = some (dotted (front ++ [name])) := by
  cases front <;> rfl

end Spot

namespace Base

open Spot (anchorOf anchorOf_append)

variable {b : Base} {path owner name segment type root : String} {front hops walked rest : List String}
  {p q next : Spot}

theorem attributeType_ok {declared : FieldType} :
    b.attributeType owner name = .ok declared ↔ Declares b.definition owner name declared := by
  simp only [attributeType, Declares]
  cases b.definition owner with
  | error e => simp
  | ok e => cases field : e.field? name <;> simp [field]

/-- Navigation stays within the record, or crosses a relation. -/
theorem step_cases {d : String} (taken : b.step path d p segment = .ok next) :
    (∃ inlined target, Declares b.definition p.type segment inlined ∧ inlined.isInline = true ∧
      inlined.target? = some target ∧ next = ⟨p.anchor, target, p.hops ++ [segment]⟩) ∨
    ∃ target cardinality, Declares b.definition p.type segment (.relation target cardinality) ∧
      next = ⟨some d, target, []⟩ := by
  obtain ⟨declared, found, moved⟩ := step_ok taken
  rw [attributeType_ok] at found
  cases declared with
  | embedded target | compositeKey target =>
    exact .inl ⟨_, target, found, rfl, rfl, (Except.ok.inj moved).symm⟩
  | relation target cardinality =>
    exact .inr ⟨target, cardinality, found, (Except.ok.inj moved).symm⟩
  | scalar | enumeration => cases moved

theorem step_inline (path d : String) {inlined : FieldType}
    (declared : Declares b.definition p.type segment inlined) (inline : inlined.isInline = true)
    (target : inlined.target? = some type) :
    b.step path d p segment = .ok ⟨p.anchor, type, p.hops ++ [segment]⟩ := by
  rw [step, attributeType_ok.mpr declared]
  cases inlined <;> simp_all [FieldType.isInline, FieldType.target?, Spot.through, Except.bind]

theorem step_relation (path d : String) {cardinality : Cardinality}
    (declared : Declares b.definition p.type segment (.relation type cardinality)) :
    b.step path d p segment = .ok ⟨some d, type, []⟩ := by
  rw [step, attributeType_ok.mpr declared]
  rfl

theorem Reaches.splits (reached : b.Reaches walked p) :
    ∃ front owner, walked = front ++ p.hops ∧ p.anchor = anchorOf front ∧
      Across b.definition b.root.name front owner ∧ Within b.definition owner p.hops p.type := by
  induction reached with
  | root => exact ⟨[], _, rfl, rfl, .root, .here⟩
  | step _ taken ih =>
    obtain ⟨front, owner, rfl, anchor, across, within⟩ := ih
    obtain ⟨_, _, declared, inline, target, rfl⟩ | ⟨_, _, declared, rfl⟩ := step_cases taken
    · exact ⟨front, owner, List.append_assoc .., anchor, across, .inline within declared inline target⟩
    · exact ⟨_, _, (List.append_nil _).symm, (anchorOf_append _ _).symm,
        .relation across within declared, .here⟩

theorem Reaches.within {a : Option String} (reached : b.Reaches front ⟨a, owner, []⟩)
    (within : Within b.definition owner hops type) : b.Reaches (front ++ hops) ⟨a, type, hops⟩ := by
  induction within with
  | here => rwa [List.append_nil]
  | inline _ declared inline target ih =>
    rw [← List.append_assoc]
    exact .step ih (step_inline "" _ declared inline target)

theorem Reaches.of_across (across : Across b.definition b.root.name front owner) :
    b.Reaches front ⟨anchorOf front, owner, []⟩ := by
  induction across with
  | root => exact .root
  | relation _ within declared ih =>
    rw [anchorOf_append]
    exact .step (ih.within within) (step_relation "" _ declared)

theorem Reaches.of_append (reached : b.Reaches (walked ++ rest) q) : ∃ p, b.Reaches walked p := by
  induction rest using List.reverseRecOn generalizing q with
  | nil => exact ⟨q, by simpa using reached⟩
  | append_singleton rest segment ih =>
    rw [← List.append_assoc] at reached
    generalize whole : walked ++ rest ++ [segment] = other at reached
    cases reached with
    | root => simp at whole
    | step before _ =>
      obtain ⟨rfl, -⟩ := List.append_inj' whole rfl
      exact ih before

/-- A walk arrives at a spot that its segments lead to, behind a relation crossed on the way. -/
theorem walk_ok (reached : b.Reaches walked p) (ran : (b.walk path walked p rest).2 = .ok q) :
    b.Reaches (walked ++ rest) q ∧
      ∀ a ∈ q.anchor, a ∈ p.anchor ∨ a ∈ (b.walk path walked p rest).1 := by
  induction rest generalizing walked p with
  | nil =>
    obtain rfl := Except.ok.inj ran
    exact ⟨by rwa [List.append_nil], fun a held => .inl held⟩
  | cons segment rest ih =>
    simp only [walk] at ran ⊢
    cases taken : b.step path (dotted (walked ++ [segment])) p segment with
    | error e =>
      rw [taken] at ran
      cases ran
    | ok next =>
      rw [taken] at ran
      obtain ⟨arrived, anchored⟩ := ih (.step reached taken) ran
      refine ⟨by simpa using arrived, fun a held => .inr ?_⟩
      simpa using anchored a held

theorem walk_of_reaches (reached : b.Reaches walked p) (arrives : b.Reaches (walked ++ rest) q) :
    (b.walk path walked p rest).2 = .ok q := by
  induction rest generalizing walked p with
  | nil =>
    rw [List.append_nil] at arrives
    exact congrArg Except.ok (reached.unique arrives)
  | cons segment rest ih =>
    rw [List.append_cons] at arrives
    obtain ⟨next, entered⟩ := arrives.of_append
    have taken := entered.last reached path
    simp only [walk, taken]
    exact ih entered arrives

section
variable {last : String} {declared : FieldType} {g : Numbering → Resolved}

theorem locate_blank (blank : ∃ segment ∈ Text.segments (Text.trim path),
    Text.isBlankText segment = true) :
    b.locate path = ([], .error (.unresolvable (Text.trim path) .emptySegment)) := by
  unfold locate
  exact if_pos (List.any_eq_true.mpr blank)

theorem locate_eq (spelled : Text.segments (Text.trim path) = walked ++ [last])
    (solid : ∀ segment ∈ Text.segments (Text.trim path), Text.isBlankText segment = false) :
    b.locate path = ((b.walk (Text.trim path) [] b.rootSpot walked).1,
      (b.walk (Text.trim path) [] b.rootSpot walked).2.bind fun p =>
        (b.attributeType p.type last).map fun type ν =>
          ⟨⟨p.source ν, p.hops ++ [last], Text.trim path⟩, type⟩) := by
  have none : ¬(Text.segments (Text.trim path)).any Text.isBlankText = true := by
    simpa using solid
  unfold locate
  dsimp only
  rw [if_neg none, spelled, List.dropLast_concat, List.getLastD_concat]
  rfl

theorem locate_inv (found : (b.locate path).2 = .ok g) :
    ∃ walked last p type, Text.segments (Text.trim path) = walked ++ [last] ∧
      (∀ segment ∈ Text.segments (Text.trim path), Text.isBlankText segment = false) ∧
      b.Reaches walked p ∧ (∀ a ∈ p.anchor, a ∈ (b.locate path).1) ∧
      Declares b.definition p.type last type ∧
      g = fun ν => ⟨⟨p.source ν, p.hops ++ [last], Text.trim path⟩, type⟩ := by
  by_cases blank : ∃ segment ∈ Text.segments (Text.trim path), Text.isBlankText segment = true
  · rw [locate_blank blank] at found
    cases found
  · have solid : ∀ segment ∈ Text.segments (Text.trim path), Text.isBlankText segment = false := by
      simpa using blank
    obtain ⟨walked, last, spelled⟩ := (List.eq_nil_or_concat' _).resolve_left
      (Text.segments_ne_nil (Text.trim path))
    rw [locate_eq spelled solid] at found ⊢
    cases ran : (b.walk (Text.trim path) [] b.rootSpot walked).2 with
    | error e =>
      rw [ran] at found
      cases found
    | ok p =>
      rw [ran] at found
      obtain ⟨reached, anchored⟩ := walk_ok .root ran
      cases declared : b.attributeType p.type last with
      | error e =>
        simp only [Except.bind, declared] at found
        cases found
      | ok type =>
        simp only [Except.bind, declared] at found
        refine ⟨walked, last, p, type, spelled, solid, reached, fun a held => ?_,
          attributeType_ok.mp declared, (Except.ok.inj found).symm⟩
        simpa [rootSpot] using anchored a held

theorem locate_of_reaches (spelled : Text.segments (Text.trim path) = walked ++ [last])
    (solid : ∀ segment ∈ Text.segments (Text.trim path), Text.isBlankText segment = false)
    (reached : b.Reaches walked p) (found : Declares b.definition p.type last declared) :
    (b.locate path).2 = .ok fun ν => ⟨⟨p.source ν, p.hops ++ [last], Text.trim path⟩, declared⟩ := by
  rw [locate_eq spelled solid, walk_of_reaches .root reached]
  simp only [Except.bind, attributeType_ok.mpr found]
  rfl

end

end Base

namespace Scope

inductive Stands (s : Scope) : List String → String → RowSource → Prop
  | root : Stands s [] s.root.name .root
  | join {front : List String} {k : Nat} {j : Join} :
    front ≠ [] → s.joins[k]? = some j → j.dotted = dotted front → Stands s front j.entity (.join k)

section
variable {b : Base} {s : Scope} {d owner target segment : String} {front walked : List String}
  {p : Spot}

theorem Sound.join_at (sound : s.Sound b) (crossed : d ∈ s.crossed) :
    ∃ j, s.joins[s.crossed.idxOf d]? = some j ∧ j.dotted = d ∧
      b.Joins s.crossed (s.crossed.idxOf d) j := by
  have here : s.crossed.idxOf d < s.joins.length := by
    simpa [Scope.crossed] using List.idxOf_lt_length_of_mem crossed
  have held : s.joins[s.crossed.idxOf d]? = some s.joins[s.crossed.idxOf d] :=
    List.getElem?_eq_getElem here
  refine ⟨_, held, ?_, sound.joins _ _ held⟩
  have named : (s.joins.map Join.dotted)[s.crossed.idxOf d]? = some d := List.getElem?_idxOf crossed
  rw [List.getElem?_map, held] at named
  exact Option.some.inj named

theorem Sound.join_of_relation {cardinality : Cardinality} (sound : s.Sound b)
    (segments : Segments (walked ++ [segment])) (reached : b.Reaches walked p)
    (declared : Declares b.definition p.type segment (.relation target cardinality))
    (crossed : dotted (walked ++ [segment]) ∈ s.crossed) :
    ∃ j, s.joins[s.crossed.idxOf (dotted (walked ++ [segment]))]? = some j ∧
      j.link = ⟨p.hops ++ [segment], target, dotted (walked ++ [segment])⟩ ∧
      j.parent = p.source (.positions s.crossed) ∧ ∀ a ∈ p.anchor, a ∈ s.crossed := by
  obtain ⟨j, held, named, walked', p', segment', target', _, segments', reached', declared',
    anchored, rfl⟩ := sound.join_at crossed
  have whole := segments'.eq_of_dotted segments named
  obtain ⟨rfl, last⟩ := List.append_inj' whole rfl
  obtain ⟨rfl⟩ := List.singleton_inj.mp last
  obtain rfl := reached.unique reached'
  rw [← Base.attributeType_ok] at declared
  obtain ⟨rfl, -⟩ := FieldType.relation.inj (Except.ok.inj (declared.symm.trans declared'))
  exact ⟨_, held, rfl, rfl, fun a crossed => List.mem_of_mem_take (anchored a crossed)⟩

theorem Sound.stands (sound : s.Sound b) (clean : ∀ part ∈ front, '.' ∉ part.toList)
    (across : Across b.definition b.root.name front owner) (anchor : p.anchor = Spot.anchorOf front)
    (anchored : ∀ a ∈ p.anchor, a ∈ s.crossed) :
    s.Stands front owner (p.source (.positions s.crossed)) := by
  obtain ⟨anchor', type, hops⟩ := p
  obtain rfl : anchor' = Spot.anchorOf front := anchor
  cases across with
  | root =>
    rw [← sound.base]
    exact .root
  | relation before within declared =>
    rw [Spot.anchorOf_append] at anchored ⊢
    obtain ⟨j, held, link, -⟩ := sound.join_of_relation ⟨by simp, clean⟩
      ((Base.Reaches.of_across before).within within) declared (anchored _ rfl)
    obtain ⟨-, rfl, named⟩ := Link.mk.inj link
    exact .join (by simp) held named

end

end Scope

theorem Base.Reaches.chained {b : Base} {walked : List String} {p : Spot}
    (reached : b.Reaches walked p) (clean : ∀ part ∈ walked, '.' ∉ part.toList) :
    ∃ links, ∀ s : Scope, s.Sound b → (∀ a ∈ p.anchor, a ∈ s.crossed) →
      ∃ js, Chain s.joins (p.source (.positions s.crossed)) js ∧ js.map Join.link = links := by
  -- Only steps across relations add a link, and what they add is read off the definitions.
  induction reached with
  | root => exact ⟨[], fun _ _ _ => ⟨[], .root, rfl⟩⟩
  | @step _ walked p next segment reached taken ih =>
    have before : ∀ part ∈ walked, '.' ∉ part.toList :=
      fun part held => clean part (List.mem_append_left _ held)
    obtain ⟨links, chained⟩ := ih before
    obtain ⟨_, _, -, -, -, rfl⟩ | ⟨target, _, declared, rfl⟩ := Base.step_cases taken
    · exact ⟨links, chained⟩
    · refine ⟨⟨p.hops ++ [segment], target, dotted (walked ++ [segment])⟩ :: links, ?_⟩
      intro s sound anchored
      obtain ⟨j, held, link, parent, anchored'⟩ := sound.join_of_relation ⟨by simp, clean⟩ reached
        declared (anchored _ rfl)
      obtain ⟨js, chain, same⟩ := chained s sound anchored'
      exact ⟨j :: js, .join held (parent ▸ chain), by rw [List.map_cons, link, same]⟩

namespace Resolve

variable {b : Base} {s u : Scope}

/-- What resolving does in a sound scope, with joins numbered as they then stand. -/
theorem resolve_settled (path : String) (sound : s.Sound b) :
    ∃ t, resolve path s = ((b.locate path).2.map (· (.positions t.crossed)), t) ∧ t.Sound b ∧
      t.crossed = cross s.crossed (b.locate path).1 := by
  obtain ⟨t, ran, sound', crossed⟩ := resolve_run path sound (Numbering.of_positions _)
  exact ⟨t, crossed ▸ ran, sound', crossed⟩

/-- An attribute that resolves is declared at a spot that the segments before it lead to. -/
theorem resolve_found {path : String} {r : Resolved} {t : Scope} (sound : s.Sound b)
    (found : resolve path s = (.ok r, t)) : t.Sound b ∧ ∃ walked last p,
      Text.segments (Text.trim path) = walked ++ [last] ∧
      (∀ segment ∈ Text.segments (Text.trim path), Text.isBlankText segment = false) ∧
      b.Reaches walked p ∧ (∀ a ∈ p.anchor, a ∈ t.crossed) ∧
      Declares b.definition p.type last r.type ∧
      r.field = ⟨p.source (.positions t.crossed), p.hops ++ [last], Text.trim path⟩ := by
  obtain ⟨t', ran, sound', crossed⟩ := resolve_settled path sound
  obtain ⟨outcome, rfl⟩ := Prod.mk.inj (found.symm.trans ran)
  refine ⟨sound', ?_⟩
  cases located : (b.locate path).2 with
  | error e =>
    rw [located] at outcome
    cases outcome
  | ok g =>
    obtain ⟨walked, last, p, type, spelled, solid, reached, anchored, declared, rfl⟩ :=
      Base.locate_inv located
    rw [located] at outcome
    obtain rfl := Except.ok.inj outcome
    refine ⟨walked, last, p, spelled, solid, reached, fun a held => ?_, declared, rfl⟩
    rw [crossed, mem_cross]
    exact .inr (anchored a held)

theorem resolve_same (path : String) (sound : s.Sound b) (sound' : u.Sound b) :
    SameAttribute (resolve path s).2.joins (resolve path u).2.joins (resolve path s).1
      (resolve path u).1 := by
  obtain ⟨t, ran, soundT, crossed⟩ := resolve_settled path sound
  obtain ⟨v, ran', soundV, crossed'⟩ := resolve_settled path sound'
  rw [ran, ran']
  cases located : (b.locate path).2 with
  | error e => exact .error e
  | ok g =>
    obtain ⟨walked, last, p, type, spelled, -, reached, anchored, -, rfl⟩ := Base.locate_inv located
    obtain ⟨links, chained⟩ := reached.chained (Text.clean_of_segments spelled)
    obtain ⟨js, chain, same⟩ := chained t soundT fun a held => by
      rw [crossed, mem_cross]
      exact .inr (anchored a held)
    obtain ⟨ks, chain', same'⟩ := chained v soundV fun a held => by
      rw [crossed', mem_cross]
      exact .inr (anchored a held)
    exact .ok _ _ _ chain chain' (same.trans same'.symm)

theorem resolve_walked {path : String} {r : Resolved} {t : Scope} (sound : s.Sound b)
    (found : resolve path s = (.ok r, t)) :
    ∃ front hops last, Walk b.definition b.root.name path front hops last r.type := by
  obtain ⟨-, walked, last, p, spelled, solid, reached, -, declared, -⟩ := resolve_found sound found
  obtain ⟨front, owner, rfl, -, across, within⟩ := reached.splits
  exact ⟨front, p.hops, last, spelled, solid, owner, p.type, across, within, declared⟩

theorem resolve_of_walk {path last : String} {front hops : List String} {type : FieldType}
    (sound : s.Sound b) (walk : Walk b.definition b.root.name path front hops last type) :
    ∃ owner source t, resolve path s = (.ok ⟨⟨source, hops ++ [last], Text.trim path⟩, type⟩, t) ∧
      t.Stands front owner source := by
  obtain ⟨spelled, solid, owner, holder, across, within, declared⟩ := walk
  have reached := (Base.Reaches.of_across across).within within
  obtain ⟨t, ran, -⟩ := resolve_settled path sound
  rw [Base.locate_of_reaches spelled solid reached declared] at ran
  -- What resolved stands at the spot of the walk, behind a relation crossed on the way.
  obtain ⟨sound', walked, last', p, spelled', -, reached', anchored, -⟩ := resolve_found sound ran
  obtain ⟨rfl, -⟩ := List.append_inj' (spelled.symm.trans spelled') rfl
  obtain rfl := reached.unique reached'
  rw [List.append_assoc] at spelled
  exact ⟨owner, _, t, ran,
    sound'.stands (Text.clean_of_segments spelled) across rfl anchored⟩

end Resolve

namespace Scope

theorem start_definition {entity : String} {catalog loaded : Catalog} {first : Scope}
    (started : Scope.start entity catalog = (.ok first, loaded))
    (named : ∀ name e, catalog.definition name = .ok e → e.name = name) :
    first.definition = catalog.definition ∧ first.root.name = entity := by
  obtain ⟨defined, -, types, -⟩ := start_ok started
  have root := named entity first.root defined
  refine ⟨funext fun name => ?_, root⟩
  rw [definition, types, start_catalog started, root]
  by_cases same : entity = name
  · subst same
    simp [Keyed.find?, defined]
  · simp [Keyed.find?, same]

end Scope

namespace Resolve

/-- Whatever was resolved before, a path resolves as it does in a scope of its own; where types
stand under their own names, this is where the walk that it spells leads. -/
theorem resolve_refines {entity : String} {catalog loaded : Catalog} {first s : Scope}
    (started : Scope.start entity catalog = (.ok first, loaded)) (reached : first.Reached s)
    (path : String) :
    (∀ c fresh after, c.definition = catalog.definition →
      Scope.start entity c = (.ok fresh, after) →
      SameAttribute (resolve path fresh).2.joins (resolve path s).2.joins (resolve path fresh).1
        (resolve path s).1) ∧
    ((∀ name e, catalog.definition name = .ok e → e.name = name) →
      (∀ r t, resolve path s = (.ok r, t) → ∃ front hops last,
        Walk catalog.definition entity path front hops last r.type) ∧
      ∀ front hops last type, Walk catalog.definition entity path front hops last type →
        ∃ owner source t,
          resolve path s = (.ok ⟨⟨source, hops ++ [last], Text.trim path⟩, type⟩, t) ∧
          t.Stands front owner source) := by
  have sound := reached.sound (Scope.start_sound started)
  constructor
  · intro c fresh after same anew
    obtain ⟨again, _, started', base⟩ := Scope.start_again started same
    obtain ⟨same', -⟩ := Prod.mk.inj (anew.symm.trans started')
    obtain rfl := Except.ok.inj same'
    exact resolve_same path (base ▸ Scope.start_sound anew) sound
  · intro named
    obtain ⟨definition, root⟩ := Scope.start_definition started named
    rw [← definition, ← root]
    exact ⟨fun r t found => resolve_walked sound found,
      fun front hops last type walk => resolve_of_walk sound walk⟩

end Resolve

namespace Sample

theorem catalog_named (name : String) (e : Entity) (defined : catalog.definition name = .ok e) :
    e.name = name := by
  simp only [Catalog.definition, catalog, Keyed.find?] at defined
  grind [person, city, tag]

def labelled : Scope := (Resolve.resolve "tags.label" scope).2

theorem city_walk : Walk catalog.definition "Person" "city.name" ["city"] [] "name"
    (.scalar .string) where
  spelled := by decide +kernel
  solid := by decide +kernel
  walked := ⟨"City", "City", .of_root ⟨_, _, rfl, rfl, rfl⟩, .here, _, _, rfl, rfl, rfl⟩

end Sample

namespace Resolve

theorem resolve_refines_city :
    SameAttribute (resolve "city.name" Sample.scope).2.joins
      (resolve "city.name" Sample.labelled).2.joins (resolve "city.name" Sample.scope).1
      (resolve "city.name" Sample.labelled).1 ∧
    ∃ owner source t, resolve "city.name" Sample.labelled =
        (.ok ⟨⟨source, ["name"], Text.trim "city.name"⟩, .scalar .string⟩, t) ∧
      t.Stands ["city"] owner source :=
  have started : Scope.start "Person" Sample.catalog = (.ok Sample.scope, Sample.catalog) := rfl
  have ⟨same, walks⟩ := resolve_refines started (.resolve "tags.label" .first) "city.name"
  ⟨same Sample.catalog Sample.scope Sample.catalog rfl started,
    (walks Sample.catalog_named).2 ["city"] [] "name" _ Sample.city_walk⟩

end Resolve

end EntitySearch
