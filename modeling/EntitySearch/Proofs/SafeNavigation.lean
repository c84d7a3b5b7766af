import EntitySearch.Proofs.SchemaWalk

/-! Navigation in valid schemas.

In the catalog of a valid schema every attribute that leads on arrives at a type
of the catalog, under the name that the attribute gives. From an entity that can
be searched for, navigation therefore meets types that are known, and what fails
fails for the path: it has a blank segment, names no attribute of a type that it
reaches, or goes on behind an attribute that leads nowhere.
-/

set_option autoImplicit false

namespace EntitySearch

open Text (dotted)

/-- Navigation ends at the attribute: it holds a value of its own, and leads to no type. -/
def FieldType.IsTerminal (type : FieldType) : Prop :=
  (∃ scalar, type = .scalar scalar) ∨ ∃ enum variants, type = .enumeration enum variants

section
variable (define : String → Except QueryError Entity)

/-- Segments that lead from the root to a type, one attribute after the other. -/
inductive Arrives (root : String) : List String → String → Prop
  | root : Arrives root [] root
  | step {walked : List String} {owner name target : String} {type : FieldType} :
    Arrives root walked owner → Declares define owner name type → type.target? = some target →
    Arrives root (walked ++ [name]) target

/-- The root is defined, and so is every type that an attribute of a type leads to. -/
structure Supplied (root : String) : Prop where
  root : ∃ e, define root = .ok e
  targets : ∀ name e, define name = .ok e → ∀ a ∈ e.fields, ∀ target,
    a.type.target? = some target → ∃ known, define target = .ok known

/-- What comes of resolving a path: an attribute at the end of a walk, or a fault of the path. -/
inductive Accounted (root path : String) : Except QueryError Resolved → Prop
  | found {front hops : List String} {last : String} {r : Resolved} :
    Walk define root path front hops last r.type → Accounted root path (.ok r)
  | blank {segment : String} : segment ∈ Text.segments (Text.trim path) →
    Text.isBlankText segment = true →
    Accounted root path (.error (.unresolvable (Text.trim path) .emptySegment))
  | unknown {walked rest : List String} {type name : String} {e : Entity} :
    Text.segments (Text.trim path) = walked ++ name :: rest → Arrives define root walked type →
    define type = .ok e → e.field? name = none →
    Accounted root path (.error (.unknownAttribute type name))
  | blocked {walked rest : List String} {owner name : String} {type : FieldType} :
    Text.segments (Text.trim path) = walked ++ name :: rest → rest ≠ [] →
    Arrives define root walked owner → Declares define owner name type → type.IsTerminal →
    Accounted root path (.error (.unresolvable (Text.trim path) (.notNavigable name type)))

end

theorem Arrives.defined {define : String → Except QueryError Entity} {root type : String}
    {walked : List String} (supplied : Supplied define root) (arrives : Arrives define root walked type) :
    ∃ e, define type = .ok e := by
  cases arrives with
  | root => exact supplied.root
  | step _ declared target =>
    obtain ⟨e, a, defined, named, rfl⟩ := declared
    exact supplied.targets _ e defined a (List.mem_of_find?_eq_some named) _ target

namespace Base

variable {b : Base} {path segment type name : String} {walked rest : List String} {p q : Spot}
  {e : QueryError}

theorem Reaches.arrives (reached : b.Reaches walked p) :
    Arrives b.definition b.root.name walked p.type := by
  induction reached with
  | root => exact .root
  | step _ taken ih =>
    obtain ⟨_, _, declared, -, target, rfl⟩ | ⟨_, _, declared, rfl⟩ := step_cases taken
    · exact ih.step declared target
    · exact ih.step declared rfl

/-- A walk that fails does so at a step from where the segments before it lead. -/
theorem walk_error (reached : b.Reaches walked p)
    (ran : (b.walk path walked p rest).2 = .error e) :
    ∃ front segment back q, rest = front ++ segment :: back ∧ b.Reaches (walked ++ front) q ∧
      b.step path (dotted (walked ++ front ++ [segment])) q segment = .error e := by
  induction rest generalizing walked p with
  | nil => cases ran
  | cons segment rest ih =>
    simp only [walk] at ran
    cases taken : b.step path (dotted (walked ++ [segment])) p segment with
    | error fault =>
      rw [taken] at ran
      obtain rfl := Except.error.inj ran
      exact ⟨[], segment, rest, p, rfl, by simpa using reached, by simpa using taken⟩
    | ok next =>
      rw [taken] at ran
      obtain ⟨front, failing, back, q, rfl, arrived, fails⟩ := ih (.step reached taken) ran
      refine ⟨segment :: front, failing, back, q, rfl, ?_, ?_⟩
      · simpa using arrived
      · simpa using fails

theorem attributeType_error (defined : ∃ e, b.definition type = .ok e)
    (h : b.attributeType type name = .error e) :
    ∃ owner, b.definition type = .ok owner ∧ owner.field? name = none ∧
      e = .unknownAttribute type name := by
  obtain ⟨owner, known⟩ := defined
  simp only [attributeType, known] at h
  split at h
  · cases h
  · next none =>
    cases h
    exact ⟨owner, known, none, rfl⟩

theorem step_error {d : String} (h : b.step path d p segment = .error e) :
    b.attributeType p.type segment = .error e ∨
      ∃ type, Declares b.definition p.type segment type ∧ type.IsTerminal ∧
        e = .unresolvable path (.notNavigable segment type) := by
  obtain unknown | ⟨type, declared, blocked⟩ := bind_error_inv h
  · exact .inl unknown
  · refine .inr ⟨type, attributeType_ok.mp declared, ?_⟩
    cases type with
    | scalar => exact ⟨.inl ⟨_, rfl⟩, (Except.error.inj blocked).symm⟩
    | enumeration => exact ⟨.inr ⟨_, _, rfl⟩, (Except.error.inj blocked).symm⟩
    | embedded | compositeKey | relation => cases blocked

theorem locate_accounted (supplied : Supplied b.definition b.root.name) (path : String)
    (ν : Numbering) :
    Accounted b.definition b.root.name path ((b.locate path).2.map (· ν)) := by
  cases located : (b.locate path).2 with
  | ok g =>
    obtain ⟨walked, last, p, type, spelled, solid, reached, -, declared, rfl⟩ := locate_inv located
    obtain ⟨front, owner, rfl, -, across, within⟩ := reached.splits
    exact .found ⟨spelled, solid, owner, p.type, across, within, declared⟩
  -- What fails is the path as text, a step on the way, or the attribute at the end.
  | error e =>
    by_cases blank : ∃ segment ∈ Text.segments (Text.trim path), Text.isBlankText segment = true
    · rw [locate_blank blank] at located
      obtain rfl := Except.error.inj located
      obtain ⟨segment, held, empty⟩ := blank
      exact .blank held empty
    have solid : ∀ segment ∈ Text.segments (Text.trim path), Text.isBlankText segment = false := by
      simpa using blank
    obtain ⟨walked, last, spelled⟩ := (List.eq_nil_or_concat' _).resolve_left
      (Text.segments_ne_nil (Text.trim path))
    rw [locate_eq spelled solid] at located
    obtain ran | ⟨p, ran, located⟩ := bind_error_inv located
    · obtain ⟨front, segment, back, q, rfl, reached, fails⟩ := walk_error .root ran
      have spelled' : Text.segments (Text.trim path) = front ++ segment :: (back ++ [last]) := by
        simpa using spelled
      obtain unknown | ⟨type, declared, leaf, rfl⟩ := step_error fails
      · obtain ⟨owner, known, none, rfl⟩ :=
          attributeType_error (reached.arrives.defined supplied) unknown
        exact .unknown spelled' reached.arrives known none
      · exact .blocked spelled' (by simp) reached.arrives declared leaf
    · obtain ⟨reached, -⟩ := walk_ok .root ran
      obtain ⟨owner, known, none, rfl⟩ :=
        attributeType_error (reached.arrives.defined supplied) (map_fails located)
      exact .unknown spelled reached.arrives known none

end Base

namespace Keyed

variable {α : Type} {entries : List (String × α)} {key : String} {value : α}

theorem ofEntries_concat (entries : List (String × α)) (entry : String × α) :
    ofEntries (entries ++ [entry]) = put (ofEntries entries) entry.1 entry.2 := by
  simp only [ofEntries, List.foldl_append, List.foldl_cons, List.foldl_nil]

theorem mem_of_ofEntries (found : find? (ofEntries entries) key = some value) :
    (key, value) ∈ entries := by
  induction entries using List.reverseRecOn with
  | nil => cases found
  | append_singleton rest entry ih =>
    rw [ofEntries_concat, find?_put] at found
    split at found
    · next same =>
      obtain rfl := Option.some.inj found
      subst same
      exact List.mem_append_right rest (List.mem_singleton_self entry)
    · exact List.mem_append_left _ (ih found)

theorem find?_ofEntries (held : has entries key = true) :
    ∃ value, find? (ofEntries entries) key = some value := by
  induction entries using List.reverseRecOn with
  | nil => cases held
  | append_singleton rest entry ih =>
    rw [ofEntries_concat, find?_put]
    split
    · exact ⟨_, rfl⟩
    · next other =>
      apply ih
      simpa [has, other] using held

end Keyed

namespace Schema

variable {s : Schema} {key : String} {e : Entity}

theorem has_target (valid : s.validate = .ok ()) (held : (key, e) ∈ s.entities) {a : Attribute}
    (declared : a ∈ e.fields) {target : String} (leads : a.type.target? = some target) :
    Keyed.has s.entities target = true := by
  obtain ⟨_, -, targets⟩ := bind_ok_inv (ok_of_forM valid held)
  have checked := ok_of_forM targets declared
  simp only [validateTarget, leads] at checked
  split at checked
  · next known => exact known
  · cases checked

end Schema

namespace Catalog

theorem ofSchema_of_valid {s : Schema} (valid : s.validate = .ok ()) :
    ofSchema s = .ok { entities := Keyed.ofEntries s.entities } := by
  simp only [ofSchema, apply, valid]
  rfl

/-- The definitions for a search: the entity stands under its own name, which may differ from the
one it is registered under, and all other types under those of the catalog. -/
def definitionFor (c : Catalog) (root : Entity) (name : String) : Except QueryError Entity :=
  if name = root.name then .ok root else c.definition name

/-- In the catalog of a valid schema all types that navigation leads to are known. -/
theorem supplied_of_valid {s : Schema} {c : Catalog} (valid : s.validate = .ok ())
    (built : ofSchema s = .ok c) {key : String} {root : Entity}
    (held : Keyed.find? c.entities key = some root) :
    Supplied (c.definitionFor root) root.name := by
  obtain rfl := Except.ok.inj ((ofSchema_of_valid valid).symm.trans built)
  refine ⟨⟨root, if_pos rfl⟩, fun name e defined a declared target leads => ?_⟩
  -- Validation covers the entries of the schema, whatever names they are found under.
  have registered : ∃ key, (key, e) ∈ s.entities := by
    unfold definitionFor at defined
    split at defined
    · obtain rfl := Except.ok.inj defined
      exact ⟨key, Keyed.mem_of_ofEntries held⟩
    · simp only [definition] at defined
      split at defined
      · next found =>
        obtain rfl := Except.ok.inj defined
        exact ⟨name, Keyed.mem_of_ofEntries found⟩
      · cases defined
      · next sourced => cases sourced
  obtain ⟨_, registered⟩ := registered
  obtain ⟨known, found⟩ := Keyed.find?_ofEntries (Schema.has_target valid registered declared leads)
  by_cases same : target = root.name
  · exact ⟨root, if_pos same⟩
  · exact ⟨known, by simp only [definitionFor, same, if_false, definition, found]⟩

end Catalog

theorem Scope.start_definitionFor {entity : String} {catalog loaded : Catalog} {first : Scope}
    (started : Scope.start entity catalog = (.ok first, loaded)) :
    first.definition = catalog.definitionFor first.root := by
  obtain ⟨-, -, types, -⟩ := Scope.start_ok started
  funext name
  simp only [Scope.definition, types, Scope.start_catalog started, Keyed.find?,
    Catalog.definitionFor, eq_comm]
  split <;> rfl

namespace Resolve

theorem resolve_accounted {b : Base} {s : Scope} (sound : s.Sound b)
    (supplied : Supplied b.definition b.root.name) (path : String) :
    Accounted b.definition b.root.name path (resolve path s).1 := by
  obtain ⟨t, ran, -⟩ := resolve_settled path sound
  rw [ran]
  dsimp only
  exact Base.locate_accounted supplied path (.positions t.crossed)

/-- In the catalog of a valid schema, whatever was resolved before, a path leads to an attribute or
fails by a fault of its own, and never for want of a type. -/
theorem resolve_safe {schema : Schema} (valid : schema.validate = .ok ()) :
    ∃ catalog, Catalog.ofSchema schema = .ok catalog ∧
      ∀ key root identifier, Keyed.find? catalog.entities key = some root →
        root.identity = some identifier →
        ∃ first loaded, Scope.start key catalog = (.ok first, loaded) ∧
          ∀ s, first.Reached s → ∀ path,
            Accounted (catalog.definitionFor root) root.name path (resolve path s).1 ∧
            ∀ name, (resolve path s).1 ≠ .error (.unknownEntity name) := by
  refine ⟨_, Catalog.ofSchema_of_valid valid, fun key root identifier held identity => ?_⟩
  have supplied := Catalog.supplied_of_valid valid (Catalog.ofSchema_of_valid valid) held
  have defined : Catalog.definition { entities := Keyed.ofEntries schema.entities } key =
      .ok root := by
    simp only [Catalog.definition, held]
  obtain ⟨first, loaded, started, rfl, -⟩ := Scope.start_of_definition defined identity
  refine ⟨first, loaded, started, fun s reached path => ?_⟩
  have sound := reached.sound (Scope.start_sound started)
  rw [← Scope.start_definitionFor started] at supplied ⊢
  have accounted := resolve_accounted sound supplied path
  refine ⟨accounted, fun name failed => ?_⟩
  rw [failed] at accounted
  cases accounted

end Resolve

namespace Sample

def contact : Entity where
  name := "Person"
  identity := some "id"
  fields := [⟨"id", .scalar .int64⟩, ⟨"manager", .relation "Contact" .toOne⟩]

/-- People, registered under another name; to their managers they lead by that name. -/
def contacts : Schema := ⟨1, [("Contact", contact)]⟩

end Sample

namespace Resolve

/-- From a contact, the managers lead on from manager to manager, and their numbers nowhere. -/
theorem resolve_safe_contacts :
    Sample.contacts.validate = .ok () ∧
    ∃ catalog first loaded, Catalog.ofSchema Sample.contacts = .ok catalog ∧
      Scope.start "Contact" catalog = (.ok first, loaded) ∧
      Accounted (catalog.definitionFor Sample.contact) "Person" "manager.id.id"
        (resolve "manager.id.id" (resolve "manager.manager.id" first).2).1 := by
  have valid : Sample.contacts.validate = .ok () := rfl
  obtain ⟨catalog, built, safe⟩ := resolve_safe valid
  have held : Keyed.find? catalog.entities "Contact" = some Sample.contact := by
    obtain rfl := Except.ok.inj ((Catalog.ofSchema_of_valid valid).symm.trans built)
    rfl
  obtain ⟨first, loaded, started, accounted⟩ := safe "Contact" Sample.contact "id" held rfl
  exact ⟨valid, catalog, first, loaded, built, started,
    (accounted _ (.resolve "manager.manager.id" .first) "manager.id.id").1⟩

end Resolve

end EntitySearch
