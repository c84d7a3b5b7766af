import Mathlib.Data.List.TakeWhile
import EntitySearch.Proofs.Compilation
import EntitySearch.Proofs.Cursor
import EntitySearch.Proofs.DateText

/-! Listings: searches in the order of one attribute of the root.

A listing, its first page and its pages behind a cursor compile to one plan,
except that pages have a limit and that a cursor adds its condition.
-/

set_option autoImplicit false

namespace EntitySearch

namespace Text

structure Plain (name : String) : Prop where
  nonempty : name ≠ ""
  trimmed : trim name = name
  undotted : '.' ∉ name.toList

theorem Plain.solid {name : String} (plain : Plain name) : isBlankText name = false := by
  cases blank : isBlankText name with
  | false => rfl
  | true =>
    have empty : trim name = "" := by
      rw [trim, trimChars_of_blank blank]
    exact absurd (plain.trimmed.symm.trans empty) plain.nonempty

theorem Plain.segments {name : String} (plain : Plain name) : Text.segments name = [name] :=
  segments_of_clean plain.undotted

end Text

open Text (Plain)

variable {b : Base} {s : Scope}

def Resolved.ofRoot (name : String) (type : FieldType) : Resolved := ⟨⟨.root, [name], name⟩, type⟩

/-- A path that leads to an attribute from every scope and crosses nothing. -/
def Finds (b : Base) (path : String) (r : Resolved) : Prop :=
  ∀ s : Scope, s.Sound b →
    ∃ t, Resolve.resolve path s = (.ok r, t) ∧ t.Sound b ∧ t.crossed = s.crossed

theorem finds_plain {name : String} {type : FieldType} (plain : Plain name)
    (root : b.definition b.root.name = .ok b.root)
    (declared : (b.root.field? name).map Attribute.type = some type) :
    Finds b name (.ofRoot name type) := by
  obtain ⟨a, found, rfl⟩ := Option.map_eq_some_iff.mp declared
  have located : b.locate name = ([], .ok fun _ => .ofRoot name a.type) := by
    have type : b.attributeType b.root.name name = .ok a.type := by
      simp [Base.attributeType, root, found]
    simp [Base.locate, plain.trimmed, plain.segments, plain.solid, Base.walk, Base.rootSpot, bind,
      Except.bind, type, pure, Except.pure]
    rfl
  intro s sound
  obtain ⟨t, ran, sound', crossed⟩ := Resolve.resolve_run name sound (Numbering.of_positions _)
  rw [located] at ran crossed
  exact ⟨t, ran, sound', crossed⟩

theorem Scope.finds_identifier {entity : String} {catalog loaded : Catalog}
    (started : Scope.start entity catalog = (.ok s, loaded))
    (valid : Schema.validateIdentity s.root = .ok ()) (plain : Plain s.identifier) :
    ∃ type, Finds s.base s.base.identifier (.ofRoot s.base.identifier type) := by
  obtain ⟨-, identity, types, -⟩ := Scope.start_ok started
  have own : s.base.definition s.base.root.name = .ok s.base.root := by
    simp [Scope.base, Scope.definition, types, Keyed.find?]
  obtain ⟨a, declared⟩ : ∃ a, s.root.field? s.identifier = some a := by
    simp only [Schema.validateIdentity, identity] at valid
    split at valid
    · next found => exact Option.isSome_iff_exists.mp found
    · cases valid
  have found : (s.base.root.field? s.base.identifier).map Attribute.type = some a.type :=
    congrArg (Option.map Attribute.type) declared
  exact ⟨a.type, finds_plain plain own found⟩

namespace Order

theorem splitKey_plain {name : String} (trimmed : Text.trim name = name)
    (uncalled : ':' ∉ name.toList) : splitKey name = (name, none) := by
  have solid : ∀ c ∈ name.toList, (c != ':') = true := by
    intro c held
    simp only [bne_iff_ne, ne_eq]
    rintro rfl
    exact uncalled held
  have whole : name.toList.takeWhile (· != ':') = name.toList :=
    List.takeWhile_eq_self_iff.mpr solid
  have nothing : name.toList.dropWhile (· != ':') = [] := List.dropWhile_eq_nil_iff.mpr solid
  simp only [splitKey, whole, nothing, String.ofList_toList, trimmed]

theorem terms_plain {name : String} {r : Resolved} (d : Direction) (finds : Finds b name r)
    (trimmed : Text.trim name = name) (uncalled : ':' ∉ name.toList) (sound : s.Sound b) :
    ∃ t, terms [(name, d)] s = ([⟨r.expr, d⟩], t) ∧ t.Sound b ∧ t.crossed = s.crossed := by
  obtain ⟨t, found, rest⟩ := finds s sound
  have compiled : term name d s = (.ok ⟨r.expr, d⟩, t) := by
    unfold term
    rw [splitKey_plain trimmed uncalled]
    exact run_bind_ok found
  exact ⟨t, state_bind (x := (term name d).outcome) compiled, rest⟩

theorem stableOr_stable {terms : List OrderTerm}
    (stands : (terms.any fun t => isIdentifier s.identifier t.expr) = true) :
    stableOr terms s = (terms, s) := by
  have same : stable terms s = (.ok terms, s) := by
    unfold stable
    rw [run_get_bind]
    simp only [stands, if_true]
    rfl
  exact state_bind (x := (stable terms).outcome) same

theorem isIdentifier_ofRoot (identifier name : String) (type : FieldType) :
    isIdentifier identifier (Resolved.ofRoot name type).expr = (name == identifier) := by
  simp [isIdentifier, Resolved.expr, Resolved.ofRoot]

variable {name : String} {type idType : FieldType} {d : Direction}

theorem stableOr_ofRoot (finds : Finds b b.identifier (.ofRoot b.identifier idType))
    (sound : s.Sound b) :
    ∃ t, stableOr [⟨(Resolved.ofRoot name type).expr, d⟩] s =
        (Keyset.ordering d (.ofRoot name type) (.ofRoot b.identifier idType), t) ∧
      t.Sound b ∧ t.crossed = s.crossed := by
  have named : s.identifier = b.identifier := congrArg Base.identifier sound.base
  -- By the identifier itself nothing is added, neither here nor behind a cursor.
  by_cases same : name = b.identifier
  · refine ⟨s, ?_, sound, rfl⟩
    rw [stableOr_stable (by simp [isIdentifier_ofRoot, named, same])]
    simp [Keyset.ordering, Resolved.ofRoot, same]
  · obtain ⟨t, found, rest⟩ := finds s sound
    refine ⟨t, ?_, rest⟩
    have added : stable [⟨(Resolved.ofRoot name type).expr, d⟩] s =
        (.ok (Keyset.ordering d (.ofRoot name type) (.ofRoot b.identifier idType)), t) := by
      unfold stable
      rw [run_get_bind]
      simp only [List.any_cons, List.any_nil, isIdentifier_ofRoot, named, beq_iff_eq, same,
        Bool.or_false, if_false]
      refine (run_bind_ok found).trans ?_
      simp [Keyset.ordering, Resolved.ofRoot, same]
      rfl
    exact state_bind (x := (stable _).outcome) added

end Order

/-- Values of an attribute that are read back from their JSON. -/
def Value.Fits : ScalarType → Value → Prop
  | .int64, .int i => Number.int64? i = some i
  | .string, .string _ => True
  | _, _ => False

theorem Value.Fits.kind (type : ScalarType) :
    ∃ κ : Kind, ∀ v : Value, v.Fits type → v.kind? = some κ := by
  cases type with
  | int64 =>
    refine ⟨.int, ?_⟩
    intro v fits
    cases v <;> first | rfl | cases fits
  | string =>
    refine ⟨.string, ?_⟩
    intro v fits
    cases v <;> first | rfl | cases fits
  | _ => exact ⟨.bool, fun v fits => by cases v <;> cases fits⟩

theorem Coercion.readOrKeep_toJson (dates : DateSettings) (comparator : Comparator)
    {type : ScalarType} {v : Value} (fits : v.Fits type) :
    readOrKeep dates (.verbatim comparator) (.scalar type) v.toJson = v := by
  unfold Value.Fits at fits
  split at fits
  · next i =>
    have whole : Text.trimChars (Number.intChars i) = Number.intChars i :=
      Text.trimChars_of_solid (Number.intChars_solid i)
    simp [readOrKeep, read, Value.toJson, Json.isNull, literalText?, Json.numberText, ofText?,
      scalar?, whole, int?, Number.intText, Number.readInt?_intChars, fits]
  · simp [readOrKeep, read, Value.toJson, Json.isNull, literalText?, ofText?, scalar?,
      Reading.verbatim, Reading.normalize, Reading.normalizeChars]
  · cases fits

theorem Keyset.readValue_toJson (settings : CompilerSettings) (cursor : Cursor) {r : Resolved}
    {type : ScalarType} {v : Value} (typed : r.type = .scalar type) (fits : v.Fits type) :
    readValue settings cursor r v.toJson = v := by
  unfold readValue reading
  rw [typed]
  cases cursor.direction with
  | asc => exact Coercion.readOrKeep_toJson settings.dates .gt fits
  | desc => exact Coercion.readOrKeep_toJson settings.dates .lt fits

theorem Value.Fits.present {type : ScalarType} {v : Value} (fits : v.Fits type) :
    v.toJson.isNull = false := by
  unfold Value.Fits at fits
  split at fits
  · rfl
  · rfl
  · cases fits

namespace Criteria

variable (entity : String) (filters : Keyed Condition) (name : String) (d : Direction)

def listing : Criteria := { entity, filters, orders := [(name, d)] }

def paged (c : Criteria) (n : Nat) : Criteria := { c with pageSize := some n }

def behind (c : Criteria) (identifier : String) (r : Record) : Criteria :=
  { c.withSeek name d (r.read [name]).toJson with
    cursorIdValue := some (r.read [identifier]).toJson }

variable {name d}

theorem cursor_behind (c : Criteria) {identifier : String} {r : Record}
    (solid : Text.isBlankText name = false) : (c.behind name d identifier r).cursor =
      .ok (some ⟨name, d, (r.read [name]).toJson, some (r.read [identifier]).toJson⟩) := by
  simp [cursor, behind, withSeek, required, Option.filter, solid, bind, Except.bind, pure,
    Except.pure]

end Criteria

namespace Plan

def listing (b : Base) (joins : List Join) (filters : List Predicate) (terms : List OrderTerm)
    (size : Option Nat) (seek : Option Predicate) : Plan where
  root := b.root.name
  identifier := b.identifier
  joins
  projection := .entity
  filters
  seek
  orderBy := terms
  distinct := true
  limit := size

variable {settings : CompilerSettings} {t u v w : Scope}

theorem inScope_listing {c : Criteria} {filters : List Predicate} {requested terms : List OrderTerm}
    {keyset : Option (Predicate × List OrderTerm)} (functions : c.functions = [])
    (columns : c.columns = []) (ungrouped : c.groupBy = []) (distinct : c.distinct = true)
    (first : c.first = none) (many : c.singleResult = false)
    (filtered : Filter.all settings c.filters s = (filters, t))
    (sought : Keyset.ofCriteria settings c t = (keyset, u))
    (asked : requestedOrder c keyset u = (requested, v))
    (ordered : Order.stableOr requested v = (terms, w)) (sound : t.Sound b)
    (sound' : w.Sound b) (crossed : w.crossed = t.crossed) :
    (inScope settings c s).1 =
      listing b t.joins filters terms c.pageSize (keyset.map (·.1)) := by
  have projecting : Selecting.projection c s = (.entity, s) := by
    simp [Selecting.projection, functions, columns, Selecting.columns]
    rfl
  have whole : asksForGroups c .entity = false := by
    simp [asksForGroups, ungrouped, Projection.hasAggregate, Projection.selections]
  have grouping : Selecting.groupBy c.groupBy w = ([], w) := by
    rw [ungrouped]
    rfl
  have joins : w.joins = t.joins := sound'.joins_eq sound crossed
  have root : w.root = b.root := congrArg Base.root sound'.base
  have identifier : w.identifier = b.identifier := congrArg Base.identifier sound'.base
  have offset : (if keyset.isSome then none else c.first) = none := by
    rw [first]
    exact ite_self none
  rw [inScope_eq, state_bind projecting, state_bind filtered, state_bind sought, state_bind asked,
    whole, state_bind (x := finalOrder false requested) ordered, state_bind grouping]
  show assemble c _ _ _ _ _ w = _
  simp only [assemble, listing, joins, root, identifier, offset, distinct, many]

end Plan

/-- An attribute of the root to sort by, and behind it the identifier. -/
structure SortKey (b : Base) where
  name : String
  type : ScalarType
  idType : ScalarType
  plain : Plain name
  uncalled : ':' ∉ name.toList
  finds : Finds b name (.ofRoot name (.scalar type))
  findsId : Finds b b.identifier (.ofRoot b.identifier (.scalar idType))

namespace SortKey

variable (k : SortKey b) (d : Direction)

def field : Resolved := .ofRoot k.name (.scalar k.type)

def id : Resolved := .ofRoot b.identifier (.scalar k.idType)

def order : List OrderTerm := Keyset.ordering d k.field k.id

def behind (r : Record) : Predicate :=
  Keyset.behind d k.field k.id (r.read [k.name]) (r.read [b.identifier])

variable {settings : CompilerSettings} {conditions : Keyed Condition} {filters : List Predicate}
  {t : Scope}

theorem inScope_page (entity : String) (size : Option Nat)
    (filtered : Filter.all settings conditions s = (filters, t)) (sound : t.Sound b) :
    (Plan.inScope settings
        { Criteria.listing entity conditions k.name d with pageSize := size } s).1 =
      Plan.listing b t.joins filters (k.order d) size none := by
  obtain ⟨u, requested, soundU, crossed⟩ :=
    Order.terms_plain d k.finds k.plain.trimmed k.uncalled sound
  obtain ⟨v, ordered, soundV, crossed'⟩ :
      ∃ v, Order.stableOr [⟨(Resolved.ofRoot k.name (.scalar k.type)).expr, d⟩] u =
        (k.order d, v) ∧ _ := Order.stableOr_ofRoot k.findsId soundU
  have unsought : Keyset.ofCriteria settings
      { Criteria.listing entity conditions k.name d with pageSize := size } t = (none, t) := rfl
  exact Plan.inScope_listing rfl rfl rfl rfl rfl rfl filtered unsought requested ordered sound
    soundV (crossed'.trans crossed)

/-- A page behind a record has the condition to stand behind it. -/
theorem inScope_behind (entity : String) (n : Nat) {r : Record}
    (fits : (r.read [k.name]).Fits k.type) (fitsId : (r.read [b.identifier]).Fits k.idType)
    (filtered : Filter.all settings conditions s = (filters, t)) (sound : t.Sound b) :
    (Plan.inScope settings (((Criteria.listing entity conditions k.name d).paged n).behind k.name d
        b.identifier r) s).1 =
      Plan.listing b t.joins filters (k.order d) (some n) (some (k.behind d r)) := by
  obtain ⟨u, found, soundU, crossed⟩ := k.finds t sound
  obtain ⟨v, identified, soundV, crossed'⟩ := k.findsId u soundU
  let cursor : Cursor :=
    ⟨k.name, d, (r.read [k.name]).toJson, some (r.read [b.identifier]).toJson⟩
  have named : ∀ x : Scope, x.Sound b → x.identifier = b.identifier :=
    fun x sound' => congrArg Base.identifier sound'.base
  have asked : Resolve.resolve t.identifier u = (.ok k.id, v) := by
    rw [named t sound]
    exact identified
  obtain ⟨w, compiled, soundW, crossed''⟩ : ∃ w, Keyset.both settings cursor t = _ ∧ _ :=
    Keyset.both_run sound found asked rfl fitsId.present
  rw [Keyset.readValue_toJson settings cursor rfl fits,
    Keyset.readValue_toJson settings cursor rfl fitsId] at compiled
  let c : Criteria :=
    ((Criteria.listing entity conditions k.name d).paged n).behind k.name d b.identifier r
  have sought : Keyset.ofCriteria settings c t = (some (k.behind d r, k.order d), w) := by
    unfold Keyset.ofCriteria
    rw [Criteria.cursor_behind _ k.plain.solid]
    exact (state_bind (x := (Keyset.both settings cursor).outcome) compiled).trans rfl
  -- The order of a cursor holds the identifier already.
  have stands : (k.order d).any (fun t => Order.isIdentifier w.identifier t.expr) = true := by
    rw [named w soundW]
    unfold order Keyset.ordering
    split
    · next same =>
      have name : k.name = b.identifier := congrArg FieldRef.qualified same
      simp [field, Order.isIdentifier_ofRoot, name]
    · simp [id, Order.isIdentifier_ofRoot]
  have requested : Plan.requestedOrder c (some (k.behind d r, k.order d)) w = (k.order d, w) := rfl
  exact Plan.inScope_listing rfl rfl rfl rfl rfl rfl filtered sought requested
    (Order.stableOr_stable stands) sound soundW (crossed''.trans (crossed'.trans crossed))

end SortKey

end EntitySearch
