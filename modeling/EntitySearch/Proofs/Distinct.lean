import EntitySearch.Proofs.Execution

/-! Distinct searches.

When records carry pairwise different identifiers, a distinct search finds every
record that matches, once, however many rows the joins make of it, unless there
are too many rows for an order that does not rank them. Counting finds as many.
-/

set_option autoImplicit false

namespace EntitySearch

/-- Every record carries the identifier, with pairwise different values of one kind. -/
def Identified {α : Type} (wrap : α → Value) (identifier : String) (stored : List Record) : Prop :=
  ∃ ids : List α, ids.Nodup ∧
    stored.map (Keyed.find? · identifier) = ids.map fun id => some (wrap id)

namespace Identified

variable {α : Type} {wrap : α → Value} {identifier : String} {stored : List Record}

theorem find (h : Identified wrap identifier stored) {r : Record} (held : r ∈ stored) :
    ∃ id, Keyed.find? r identifier = some (wrap id) := by
  obtain ⟨ids, -, same⟩ := h
  have found : Keyed.find? r identifier ∈ ids.map fun id => some (wrap id) :=
    same ▸ List.mem_map_of_mem held
  obtain ⟨id, -, value⟩ := List.mem_map.mp found
  exact ⟨id, value.symm⟩

theorem nodup (h : Identified wrap identifier stored) (inj : Function.Injective wrap) :
    (stored.map (Keyed.find? · identifier)).Nodup := by
  obtain ⟨ids, different, same⟩ := h
  rw [same]
  exact different.map fun a b equal => inj (Option.some.inj equal)

theorem inj (h : Identified wrap identifier stored) (inj : Function.Injective wrap) {a b : Record}
    (left : a ∈ stored) (right : b ∈ stored)
    (same : Keyed.find? a identifier = Keyed.find? b identifier) : a = b :=
  List.inj_on_of_nodup_map (h.nodup inj) left right same

end Identified

structure Value.Exact {α : Type} (wrap : α → Value) : Prop where
  inj : Function.Injective wrap
  equals : ∀ a b, (wrap a).equals (wrap b) = true ↔ a = b

theorem Value.exact_int : Value.Exact Value.int where
  inj _ _ := Value.int.inj
  equals a b := by simp [Value.equals, Value.isNumeric, Value.compare?]

theorem Value.exact_string : Value.Exact Value.string where
  inj _ _ := Value.string.inj
  equals a b := by simp [Value.equals, Value.isNumeric, Value.same]

namespace Plan

variable {α : Type} {wrap : α → Value} {p : Plan} {stored : List Record}

theorem sameEntity_iff (exact : Value.Exact wrap) (h : Identified wrap p.identifier stored)
    {a b : Record} (left : a ∈ stored) (right : b ∈ stored) : p.sameEntity a b = true ↔ a = b := by
  obtain ⟨i, first⟩ := h.find left
  obtain ⟨j, second⟩ := h.find right
  simp only [sameEntity, first, second, exact.equals]
  constructor
  · rintro rfl
    exact h.inj exact.inj left right (first.trans second.symm)
  · rintro rfl
    exact exact.inj (Option.some.inj (first.symm.trans second))

theorem mem_ranked_roots {roots : List Record} {r : Record} :
    r ∈ (p.ranked roots).map Row.root ↔ r ∈ roots ∧ p.Matches r := by
  rw [← mem_roots]
  exact ((stableSort_perm (p.matched roots)).map Row.root).mem_iff

/-- Without repetitions, the roots of the rows are the records that match, once each. -/
theorem dedupe_nodup (exact : Value.Exact wrap) (h : Identified wrap p.identifier stored)
    (entity : p.projection = .entity) (distinct : p.distinct = true) :
    (p.dedupe ((p.ranked stored).map Row.root)).Nodup ∧
      ∀ r, r ∈ p.dedupe ((p.ranked stored).map Row.root) ↔ r ∈ stored ∧ p.Matches r := by
  have same : ∀ a ∈ (p.ranked stored).map Row.root, ∀ b ∈ (p.ranked stored).map Row.root,
      p.repeats a b = true ↔ a = b := by
    intro a left b right
    simp only [repeats, entity, Projection.isTuple, Bool.false_eq_true, if_false]
    exact sameEntity_iff exact h (mem_ranked_roots.mp left).1 (mem_ranked_roots.mp right).1
  obtain ⟨nodup, kept⟩ := keepFirst_nodup same
  simp only [dedupe, distinct, if_true]
  exact ⟨nodup, fun r => (kept r).trans mem_ranked_roots⟩

theorem dedupe_perm (exact : Value.Exact wrap) (h : Identified wrap p.identifier stored)
    (entity : p.projection = .entity) (distinct : p.distinct = true) :
    (p.dedupe ((p.ranked stored).map Row.root)).Perm (stored.filter fun r => p.Matches r) := by
  obtain ⟨nodup, kept⟩ := dedupe_nodup exact h entity distinct
  have once : stored.Nodup := (h.nodup exact.inj).of_map
  apply (List.perm_ext_iff_of_nodup nodup (once.filter _)).mpr
  intro r
  rw [kept]
  simp

theorem mem_matched_ids {v : Value} :
    v ∈ ((p.matched stored).map fun row => p.idOf row.root) ↔
      v ∈ (stored.filter fun r => p.Matches r).map p.idOf := by
  constructor
  · intro counted
    obtain ⟨row, kept, rfl⟩ := List.mem_map.mp counted
    have matched := mem_roots.mp (List.mem_map_of_mem kept)
    exact List.mem_map_of_mem (by simpa using matched)
  · intro found
    obtain ⟨r, there, rfl⟩ := List.mem_map.mp found
    have matched : r ∈ stored ∧ p.Matches r := by simpa using there
    obtain ⟨row, kept, rfl⟩ := List.mem_map.mp (mem_roots.mpr matched)
    exact List.mem_map.mpr ⟨row, kept, rfl⟩

theorem equals_ids (exact : Value.Exact wrap) (h : Identified wrap p.identifier stored)
    {a b : Record} (left : a ∈ stored) (right : b ∈ stored) :
    (p.idOf a).equals (p.idOf b) = true ↔ p.idOf a = p.idOf b := by
  obtain ⟨i, first⟩ := h.find left
  obtain ⟨j, second⟩ := h.find right
  simp only [idOf, first, second, Option.getD_some, exact.equals, exact.inj.eq_iff]

theorem ids_nodup (exact : Value.Exact wrap) (h : Identified wrap p.identifier stored) :
    (stored.map p.idOf).Nodup := by
  have identity : ∀ r ∈ stored, Keyed.find? r p.identifier = some (p.idOf r) := by
    intro r held
    obtain ⟨id, found⟩ := h.find held
    simp [idOf, found]
  have different := h.nodup exact.inj
  rw [List.map_congr_left identity] at different
  have wrapped : stored.map (fun r => some (p.idOf r)) = (stored.map p.idOf).map some := by simp
  exact (wrapped ▸ different).of_map

theorem countRows_distinct (exact : Value.Exact wrap) (h : Identified wrap p.identifier stored) :
    p.countRows true (p.matched stored) = stored.countP fun r => p.Matches r := by
  have same : ∀ v ∈ (p.matched stored).map fun row => p.idOf row.root,
      ∀ w ∈ (p.matched stored).map fun row => p.idOf row.root, v.equals w = true ↔ v = w := by
    intro v left w right
    obtain ⟨a, held, rfl⟩ := List.mem_map.mp (mem_matched_ids.mp left)
    obtain ⟨b, held', rfl⟩ := List.mem_map.mp (mem_matched_ids.mp right)
    exact equals_ids exact h (List.mem_of_mem_filter held) (List.mem_of_mem_filter held')
  obtain ⟨nodup, kept⟩ := keepFirst_nodup same
  have once : ((stored.filter fun r => p.Matches r).map p.idOf).Nodup :=
    (ids_nodup exact h).sublist (List.filter_sublist.map p.idOf)
  have perm : (keepFirst Value.equals [] ((p.matched stored).map fun row => p.idOf row.root)).Perm
      ((stored.filter fun r => p.Matches r).map p.idOf) := by
    apply (List.perm_ext_iff_of_nodup nodup once).mpr
    intro v
    rw [kept]
    exact mem_matched_ids
  simp only [countRows, if_true, perm.length_eq, List.length_map, List.countP_eq_length_filter]

/-- A distinct search whose rows can be sorted returns every record that matches once, and counting
counts them. -/
theorem distinct_search {settings : CompilerSettings} {c : Criteria} {catalog after : Catalog}
    (compiled : ofCriteria settings c catalog = (.ok p, after)) (entity : p.projection = .entity)
    (distinct : c.distinct = true) (ungrouped : p.groupBy = []) (first : c.first = none)
    (pageSize : c.pageSize = none) (tables : Tables)
    (identified : Identified Value.int p.identifier (tables.records p.root) ∨
      Identified Value.string p.identifier (tables.records p.root)) :
    ((∃ found, p.execute tables = .ok (.entities found) ∧
        found.Perm ((tables.records p.root).filter fun r => p.Matches r)) ↔
      Sortable p.precedes (p.matched (tables.records p.root))) ∧
    (∀ result, p.execute tables = .ok result → ∃ found, result = .entities found ∧
      found.Perm ((tables.records p.root).filter fun r => p.Matches r)) ∧
    ∃ q later, countOfCriteria settings c catalog = (.ok q, later) ∧
      q.execute tables = .ok (.count ((tables.records p.root).countP fun r => q.Matches r)) := by
  obtain ⟨s, loaded, started, serves⟩ := ofCriteria_serves compiled
  have counts := countInScope_counts settings c (Scope.start_sound started)
  obtain ⟨α, wrap, exact, identified⟩ : ∃ (α : Type) (wrap : α → Value), Value.Exact wrap ∧
      Identified wrap p.identifier (tables.records p.root) := by
    rcases identified with whole | text
    · exact ⟨Int, Value.int, Value.exact_int, whole⟩
    · exact ⟨String, Value.string, Value.exact_string, text⟩
  have sorts : p.Sorts (tables.records p.root) ↔
      Sortable p.precedes (p.matched (tables.records p.root)) :=
    sorts_entity_iff entity ungrouped _
  have answers : p.Sorts (tables.records p.root) → ∃ found,
      p.execute tables = .ok (.entities found) ∧
        found.Perm ((tables.records p.root).filter fun r => p.Matches r) := by
    intro sorted
    refine ⟨_, execute_entity serves.total entity ungrouped tables sorted, ?_⟩
    have offset : p.offset = none := by
      rcases serves.offset with none | same
      · exact none
      · exact same.trans first
    have limit : p.limit = none := serves.limit.trans pageSize
    rw [page_uncut offset limit]
    exact dedupe_perm exact identified entity (serves.distinct.trans distinct)
  refine ⟨⟨?_, fun sortable => answers (sorts.mpr sortable)⟩, ?_, ?_⟩
  · rintro ⟨found, ran, -⟩
    exact sorts.mp (sorts_of_execute serves.total ran)
  · intro result ran
    obtain ⟨found, ran', perm⟩ := answers (sorts_of_execute serves.total ran)
    exact ⟨found, Except.ok.inj (ran.symm.trans ran'), perm⟩
  · refine ⟨_, _, withScope_start started, ?_⟩
    generalize (countInScope settings c s).1 = q at counts
    have root : q.root = p.root := counts.root.trans serves.root.symm
    have identifier : q.identifier = p.identifier := counts.identifier.trans serves.identifier.symm
    rw [← identifier] at identified
    have run : q.execute tables =
        .ok (.count (q.countRows c.distinct (q.matched (tables.records q.root)))) := by
      simp only [execute, matchedRows_ok counts.total, counts.projection, bind, Except.bind, pure,
        Except.pure]
    rw [run, root, distinct, countRows_distinct exact identified]

end Plan

/-! People with tags, some of them in a city. -/

namespace Sample

def person : Entity where
  name := "Person"
  identity := some "id"
  fields := [⟨"id", .scalar .int64⟩, ⟨"name", .scalar .string⟩, ⟨"city", .relation "City" .toOne⟩,
    ⟨"tags", .relation "Tag" .toMany⟩]

def city : Entity := ⟨"City", some "id", [⟨"id", .scalar .int64⟩, ⟨"name", .scalar .string⟩]⟩

def tag : Entity := ⟨"Tag", none, [⟨"label", .scalar .string⟩]⟩

def catalog : Catalog where
  entities := [("Person", person), ("City", city), ("Tag", tag)]

def scope : Scope where
  catalog
  root := person
  identifier := "id"
  types := [("Person", person)]

def tags (labels : List String) : Value :=
  .list (labels.map fun label => .object [("label", .string label)])

def tables : Tables :=
  [("Person", [
    [("id", .int 1), ("name", .string "Ann"), ("tags", tags ["north", "south"]),
      ("city", .object [("id", .int 1), ("name", .string "Oslo")])],
    [("id", .int 2), ("name", .string "Bob"), ("tags", tags ["west"])],
    [("id", .int 3), ("name", .string "Ann"), ("tags", tags ["south"])]])]

def everyone : Criteria where
  entity := "Person"

def tagged : Criteria where
  entity := "Person"
  filters := [("tags.label",
    ⟨.isIn, [.literal (.string "north"), .literal (.string "south")], false, false⟩)]

def taggedPlan : Plan where
  root := "Person"
  identifier := "id"
  joins := [⟨0, .root, ["tags"], "Tag", "tags"⟩]
  projection := .entity
  filters := [.isIn (.field ⟨.join 0, ["label"], "tags.label"⟩)
    [.string "north", .string "south"] false]
  orderBy := [⟨.field ⟨.root, ["id"], "id"⟩, .asc⟩]
  distinct := true

theorem identified :
    Identified Value.int taggedPlan.identifier (tables.records taggedPlan.root) :=
  ⟨[1, 2, 3], by decide, by cbv⟩

theorem tagged_sortable :
    Sortable taggedPlan.precedes (taggedPlan.matched (tables.records "Person")) := by
  left
  decide +kernel

/-! A sensor with more readings than are sorted by insertion, of which one failed. -/

def sensor : Entity :=
  ⟨"Sensor", some "id", [⟨"id", .scalar .int64⟩, ⟨"log", .relation "Reading" .toMany⟩]⟩

def reading : Entity := ⟨"Reading", none, [⟨"level", .scalar .float64⟩]⟩

def sensors : Catalog where
  entities := [("Sensor", sensor), ("Reading", reading)]

/-- What is no number ties with every level. -/
def levels : List Value :=
  [2, 1, 2, 1, 2, 1, 2, 1, 2, 1, 2].map .int ++ .float (0 / 0) :: List.replicate 10 (.int 0)

def sensorRecord : Record :=
  [("id", .int 1), ("log", .list (levels.map fun level => .object [("level", level)]))]

def sensorTables : Tables := [("Sensor", [sensorRecord])]

def byLevel : Criteria where
  entity := "Sensor"
  orders := [("log.level", .asc)]

def byLevelPlan : Plan where
  root := "Sensor"
  identifier := "id"
  joins := [⟨0, .root, ["log"], "Reading", "log"⟩]
  projection := .entity
  filters := []
  orderBy := [⟨.field ⟨.join 0, ["level"], "log.level"⟩, .asc⟩,
    ⟨.field ⟨.root, ["id"], "id"⟩, .asc⟩]
  distinct := true

theorem byLevel_unsorted : ¬byLevelPlan.Sorts (sensorTables.records "Sensor") := by
  rw [Plan.sorts_entity_iff rfl rfl, Sortable, ← isRanked_iff]
  decide +kernel

end Sample

namespace Plan

/-- Two people have one of the tags, one of them has both. -/
theorem distinct_search_tagged :
    (∃ found, Sample.taggedPlan.execute Sample.tables = .ok (.entities found) ∧
      found.Perm ((Sample.tables.records Sample.taggedPlan.root).filter fun r =>
        Sample.taggedPlan.Matches r)) ∧
    ∃ q later, countOfCriteria {} Sample.tagged Sample.catalog = (.ok q, later) ∧
      q.execute Sample.tables =
        .ok (.count ((Sample.tables.records Sample.taggedPlan.root).countP fun r =>
          q.Matches r)) := by
  have compiled : ofCriteria {} Sample.tagged Sample.catalog =
      (.ok Sample.taggedPlan, Sample.catalog) := rfl
  obtain ⟨found, -, counted⟩ :=
    distinct_search compiled rfl rfl rfl rfl rfl Sample.tables (.inl Sample.identified)
  exact ⟨found.mpr Sample.tagged_sortable, counted⟩

example : (Sample.tables.records "Person").countP (fun r => Sample.taggedPlan.Matches r) = 2 := by
  decide +kernel

/-- The levels of one sensor have no order, and the search for it no result. -/
theorem distinct_search_unranked :
    ofCriteria {} Sample.byLevel Sample.sensors = (.ok Sample.byLevelPlan, Sample.sensors) ∧
      Sample.byLevelPlan.projection = .entity ∧ Sample.byLevel.distinct = true ∧
      Sample.byLevelPlan.groupBy = [] ∧ Sample.byLevel.first = none ∧
      Sample.byLevel.pageSize = none ∧
      Identified Value.int "id" (Sample.sensorTables.records "Sensor") ∧
      (Sample.sensorTables.records "Sensor").filter (fun r => Sample.byLevelPlan.Matches r) =
        [Sample.sensorRecord] ∧
      Sample.byLevelPlan.execute Sample.sensorTables = .error (.execution .unspecifiedOrder) := by
  have compiled : ofCriteria {} Sample.byLevel Sample.sensors =
      (.ok Sample.byLevelPlan, Sample.sensors) := rfl
  obtain ⟨s, loaded, started, serves⟩ := ofCriteria_serves compiled
  refine ⟨compiled, rfl, rfl, rfl, rfl, rfl, ⟨[1], by decide, rfl⟩, ?_,
    execute_unsorted serves.total Sample.byLevel_unsorted⟩
  rw [show Sample.sensorTables.records "Sensor" = [Sample.sensorRecord] from rfl,
    List.filter_eq_self]
  intro r held
  obtain rfl := List.mem_singleton.mp held
  decide +kernel

end Plan

end EntitySearch
