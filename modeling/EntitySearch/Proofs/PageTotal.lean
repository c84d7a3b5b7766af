import EntitySearch.Proofs.Counting
import EntitySearch.Service.Basic

/-! The total of a page.

A page comes with a total, which is counted behind the search, with what the
search has loaded. It is the size of all pages together exactly when the search
reaches the entity of every record that the filters match.
-/

set_option autoImplicit false

namespace EntitySearch

variable {b : Base}

def Criteria.whole (c : Criteria) : Criteria :=
  { c with first := none, pageSize := none, singleResult := false }

namespace Plan

variable {settings : CompilerSettings} {c : Criteria} {s : Scope}

theorem inScope_whole (settings : CompilerSettings) (c : Criteria) (s : Scope) :
    (inScope settings c.whole s).1 =
      { (inScope settings c s).1 with offset := none, limit := none, single := false } := by
  rw [inScope_eq, inScope_eq]
  have same : ∀ projection filters keyset orderBy groupBy scope,
      assemble c.whole projection filters keyset orderBy groupBy scope =
        { assemble c projection filters keyset orderBy groupBy scope with
          offset := none, limit := none, single := false } := by
    intros
    simp [assemble, Criteria.whole]
  exact same _ _ _ _ _ _

theorem sorts_whole {stored : List Record} :
    (inScope settings c.whole s).1.Sorts stored ↔ (inScope settings c s).1.Sorts stored := by
  rw [inScope_whole]
  rfl

theorem entities_found (functions : c.functions = []) (columns : c.columns = [])
    (ungrouped : c.groupBy = []) (sound : s.Sound b) (tables : Tables)
    (sorts : (inScope settings c s).1.Sorts (tables.records (inScope settings c s).1.root)) :
    ∃ records, (inScope settings c s).1.execute tables = .ok (.entities records) :=
  ⟨_, execute_entity (inScope_serves settings c sound).total
    (inScope_extends settings (c := c) functions columns rfl sound).1
    (inScope_ungrouped settings ungrouped s) tables sorts⟩

/-- All pages together are as many records as are counted exactly when the entity of every record
that is counted is among them. -/
theorem whole_size (functions : c.functions = []) (columns : c.columns = [])
    (ungrouped : c.groupBy = []) (distinct : c.distinct = true) (sound : s.Sound b)
    {tables : Tables} {p q : Plan} (searched : (inScope settings c.whole s).1 = p)
    (counted : (countInScope settings c s).1 = q)
    (identifies : q.Identifies (tables.records q.root)) {records : List Record}
    (found : p.execute tables = .ok (.entities records)) {n : Nat}
    (total : q.count tables = .ok n) :
    n = records.length ↔ ∀ r ∈ tables.records q.root, q.Matches r →
      ∃ other ∈ tables.records q.root, p.Matches other ∧ q.sameEntity other r = true := by
  have serves := inScope_serves settings c.whole sound
  have counts := countInScope_counts settings c sound
  obtain ⟨entity, wider⟩ :=
    inScope_extends settings (c := c) (d := c.whole) functions columns rfl sound
  have apart := inScope_ungrouped settings (c := c.whole) ungrouped s
  rw [searched] at serves entity wider apart
  rw [counted] at counts wider
  have offset : p.offset = none := serves.offset.elim id id
  have limit : p.limit = none := serves.limit
  rw [execute_entity serves.total entity apart tables (sorts_of_execute serves.total found),
    page_uncut offset limit, wider.root] at found
  obtain rfl := ResultSet.entities.inj (Except.ok.inj found)
  rw [count_ok counts.total counts.projection, distinct] at total
  obtain rfl := Except.ok.inj total
  rw [eq_comm]
  exact identifies.length_eq_count_iff entity (serves.distinct.trans distinct) wider

end Plan

namespace Service

variable {service : Service} {c : Criteria} {p q : Plan} {after : Catalog}

theorem apply_length {mappers : Mappers} {entity : String} {records all : List Record}
    (mapped : mappers.apply entity records = .ok all) : all.length = records.length := by
  unfold Mappers.apply at mapped
  split at mapped
  · exact congrArg List.length (Except.ok.inj mapped).symm
  · exact (forall₂_of_mapM mapped).length_eq.symm

theorem mapEntities_size {mappers : Mappers} {entity : String} {records : List Record}
    {found : ResultSet} (mapped : mapEntities mappers c entity (.entities records) = .ok found) :
    found.size = records.length := by
  simp only [mapEntities] at mapped
  split at mapped
  · cases done : mappers.apply entity records with
    | error e =>
      rw [done] at mapped
      cases mapped
    | ok all =>
      rw [done] at mapped
      obtain rfl := Except.ok.inj mapped
      exact apply_length done
  · obtain rfl := Except.ok.inj mapped
    rfl

theorem inCatalog_run {α : Type} {lookup : Catalog.Lookup α} {a : α}
    (found : lookup service.catalog = (.ok a, after)) :
    inCatalog lookup service = (.ok a, { service with catalog := after }) := by
  simp only [inCatalog, found]
  rfl

theorem search_run (compiled : Plan.ofCriteria service.settings.compiler c service.catalog =
    (.ok p, after)) : search c service = (do
      let found ← (p.execute service.tables).mapError .query
      mapEntities service.mappers c p.root (if p.single then found.takeFirst else found),
      { service with catalog := after }) := by
  have plan : compile c service = (.ok p, { service with catalog := after }) := by
    simp only [compile, run_get_bind]
    exact inCatalog_run compiled
  unfold search
  rw [run_bind_ok plan, run_get_bind]
  cases (p.execute service.tables).mapError SearchError.query <;> rfl

theorem search_entities (compiled : Plan.ofCriteria service.settings.compiler c service.catalog =
    (.ok p, after)) {records : List Record}
    (executed : p.execute service.tables = .ok (.entities records)) :
    search c service = (mapEntities service.mappers c p.root
      (.entities (if p.single then records.take 1 else records)),
      { service with catalog := after }) := by
  rw [search_run compiled, executed]
  cases p.single <;> rfl

theorem count_run (compiled : Plan.countOfCriteria service.settings.compiler c service.catalog =
    (.ok q, after)) : count c service =
      ((q.count service.tables).mapError .query, { service with catalog := after }) := by
  unfold count
  rw [run_get_bind, run_bind_ok (inCatalog_run compiled), run_get_bind]
  rfl

/-- Behind the search, counting compiles to the same plan as before. -/
theorem searchPage_run (searched : Plan.ofCriteria service.settings.compiler c service.catalog =
    (.ok p, after)) {loaded : Catalog}
    (counted : Plan.countOfCriteria service.settings.compiler c service.catalog = (.ok q, loaded))
    {n : Nat} (total : q.count service.tables = .ok n) :
    ∃ left, searchPage c service = ((search c service).1.map (Page.mk · n), left) := by
  obtain ⟨outcome, ran⟩ : ∃ outcome, search c service =
      (outcome, { service with catalog := after }) := ⟨_, search_run searched⟩
  obtain ⟨later, again⟩ := Plan.countOfCriteria_again searched counted rfl
  have counts : count c { service with catalog := after } = _ := count_run again
  rw [total] at counts
  unfold searchPage
  rw [ran]
  cases outcome with
  | error e => exact ⟨_, run_bind_error ran⟩
  | ok items => exact ⟨_, (run_bind_ok ran).trans (run_bind_ok counts)⟩

theorem mapEntities_unmapped (unmapped : c.mapped = false) (mappers : Mappers) (entity : String)
    (records : List Record) :
    mapEntities mappers c entity (.entities records) = .ok (.entities records) := by
  simp only [mapEntities, unmapped, Bool.false_eq_true, if_false]

theorem sorts_of_search (compiled : Plan.ofCriteria service.settings.compiler c service.catalog =
    (.ok p, after)) (total : p.Total) {found : ResultSet} {left : Service}
    (answered : search c service = (.ok found, left)) :
    p.Sorts (service.tables.records p.root) := by
  have ran := (Prod.mk.inj ((search_run compiled).symm.trans answered)).1
  obtain ⟨all, executed, -⟩ := bind_ok_inv ran
  cases outcome : p.execute service.tables with
  | ok result => exact Plan.sorts_of_execute total outcome
  | error e =>
    rw [outcome] at executed
    cases executed

/-- The total of a page is the size of the whole search exactly when the search reaches the entity
of every record that the filters match. Both are found where the order ranks the rows. -/
theorem page_total {loaded : Catalog}
    (searched : Plan.ofCriteria service.settings.compiler c.whole service.catalog = (.ok p, after))
    (counted : Plan.countOfCriteria service.settings.compiler c service.catalog = (.ok q, loaded))
    (functions : c.functions = []) (columns : c.columns = []) (ungrouped : c.groupBy = [])
    (distinct : c.distinct = true) (identifies : q.Identifies (service.tables.records q.root)) :
    (c.mapped = false → Sortable p.precedes (p.matched (service.tables.records p.root)) →
      (∃ page left, searchPage c service = (.ok page, left)) ∧
      ∃ found left, search c.whole service = (.ok found, left)) ∧
    ∀ page found left left', searchPage c service = (.ok page, left) →
      search c.whole service = (.ok found, left') →
      (page.total = found.size ↔ ∀ r ∈ service.tables.records q.root, q.Matches r →
        ∃ other ∈ service.tables.records q.root, p.Matches other ∧ q.sameEntity other r = true) := by
  -- Searching and counting are compiled from one scope, as long as nothing is loaded between.
  obtain ⟨s, known, started, compiled⟩ := Plan.withScope_ok counted
  obtain ⟨t, known', started', compiled'⟩ := Plan.withScope_ok searched
  obtain rfl : s = t := Except.ok.inj (Prod.mk.inj (started.symm.trans started')).1
  have sound := Scope.start_sound started
  have counts := Plan.countInScope_counts service.settings.compiler c sound
  have serves := Plan.inScope_serves service.settings.compiler c.whole sound
  rw [compiled] at counts
  rw [compiled'] at serves
  have total := Plan.count_ok counts.total counts.projection service.tables
  obtain ⟨left, page⟩ := searchPage_run (Plan.withScope_start started) counted total
  have whole : p.Sorts (service.tables.records p.root) →
      ∃ records, p.execute service.tables = .ok (.entities records) := by
    rw [← compiled']
    exact Plan.entities_found (c := c.whole) functions columns ungrouped sound service.tables
  have searching : ∀ {records}, p.execute service.tables = .ok (.entities records) →
      search c.whole service = (mapEntities service.mappers c.whole p.root (.entities records),
        { service with catalog := after }) := by
    intro records executed
    have found := search_entities searched executed
    rwa [serves.single] at found
  constructor
  · intro unmapped sortable
    have entity := (Plan.inScope_extends service.settings.compiler (c := c) (d := c.whole) functions
      columns rfl sound).1
    have apart := Plan.inScope_ungrouped service.settings.compiler (c := c.whole) ungrouped s
    rw [compiled'] at entity apart
    have sorts := (Plan.sorts_entity_iff entity apart _).mpr sortable
    obtain ⟨records, executed⟩ := whole sorts
    rw [← compiled', Plan.sorts_whole, Plan.inScope_whole] at sorts
    obtain ⟨part, executed'⟩ :=
      Plan.entities_found functions columns ungrouped sound service.tables sorts
    have items := search_entities (Plan.withScope_start started) executed'
    rw [mapEntities_unmapped unmapped] at items
    rw [items] at page
    have all := searching executed
    rw [mapEntities_unmapped (c := c.whole) unmapped] at all
    exact ⟨⟨_, _, page⟩, _, _, all⟩
  · intro cut found _ _ answered answered'
    obtain ⟨records, executed⟩ := whole (sorts_of_search searched serves.total answered')
    have size := mapEntities_size (Prod.mk.inj ((searching executed).symm.trans answered')).1
    have answer := (Prod.mk.inj (page.symm.trans answered)).1
    cases items : (search c service).1 with
    | error e =>
      rw [items] at answer
      cases answer
    | ok some =>
      rw [items] at answer
      obtain rfl := Except.ok.inj answer
      rw [size]
      exact Plan.whole_size functions columns ungrouped distinct sound compiled' compiled identifies
        executed total

end Service

namespace Sample

def service : Service := { catalog, tables }

def taggedPage : Criteria := { tagged with pageSize := some 1 }

def taggedCount : Plan := { taggedPlan with projection := .count true, orderBy := [] }

theorem taggedCount_identifies : taggedCount.Identifies (tables.records "Person") := by
  refine .of_sorts (k := .int) fun r held => ?_
  obtain ⟨i, found⟩ := identified.find (Plan.mem_counted.mp held).1
  exact ⟨_, found, .inr rfl⟩

/-- Everyone by their cities; most have none. -/
def byCity : Criteria := { everyone with orders := [("city.name", .asc)] }

def unidentified : Service :=
  { catalog, tables := [("Person", [[("name", .string "Ann")], [("name", .string "Bob")]])] }

end Sample

namespace Service

theorem page_total_tagged :
    ∃ page found left left', searchPage Sample.taggedPage Sample.service = (.ok page, left) ∧
      search Sample.taggedPage.whole Sample.service = (.ok found, left') ∧
      page.total = found.size := by
  have searched : Plan.ofCriteria Sample.service.settings.compiler Sample.taggedPage.whole
      Sample.service.catalog = (.ok Sample.taggedPlan, Sample.catalog) := rfl
  have counted : Plan.countOfCriteria Sample.service.settings.compiler Sample.taggedPage
      Sample.service.catalog = (.ok Sample.taggedCount, Sample.catalog) := rfl
  have identifies := Sample.taggedCount_identifies
  obtain ⟨answers, sizes⟩ := page_total searched counted rfl rfl rfl rfl identifies
  obtain ⟨⟨page, left, paged⟩, found, left', whole⟩ := answers rfl Sample.tagged_sortable
  refine ⟨page, found, left, left', paged, whole, (sizes page found left left' paged whole).mpr ?_⟩
  intro r held matched
  exact ⟨r, held, matched, identifies.classes.refl ⟨r, Plan.mem_counted.mpr ⟨held, matched⟩⟩⟩

/-- Who has no city is counted but not found; who has no identifier is found but not counted. -/
theorem page_total_differs :
    (Sample.byCity.functions = [] ∧ Sample.byCity.columns = [] ∧ Sample.byCity.groupBy = [] ∧
      Sample.byCity.seek = false ∧ Sample.byCity.distinct = true ∧
      (searchPage Sample.byCity Sample.service).1.toOption.map Page.total = some 3 ∧
      (search Sample.byCity.whole Sample.service).1.toOption.map ResultSet.size = some 1) ∧
    (searchPage Sample.everyone Sample.unidentified).1.toOption.map Page.total = some 1 ∧
    (search Sample.everyone.whole Sample.unidentified).1.toOption.map ResultSet.size = some 2 := by
  refine ⟨⟨rfl, rfl, rfl, rfl, rfl, ?_, ?_⟩, ?_, ?_⟩ <;> decide +kernel

end Service

end EntitySearch
