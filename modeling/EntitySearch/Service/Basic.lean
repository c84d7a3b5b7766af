import EntitySearch.Compile.Plan
import EntitySearch.Criteria.Reader
import EntitySearch.Run.Execute
import EntitySearch.Service.Mapper

/-! The search service: criteria in, records out.

Every request compiles its criteria with the definitions of the catalog, which
may load more of them, and runs the plan on the tables.
-/

set_option autoImplicit false

namespace EntitySearch

inductive SearchError
  | query (e : QueryError)
  | document (e : DocumentError)
  /-- A mapper refused a record. -/
  | mapping (entity reason : String)

def SearchError.message : SearchError → String
  | .query e => "core error: " ++ e.message
  | .document e => "protocol error: " ++ e.message
  | .mapping entity reason => "mapping error for " ++ entity ++ ": " ++ reason

/-- A part of a result, and how many records there are in all. -/
structure Page where
  items : ResultSet
  total : Nat

def Page.toJson (p : Page) : Json :=
  .object [("items", p.items.toJson), ("total", .int p.total)]

def Mappers.apply (mappers : Mappers) (entity : String) (records : List Record) :
    Except SearchError (List Record) :=
  match Keyed.find? mappers entity with
  | none => .ok records
  | some mapper => records.mapM fun r => (mapper r).mapError (.mapping entity)

structure Service where
  settings : ServiceSettings := {}
  mappers : Mappers := []
  catalog : Catalog := {}
  tables : Tables := []

abbrev Request (α : Type) : Type := ExceptT SearchError (StateM Service) α

namespace Service

variable {α : Type}

def ofExcept (result : Except SearchError α) : Request α :=
  ExceptT.mk (pure result)

def inCatalog (lookup : Catalog.Lookup α) : Request α := fun s =>
  let (result, catalog) := lookup s.catalog
  (result.mapError .query, { s with catalog })

def compile (c : Criteria) : Request Plan := do
  inCatalog (Plan.ofCriteria (← get).settings.compiler c)

def mapEntities (mappers : Mappers) (c : Criteria) (entity : String) :
    ResultSet → Except SearchError ResultSet
  | .entities records =>
    if c.mapped then (mappers.apply entity records).map .entities else .ok (.entities records)
  | result => .ok result

def search (c : Criteria) : Request ResultSet := do
  let p ← compile c
  let s ← get
  let found ← ofExcept ((p.execute s.tables).mapError .query)
  ofExcept (mapEntities s.mappers c p.root (if p.single then found.takeFirst else found))

def searchOne (c : Criteria) : Request (Option Record) := do
  return (← search c.single).records.head?

def count (c : Criteria) : Request Nat := do
  let p ← inCatalog (Plan.countOfCriteria (← get).settings.compiler c)
  ofExcept ((p.count (← get).tables).mapError .query)

def searchPage (c : Criteria) : Request Page := do
  let items ← search c
  let total ← count c
  return ⟨items, total⟩

def anyMatch (c : Criteria) : Request Bool := do
  return 0 < (← count c)

def searchText (document : String) : Request Json := do
  let c ← ofExcept ((Criteria.read document).mapError .document)
  return (← search c).toJson

def insert (s : Service) (entity : String) (r : Record) : Service :=
  { s with tables := s.tables.insert entity r }

def registerEntity (s : Service) (e : Entity) : Service :=
  { s with catalog := s.catalog.register e }

def registerMapper (s : Service) (entity : String) (mapper : Mapper) : Service :=
  { s with mappers := Keyed.put s.mappers entity mapper }

end Service

end EntitySearch
