import EntitySearch.Catalog
import EntitySearch.Plan.Basic

/-! The scope of a compilation: what dotted paths have led to so far.

Every prefix of a path is walked once. A relation on the way adds a join, which
all paths with that prefix share. What a failing step has added stays.
-/

set_option autoImplicit false

namespace EntitySearch

/-- Where a prefix of a path leads: the record, its type, and the attributes to pass through. -/
structure Place where
  source : RowSource
  type : String
  hops : List String
  deriving DecidableEq, Repr

structure Scope where
  catalog : Catalog
  root : Entity
  identifier : String
  joins : List Join := []
  /-- The places of the prefixes walked. -/
  places : Keyed Place := []
  /-- The types met, by the names they were asked by. -/
  types : Keyed Entity

abbrev Resolve (α : Type) : Type := ExceptT QueryError (StateM Scope) α

namespace Scope

/-- The scope of searches for an entity. Only types with an identifier can be searched for. -/
def start (entity : String) : Catalog.Lookup Scope := do
  let root ← Catalog.entity entity
  match root.identity with
  | none => throw (.unknownEntity entity)
  | some identifier =>
    return { catalog := ← get, root, identifier, types := [(root.name, root)] }

def rootPlace (s : Scope) : Place := ⟨.root, s.root.name, []⟩

def withJoin (s : Scope) (parent : RowSource) (path : List String) (entity dotted : String) :
    Scope :=
  { s with joins := s.joins ++ [⟨s.joins.length, parent, path, entity, dotted⟩] }

def withPlace (s : Scope) (dotted : String) (place : Place) : Scope :=
  { s with places := Keyed.put s.places dotted place }

end Scope

namespace Resolve

variable {α : Type}

def ofExcept (result : Except QueryError α) : Resolve α :=
  ExceptT.mk (pure result)

def inCatalog (lookup : Catalog.Lookup α) : Resolve α := fun scope =>
  let (result, catalog) := lookup scope.catalog
  (result, { scope with catalog })

def outcome (computation : Resolve α) : StateM Scope (Except QueryError α) :=
  computation.run

end Resolve

end EntitySearch
