import EntitySearch.QueryError
import EntitySearch.Schema.Basic

/-! The catalog of known types.

Definitions are registered, or asked of a source when they are first needed and
kept from then on under the name they were asked by. The names asked for are
recorded.
-/

set_option autoImplicit false

namespace EntitySearch

abbrev Source : Type := String → Except SchemaFault (Option Entity)

structure Catalog where
  entities : Keyed Entity := []
  source : Option Source := none
  asked : List String := []

abbrev Catalog.Lookup (α : Type) : Type := ExceptT QueryError (StateM Catalog) α

namespace Catalog

def apply (c : Catalog) (s : Schema) : Except SchemaFault Catalog := do
  s.validate
  return { c with entities := s.entities.foldl (fun done e => Keyed.put done e.1 e.2) c.entities }

def ofSchema (s : Schema) : Except SchemaFault Catalog :=
  ({} : Catalog).apply s

def ofSource (source : Source) : Catalog :=
  { source := some source }

def register (c : Catalog) (e : Entity) : Catalog :=
  { c with entities := Keyed.put c.entities e.name e }

def names (c : Catalog) : List String :=
  (Keyed.keys c.entities).mergeSort fun a b => decide (a ≤ b)

def has (c : Catalog) (name : String) : Bool :=
  Keyed.has c.entities name

def timesAsked (c : Catalog) (name : String) : Nat :=
  c.asked.count name

def load (source : Source) (name : String) : Lookup Entity := do
  modify fun c => { c with asked := name :: c.asked }
  match source name with
  | .error fault => throw (.invalidSchema fault)
  | .ok none => throw (.unknownEntity name)
  | .ok (some e) =>
    modify fun c => { c with entities := Keyed.put c.entities name e }
    return e

def entity (name : String) : Lookup Entity := do
  let c ← get
  match Keyed.find? c.entities name, c.source with
  | some e, _ => return e
  | none, none => throw (.unknownEntity name)
  | none, some source => load source name

def fieldType (type name : String) : Lookup FieldType := do
  let e ← entity type
  match e.field? name with
  | some field => return field.type
  | none => throw (.unknownAttribute type name)

def identifier (name : String) : Lookup String := do
  let e ← entity name
  match e.identity with
  | some identifier => return identifier
  | none => throw (.unknownEntity name)

end Catalog

end EntitySearch
