import EntitySearch.Compile.Scope
import EntitySearch.Text.Dotted

/-! Resolving dotted paths.

All segments but the last are navigated: relations by joining their records,
embedded types and composite keys within the record at hand. The last segment is
the attribute read.
-/

set_option autoImplicit false

namespace EntitySearch

structure Resolved where
  field : FieldRef
  type : FieldType
  deriving DecidableEq, Repr

def Resolved.expr (r : Resolved) : Expr := .field r.field

namespace Resolve

def typeNamed (name : String) : Resolve Entity := do
  match Keyed.find? (← get).types name with
  | some e => return e
  | none =>
    let e ← inCatalog (Catalog.entity name)
    modify fun s => { s with types := Keyed.put s.types name e }
    return e

def attributeType (type name : String) : Resolve FieldType := do
  let e ← typeNamed type
  match e.field? name with
  | some field => return field.type
  | none => throw (.unknownAttribute type name)

/-- Navigate through an attribute for the first time. -/
def step (path dotted : String) (place : Place) (segment : String) : Resolve Place := do
  let hops := place.hops ++ [segment]
  match ← attributeType place.type segment with
  | .embedded target | .compositeKey target => return ⟨place.source, target, hops⟩
  | .relation target _ =>
    let index := (← get).joins.length
    modify fun s => s.withJoin place.source hops target dotted
    return ⟨.join index, target, []⟩
  | type => throw (.unresolvable path (.notNavigable segment type))

def enter (path dotted : String) (place : Place) (segment : String) : Resolve Place := do
  match Keyed.find? (← get).places dotted with
  -- A relation that was walked before has its join already.
  | some next => return next
  | none =>
    let next ← step path dotted place segment
    modify fun s => s.withPlace dotted next
    return next

/-- Navigate through the segments that follow those walked. -/
def walk (path : String) (walked : List String) (place : Place) : List String → Resolve Place
  | [] => return place
  | segment :: rest => do
    let walked := walked ++ [segment]
    let next ← enter path (Text.dotted walked) place segment
    walk path walked next rest

def resolve (path : String) : Resolve Resolved := do
  let path := Text.trim path
  let segments := Text.segments path
  if segments.any Text.isBlankText then throw (.unresolvable path .emptySegment)
  let last := segments.getLastD ""
  let place ← walk path [] (← get).rootPlace segments.dropLast
  let type ← attributeType place.type last
  return ⟨⟨place.source, place.hops ++ [last], path⟩, type⟩

end Resolve

end EntitySearch
