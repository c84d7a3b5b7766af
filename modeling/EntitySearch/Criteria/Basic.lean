import EntitySearch.Condition.Basic

/-! Search criteria: what to look for, in which order, and which part of it to return. -/

set_option autoImplicit false

namespace EntitySearch

inductive Direction
  | asc
  | desc
  deriving DecidableEq, Repr

namespace Direction

/-- The word for ascending in any letter case; any other text is descending. -/
def ofText (text : String) : Direction :=
  if Text.sameWord (Text.trim text) "ASC" then .asc else .desc

def isAsc : Direction → Bool
  | .asc => true
  | .desc => false

def text : Direction → String
  | .asc => "ASC"
  | .desc => "DESC"

end Direction

inductive FunctionSpec
  | single (reference : String)
  | several (references : List String)
  deriving DecidableEq, Repr

namespace FunctionSpec

def references : FunctionSpec → List String
  | .single reference => [reference]
  | .several references => references

def single? : FunctionSpec → Option String
  | .single reference => some reference
  | .several _ => none

end FunctionSpec

/-- Where a page starts: behind a value of one field and, when given, behind an identifier among
the rows with that value. -/
structure Cursor where
  field : String
  direction : Direction
  value : Json
  idValue : Option Json

structure Criteria where
  entity : String
  filters : Keyed Condition := []
  orders : Keyed Direction := []
  groupBy : List String := []
  functions : Keyed FunctionSpec := []
  columns : List String := []
  first : Option Nat := none
  pageSize : Option Nat := none
  distinct : Bool := true
  singleResult : Bool := false
  /-- Pass entity records through the mapper of the entity. -/
  mapped : Bool := false
  seek : Bool := false
  cursorField : Option String := none
  cursorDirection : Option Direction := none
  cursorValue : Option Json := none
  cursorIdValue : Option Json := none

namespace Criteria

/-- Whether the rows are named values instead of entities. -/
def isTuple (c : Criteria) : Bool :=
  !c.functions.isEmpty || !c.columns.isEmpty

def required {α : Type} (value : Option α) (part : SeekPart) : Except DocumentError α :=
  match value with
  | some v => .ok v
  | none => .error (.incompleteSeek part)

def cursor (c : Criteria) : Except DocumentError (Option Cursor) := do
  if !c.seek then return none
  let field ← required (c.cursorField.filter fun f => !Text.isBlankText f) .field
  let direction ← required c.cursorDirection .direction
  let value ← required c.cursorValue .value
  return some ⟨field, direction, value, c.cursorIdValue⟩

def single (c : Criteria) : Criteria := { c with singleResult := true }

def withFilter (c : Criteria) (field : String) (condition : Condition) : Criteria :=
  { c with filters := Keyed.put c.filters field condition }

def withOrder (c : Criteria) (key : String) (direction : Direction) : Criteria :=
  { c with orders := Keyed.put c.orders key direction }

def withFunction (c : Criteria) (name : String) (spec : FunctionSpec) : Criteria :=
  { c with functions := Keyed.put c.functions name spec }

def withSeek (c : Criteria) (field : String) (direction : Direction) (value : Json) : Criteria :=
  { c with
    seek := true, cursorField := some field, cursorDirection := some direction,
    cursorValue := some value }

end Criteria

end EntitySearch
