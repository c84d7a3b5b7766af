import EntitySearch.Condition.Reader
import EntitySearch.Criteria.Basic
import EntitySearch.Json.Parts

/-! Reading criteria documents. -/

set_option autoImplicit false

namespace EntitySearch

open RawJson

def Condition.ofRaw? (room : Nat) (raw : RawJson) : Option Condition := do
  let json ← raw.toJson? room
  (Condition.ofJson json).toOption

def Direction.ofRaw? (raw : RawJson) : Option Direction :=
  raw.string?.map Direction.ofText

def FunctionSpec.ofRaw? (room : Nat) : RawJson → Option FunctionSpec
  | .string (some reference) => some (.single reference)
  | raw => (raw.list? room fun _ => string?).map .several

namespace Criteria

/-- The fields of a criteria document in the order of their array form. -/
def fieldNames : List FieldName :=
  [⟨"entity", []⟩, ⟨"filters", []⟩, ⟨"orders", []⟩, ⟨"groupBy", ["groupsBy"]⟩, ⟨"functions", []⟩,
    ⟨"columns", []⟩, ⟨"first", []⟩, ⟨"pageSize", []⟩, ⟨"distinct", []⟩, ⟨"singleResult", []⟩,
    ⟨"resolveDto", []⟩, ⟨"seek", []⟩, ⟨"cursorField", []⟩, ⟨"cursorDirection", []⟩,
    ⟨"cursorValue", []⟩, ⟨"cursorIdValue", []⟩]

def ofRaw? (room : Nat) (raw : RawJson) : Option Criteria := do
  let parts ← raw.parts? fieldNames room
  let room := room - 1
  let texts := list? room fun _ => string?
  let entity ← required? parts "entity" string?
  let filters ← defaulted? parts "filters" [] (keyed? room Condition.ofRaw?)
  let orders ← defaulted? parts "orders" [] (keyed? room fun _ => Direction.ofRaw?)
  let groupBy ← defaulted? parts "groupBy" [] texts
  let functions ← defaulted? parts "functions" [] (keyed? room FunctionSpec.ofRaw?)
  let columns ← defaulted? parts "columns" [] texts
  let first ← defaulted? parts "first" none (option? (nat? 32))
  let pageSize ← defaulted? parts "pageSize" none (option? (nat? 32))
  let distinct ← defaulted? parts "distinct" true bool?
  let singleResult ← defaulted? parts "singleResult" false bool?
  let mapped ← defaulted? parts "resolveDto" false bool?
  let seek ← defaulted? parts "seek" false bool?
  let cursorField ← defaulted? parts "cursorField" none (option? string?)
  let cursorDirection ← defaulted? parts "cursorDirection" none (option? Direction.ofRaw?)
  let cursorValue ← defaulted? parts "cursorValue" none (option? (toJson? room))
  let cursorIdValue ← defaulted? parts "cursorIdValue" none (option? (toJson? room))
  return {
    entity, filters, orders, groupBy, functions, columns, first, pageSize, distinct, singleResult,
    mapped, seek, cursorField, cursorDirection, cursorValue, cursorIdValue }

def read (text : String) : Except DocumentError Criteria :=
  match (Json.readText? text).bind (ofRaw? Json.nestingRoom) with
  | some c => .ok c
  | none => .error .unreadable

end Criteria

end EntitySearch
