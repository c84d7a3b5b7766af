import EntitySearch.Json.Parts
import EntitySearch.Json.Writer
import EntitySearch.Schema.Basic

/-! Schema documents. -/

set_option autoImplicit false

namespace EntitySearch

open RawJson

def ScalarType.ofRaw? (room : Nat) (raw : RawJson) : Option ScalarType := do
  let (name, content) ← raw.variant? room
  unit? content
  ScalarType.ofName? name

def Cardinality.ofRaw? (room : Nat) (raw : RawJson) : Option Cardinality := do
  let (name, content) ← raw.variant? room
  unit? content
  match name with
  | "ToOne" => some .toOne
  | "ToMany" => some .toMany
  | _ => none

namespace FieldType

def ofRaw? (room : Nat) (raw : RawJson) : Option FieldType := do
  let (name, content) ← raw.variant? room
  let content ← content
  let room := room - 1
  match name with
  | "Scalar" => (ScalarType.ofRaw? room content).map .scalar
  | "Enum" =>
    let parts ← content.parts? [⟨"name", []⟩, ⟨"variants", []⟩] room
    let name ← required? parts "name" string?
    let variants ← required? parts "variants" (list? (room - 1) fun _ => string?)
    some (.enumeration name variants)
  | "Embedded" =>
    let parts ← content.parts? [⟨"type_name", []⟩] room
    (required? parts "type_name" string?).map .embedded
  | "CompositeKey" =>
    let parts ← content.parts? [⟨"type_name", []⟩] room
    (required? parts "type_name" string?).map .compositeKey
  | "Relation" =>
    let parts ← content.parts? [⟨"entity", []⟩, ⟨"cardinality", []⟩] room
    let target ← required? parts "entity" string?
    let cardinality ← required? parts "cardinality" (Cardinality.ofRaw? (room - 1))
    some (.relation target cardinality)
  | _ => none

def toJson : FieldType → Json
  | .scalar s => .object [("Scalar", .string s.name)]
  | .enumeration name variants =>
    .object [("Enum", .object
      [("name", .string name), ("variants", .array (variants.map .string))])]
  | .embedded target => .object [("Embedded", .object [("type_name", .string target)])]
  | .compositeKey target => .object [("CompositeKey", .object [("type_name", .string target)])]
  | .relation target cardinality =>
    .object [("Relation", .object
      [("entity", .string target), ("cardinality", .string cardinality.name)])]

end FieldType

def Attribute.ofRaw? (room : Nat) (raw : RawJson) : Option Attribute := do
  let parts ← raw.parts? [⟨"name", []⟩, ⟨"field_type", []⟩] room
  let name ← required? parts "name" string?
  let type ← required? parts "field_type" (FieldType.ofRaw? (room - 1))
  some ⟨name, type⟩

def Attribute.toJson (a : Attribute) : Json :=
  .object [("name", .string a.name), ("field_type", a.type.toJson)]

namespace Entity

def ofRaw? (room : Nat) (raw : RawJson) : Option Entity := do
  let parts ← raw.parts? [⟨"name", []⟩, ⟨"identity_field", []⟩, ⟨"fields", []⟩] room
  let name ← required? parts "name" string?
  let identity ← defaulted? parts "identity_field" none (option? string?)
  let fields ← required? parts "fields" (list? (room - 1) Attribute.ofRaw?)
  some ⟨name, identity, fields⟩

def toJson (e : Entity) : Json :=
  .object
    [("name", .string e.name), ("identity_field", e.identity.elim .null .string),
      ("fields", .array (e.fields.map Attribute.toJson))]

end Entity

namespace Schema

def ofRaw? (room : Nat) (raw : RawJson) : Option Schema := do
  let parts ← raw.parts? [⟨"version", []⟩, ⟨"entities", []⟩] room
  let version ← required? parts "version" (nat? 64)
  let entities ← required? parts "entities" (keyed? (room - 1) Entity.ofRaw?)
  some ⟨version, entities⟩

def read (text : String) : Except SchemaFault Schema :=
  match (Json.readText? text).bind (ofRaw? Json.nestingRoom) with
  | some s => .ok s
  | none => .error .unreadable

def toJson (s : Schema) : Json :=
  .object
    [("version", .int s.version),
      ("entities", .object (s.entities.map fun (key, e) => (key, e.toJson)))]

end Schema

end EntitySearch
