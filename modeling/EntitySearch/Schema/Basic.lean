import EntitySearch.Keyed

/-! Schemas: the types of records and of their attributes.

An entity has an identifier; a type without one is embedded in its owner.
-/

set_option autoImplicit false

namespace EntitySearch

inductive ScalarType
  | bool
  | int16
  | int32
  | int64
  | float32
  | float64
  | decimal
  | string
  | char
  /-- A point in time in any of the accepted spellings. -/
  | timestamp
  /-- A point in time in milliseconds or with an offset. -/
  | instant
  /-- A date-time with an offset. -/
  | offsetDateTime
  | localDate
  | localDateTime
  deriving DecidableEq, Repr

namespace ScalarType

def name : ScalarType → String
  | .bool => "Bool"
  | .int16 => "Int16"
  | .int32 => "Int32"
  | .int64 => "Int64"
  | .float32 => "Float32"
  | .float64 => "Float64"
  | .decimal => "Decimal"
  | .string => "String"
  | .char => "Char"
  | .timestamp => "Timestamp"
  | .instant => "Instant"
  | .offsetDateTime => "OffsetDateTime"
  | .localDate => "LocalDate"
  | .localDateTime => "LocalDateTime"

def all : List ScalarType :=
  [.bool, .int16, .int32, .int64, .float32, .float64, .decimal, .string, .char, .timestamp,
    .instant, .offsetDateTime, .localDate, .localDateTime]

def ofName? (name : String) : Option ScalarType :=
  all.find? fun s => s.name == name

def isNumeric : ScalarType → Bool
  | .int16 | .int32 | .int64 | .float32 | .float64 | .decimal => true
  | _ => false

def isTextual : ScalarType → Bool
  | .string | .char => true
  | _ => false

def isTemporal : ScalarType → Bool
  | .timestamp | .instant | .offsetDateTime | .localDate | .localDateTime => true
  | _ => false

end ScalarType

inductive Cardinality
  | toOne
  | toMany
  deriving DecidableEq, Repr

def Cardinality.name : Cardinality → String
  | .toOne => "ToOne"
  | .toMany => "ToMany"

inductive FieldType
  | scalar (s : ScalarType)
  | enumeration (name : String) (variants : List String)
  | embedded (target : String)
  | compositeKey (target : String)
  | relation (target : String) (cardinality : Cardinality)
  deriving DecidableEq, Repr

namespace FieldType

def text : FieldType → String
  | .scalar s => s.name
  | .enumeration name _ => "Enum(" ++ name ++ ")"
  | .embedded target => "Embedded(" ++ target ++ ")"
  | .compositeKey target => "CompositeKey(" ++ target ++ ")"
  | .relation target cardinality => cardinality.name ++ "(" ++ target ++ ")"

def scalar? : FieldType → Option ScalarType
  | .scalar s => some s
  | _ => none

def isTextual (t : FieldType) : Bool := t.scalar?.any ScalarType.isTextual

def isTemporal (t : FieldType) : Bool := t.scalar?.any ScalarType.isTemporal

def isNumeric (t : FieldType) : Bool := t.scalar?.any ScalarType.isNumeric

def isInline : FieldType → Bool
  | .embedded _ | .compositeKey _ => true
  | _ => false

def isToMany : FieldType → Bool
  | .relation _ .toMany => true
  | _ => false

def target? : FieldType → Option String
  | .embedded target | .compositeKey target | .relation target _ => some target
  | _ => none

end FieldType

structure Attribute where
  name : String
  type : FieldType
  deriving DecidableEq, Repr

structure Entity where
  name : String
  /-- The identifier attribute; none for a type that is embedded. -/
  identity : Option String
  fields : List Attribute
  deriving DecidableEq, Repr

namespace Entity

def field? (e : Entity) (name : String) : Option Attribute :=
  e.fields.find? fun field => field.name == name

def isEmbeddable (e : Entity) : Bool := e.identity.isNone

end Entity

structure Schema where
  version : Nat
  entities : Keyed Entity := []

inductive SchemaFault
  | unreadable
  | identifierMissing (entity identifier : String)
  | unknownTarget (entity field target : String)
  /-- Reported by whoever supplies definitions. -/
  | reported (text : String)

def SchemaFault.message : SchemaFault → String
  | .unreadable => "unreadable document"
  | .identifierMissing entity identifier =>
    entity ++ ": identifier '" ++ identifier ++ "' is not an attribute"
  | .unknownTarget entity field target =>
    entity ++ "." ++ field ++ ": unknown type '" ++ target ++ "'"
  | .reported text => text

namespace Schema

def withEntity (s : Schema) (e : Entity) : Schema :=
  { s with entities := Keyed.put s.entities e.name e }

def entity? (s : Schema) (name : String) : Option Entity :=
  Keyed.find? s.entities name

def validateIdentity (e : Entity) : Except SchemaFault Unit :=
  match e.identity with
  | none => .ok ()
  | some identifier =>
    if (e.field? identifier).isSome then .ok ()
    else .error (.identifierMissing e.name identifier)

def validateTarget (s : Schema) (e : Entity) (field : Attribute) : Except SchemaFault Unit :=
  match field.type.target? with
  | none => .ok ()
  | some target =>
    if Keyed.has s.entities target then .ok ()
    else .error (.unknownTarget e.name field.name target)

/-- Identifiers are attributes, and navigation arrives at types of the schema. -/
def validate (s : Schema) : Except SchemaFault Unit :=
  s.entities.forM fun (_, e) => do
    validateIdentity e
    e.fields.forM (validateTarget s e)

end Schema

end EntitySearch
