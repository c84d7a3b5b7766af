import EntitySearch.Calendar.DateTime
import EntitySearch.Decimal.OfFloat
import EntitySearch.Json.Basic

/-! Values held by records, literals of plans and results.

Whole numbers have 64 bits. The fields of an object keep their order.
-/

set_option autoImplicit false

namespace EntitySearch

inductive Value
  | null
  | bool (b : Bool)
  | int (i : Int)
  | float (x : Float)
  | decimal (d : Decimal)
  | string (s : String)
  | timestamp (t : Instant)
  | date (d : Date)
  | dateTime (t : DateTime)
  | object (fields : List (String × Value))
  | list (items : List Value)

instance : Inhabited Value := ⟨.null⟩

abbrev Record : Type := Keyed Value

namespace Value

def isNull : Value → Bool
  | .null => true
  | _ => false

def isComparable : Value → Bool
  | .null | .object _ | .list _ => false
  | _ => true

def isNumeric : Value → Bool
  | .int _ | .float _ | .decimal _ => true
  | _ => false

def typeName : Value → String
  | .null => "null"
  | .bool _ => "bool"
  | .int _ => "int"
  | .float _ => "float"
  | .decimal _ => "decimal"
  | .string _ => "string"
  | .timestamp _ => "timestamp"
  | .date _ => "date"
  | .dateTime _ => "datetime"
  | .object _ => "object"
  | .list _ => "list"

def asBool? : Value → Option Bool
  | .bool b => some b
  | _ => none

def asInt? : Value → Option Int
  | .int i => some i
  | _ => none

def asString? : Value → Option String
  | .string s => some s
  | _ => none

def asTimestamp? : Value → Option Instant
  | .timestamp t => some t
  | _ => none

def asObject? : Value → Option Record
  | .object fields => some fields
  | _ => none

def asList? : Value → Option (List Value)
  | .list items => some items
  | _ => none

def asFloat? : Value → Option Float
  | .float x => some x
  | .int i => some (Number.floatOfInt i)
  | .decimal d =>
    some (Number.widen d.negative (Number.binary64.nearest d.units (Nat.pow 10 d.scale)))
  | _ => none

def asDecimal? : Value → Option Decimal
  | .decimal d => some d
  | .int i => Decimal.ofInt? i
  | .float x => Decimal.ofFloat? x
  | _ => none

mutual

def ofJson : Json → Value
  | .null => .null
  | .bool b => .bool b
  | .number (.int i) =>
    match Number.int64? i with
    | some i => .int i
    | none => .float (Number.floatOfInt i)
  | .number (.float x) => .float x
  | .string s => .string s
  | .array items => .list (ofItems items)
  | .object fields => .object (ofFields fields)

def ofItems : List Json → List Value
  | [] => []
  | item :: rest => ofJson item :: ofItems rest

def ofFields : List (String × Json) → List (String × Value)
  | [] => []
  | (key, value) :: rest => (key, ofJson value) :: ofFields rest

end

end Value

end EntitySearch
