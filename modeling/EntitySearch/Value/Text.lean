import EntitySearch.Decimal.Text
import EntitySearch.Json.Writer
import EntitySearch.Value.Basic

/-! Values as plain text and as JSON. -/

set_option autoImplicit false

namespace EntitySearch.Value

mutual

def text : Value → String
  | .null => "null"
  | .bool true => "true"
  | .bool false => "false"
  | .int i => Number.intText i
  | .float x => Number.plainText x
  | .decimal d => d.text
  | .string s => s
  | .timestamp t => t.text
  | .date d => d.text
  | .dateTime t => t.text
  | .object fields => "\x7b" ++ fieldsText fields ++ "\x7d"
  | .list items => "[" ++ itemsText items ++ "]"

def fieldsText : List (String × Value) → String
  | [] => ""
  | [(key, value)] => key ++ ": " ++ value.text
  | (key, value) :: rest => key ++ ": " ++ value.text ++ ", " ++ fieldsText rest

def itemsText : List Value → String
  | [] => ""
  | [item] => item.text
  | item :: rest => item.text ++ ", " ++ itemsText rest

end

mutual

def toJson : Value → Json
  | .null => .null
  | .bool b => .bool b
  | .int i => .number (.int i)
  | .float x => .number (.float x)
  | .decimal d => .string d.text
  | .string s => .string s
  | .timestamp t => .string t.text
  | .date d => .string d.text
  | .dateTime t => .string t.text
  | .object fields => .object (fieldsToJson fields)
  | .list items => .array (itemsToJson items)

def fieldsToJson : List (String × Value) → List (String × Json)
  | [] => []
  | (key, value) :: rest => (key, value.toJson) :: fieldsToJson rest

def itemsToJson : List Value → List Json
  | [] => []
  | item :: rest => item.toJson :: itemsToJson rest

end

end EntitySearch.Value
