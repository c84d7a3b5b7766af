import EntitySearch.Keyed

/-! JSON values.

Objects keep the order of their keys. A number is a whole number of at most 64
bits or a double.
-/

set_option autoImplicit false

namespace EntitySearch

inductive JsonNumber
  | int (i : Int)
  | float (x : Float)

inductive Json
  | null
  | bool (b : Bool)
  | number (n : JsonNumber)
  | string (s : String)
  | array (items : List Json)
  | object (fields : List (String × Json))

instance : Inhabited Json := ⟨.null⟩

namespace Json

def int (i : Int) : Json := .number (.int i)

def isNull : Json → Bool
  | .null => true
  | _ => false

def field? (json : Json) (key : String) : Option Json :=
  match json with
  | .object fields => Keyed.find? fields key
  | _ => none

mutual

/-- Bytes of text that a value takes at least when it is written out. -/
def weight : Json → Nat
  | .string s => s.utf8ByteSize + 2
  | .array items => itemsWeight items + 2
  | .object fields => fieldsWeight fields + 2
  | _ => 1

def itemsWeight : List Json → Nat
  | [] => 0
  | item :: rest => item.weight + itemsWeight rest

def fieldsWeight : List (String × Json) → Nat
  | [] => 0
  | (key, value) :: rest => key.utf8ByteSize + 3 + value.weight + fieldsWeight rest

end

end Json

end EntitySearch
