import EntitySearch.Json.Reader

/-! Reading typed documents.

A structure is an object of its fields, in any order and with other keys
passed over, or an array of its fields in their order. No field may be given
twice, and a container may not stand deeper than the room allows.
-/

set_option autoImplicit false

namespace EntitySearch.RawJson

variable {α : Type}

def string? : RawJson → Option String
  | .string s => s
  | _ => none

def bool? : RawJson → Option Bool
  | .bool b => some b
  | _ => none

def int? (low high : Int) : RawJson → Option Int
  | .number (some (.int i)) => if low ≤ i ∧ i ≤ high then some i else none
  | _ => none

def nat? (bits : Nat) (raw : RawJson) : Option Nat :=
  (raw.int? 0 (Int.pow 2 bits - 1)).map Int.toNat

def option? (read : RawJson → Option α) : RawJson → Option (Option α)
  | .null => some none
  | raw => (read raw).map some

def list? (room : Nat) (read : Nat → RawJson → Option α) : RawJson → Option (List α)
  | .array items => if room ≤ 1 then none else items.mapM (read (room - 1))
  | _ => none

def readPair? (read : RawJson → Option α) (entry : Option String × RawJson) :
    Option (String × α) := do
  let key ← entry.1
  let value ← read entry.2
  some (key, value)

def keyed? (room : Nat) (read : Nat → RawJson → Option α) : RawJson → Option (Keyed α)
  | .object fields =>
    if room ≤ 1 then none
    else (fields.mapM (readPair? (read (room - 1)))).map Keyed.ofEntries
  | _ => none

structure FieldName where
  key : String
  others : List String := []

def FieldName.accepts (name : FieldName) (key : String) : Bool :=
  name.key == key || name.others.contains key

abbrev Parts : Type := Keyed RawJson

/-- Collect known fields of an object; none when one is given twice. -/
def collect? (names : List FieldName) : Parts → List (Option String × RawJson) → Option Parts
  | done, [] => some done
  | done, (key, value) :: rest => do
    let key ← key
    match names.find? (·.accepts key) with
    | none => collect? names done rest
    | some name =>
      if Keyed.has done name.key then none
      else collect? names (done ++ [(name.key, value)]) rest

def parts? (names : List FieldName) (room : Nat) : RawJson → Option Parts
  | .object fields => if room ≤ 1 then none else collect? names [] fields
  | .array items =>
    if room ≤ 1 ∨ names.length < items.length then none
    else some ((names.map (·.key)).zip items)
  | _ => none

def required? (parts : Parts) (key : String) (read : RawJson → Option α) : Option α := do
  read (← Keyed.find? parts key)

def defaulted? (parts : Parts) (key : String) (default : α) (read : RawJson → Option α) :
    Option α :=
  match Keyed.find? parts key with
  | some raw => read raw
  | none => some default

/-- A named alternative: its name alone, or an object of its name and content. -/
def variant? (room : Nat) : RawJson → Option (String × Option RawJson)
  | .string (some name) => some (name, none)
  | .object [(some name, content)] => if room ≤ 1 then none else some (name, some content)
  | _ => none

def unit? : Option RawJson → Option Unit
  | none | some .null => some ()
  | some _ => none

end EntitySearch.RawJson
