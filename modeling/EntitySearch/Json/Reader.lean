import EntitySearch.Json.Number

/-! Reading JSON text.

Text is first read for its grammar alone, to any depth, keeping repeated keys
and marking leaves that stand for no value: a string with half a surrogate
pair, a number too large. Turning the result into a value refuses such leaves
and nesting deeper than a given room; a repeated key keeps its first position
and its last value.
-/

set_option autoImplicit false

namespace EntitySearch

/-- JSON text read for its grammar. -/
inductive RawJson
  | null
  | bool (b : Bool)
  | number (n : Option JsonNumber)
  | string (s : Option String)
  | array (items : List RawJson)
  | object (fields : List (Option String × RawJson))

instance : Inhabited RawJson := ⟨.null⟩

namespace Json

def isGap (c : Char) : Bool :=
  c == ' ' || c == '\n' || c == '\t' || c == '\r'

def skipGap (cs : List Char) : List Char :=
  cs.dropWhile isGap

/-- A character of a string, or one 16-bit unit written by its code. -/
inductive Unit16
  | letter (c : Char)
  | code (n : Nat)

def hexValue? (c : Char) : Option Nat :=
  if c.isDigit then some (c.toNat - '0'.toNat)
  else if 'a' ≤ c ∧ c ≤ 'f' then some (c.toNat - 'a'.toNat + 10)
  else if 'A' ≤ c ∧ c ≤ 'F' then some (c.toNat - 'A'.toNat + 10)
  else none

def hexCode? (a b c d : Char) : Option Nat := do
  let a ← hexValue? a
  let b ← hexValue? b
  let c ← hexValue? c
  let d ← hexValue? d
  some (((a * 16 + b) * 16 + c) * 16 + d)

def shortEscape? (c : Char) : Option Char :=
  match c with
  | '"' => some '"'
  | '\\' => some '\\'
  | '/' => some '/'
  | 'b' => some '\x08'
  | 'f' => some '\x0c'
  | 'n' => some '\n'
  | 'r' => some '\r'
  | 't' => some '\t'
  | _ => none

def readUnits : List Char → Option (List Unit16 × List Char)
  | [] => none
  | '"' :: rest => some ([], rest)
  | '\\' :: 'u' :: a :: b :: c :: d :: rest => do
    let n ← hexCode? a b c d
    let (units, rest) ← readUnits rest
    some (.code n :: units, rest)
  | '\\' :: e :: rest => do
    let c ← shortEscape? e
    let (units, rest) ← readUnits rest
    some (.letter c :: units, rest)
  | c :: rest =>
    if c.toNat < 0x20 ∨ c = '\\' then none
    else do
      let (units, rest) ← readUnits rest
      some (.letter c :: units, rest)

def isHighUnit (n : Nat) : Bool := 0xD800 ≤ n && n < 0xDC00

def isLowUnit (n : Nat) : Bool := 0xDC00 ≤ n && n < 0xE000

/-- Join surrogate pairs; none when a half stands alone. -/
def joinUnits : List Unit16 → Option (List Char)
  | [] => some []
  | .letter c :: rest => (joinUnits rest).map (c :: ·)
  | .code high :: .code low :: rest =>
    if isHighUnit high then
      if isLowUnit low then
        (joinUnits rest).map (Char.ofNat (0x10000 + (high - 0xD800) * 0x400 + (low - 0xDC00)) :: ·)
      else none
    else if isLowUnit high then none
    else (joinUnits (.code low :: rest)).map (Char.ofNat high :: ·)
  | .code n :: rest =>
    if isHighUnit n || isLowUnit n then none else (joinUnits rest).map (Char.ofNat n :: ·)

def readString (cs : List Char) : Option (Option String × List Char) := do
  let (units, rest) ← readUnits cs
  some ((joinUnits units).map String.ofList, rest)

mutual

/-- A value at the start of the text, and the text after it. Each step uses up a character, so
that the length of the text bounds the steps. -/
def readRaw : Nat → List Char → Option (RawJson × List Char)
  | 0, _ => none
  | steps + 1, cs =>
    match skipGap cs with
    | 'n' :: 'u' :: 'l' :: 'l' :: rest => some (.null, rest)
    | 't' :: 'r' :: 'u' :: 'e' :: rest => some (.bool true, rest)
    | 'f' :: 'a' :: 'l' :: 's' :: 'e' :: rest => some (.bool false, rest)
    | '"' :: rest => do
      let (s, rest) ← readString rest
      some (.string s, rest)
    | '[' :: rest =>
      match skipGap rest with
      | ']' :: rest => some (.array [], rest)
      | rest => do
        let (items, rest) ← readRawItems steps rest
        some (.array items, rest)
    | '\x7b' :: rest =>
      match skipGap rest with
      | '\x7d' :: rest => some (.object [], rest)
      | rest => do
        let (fields, rest) ← readRawFields steps rest
        some (.object fields, rest)
    | rest => do
      let (n, rest) ← readNumber rest
      some (.number n.value?, rest)

def readRawItems : Nat → List Char → Option (List RawJson × List Char)
  | 0, _ => none
  | steps + 1, cs => do
    let (item, rest) ← readRaw steps cs
    match skipGap rest with
    | ',' :: rest => do
      let (items, rest) ← readRawItems steps rest
      some (item :: items, rest)
    | ']' :: rest => some ([item], rest)
    | _ => none

def readRawFields : Nat → List Char → Option (List (Option String × RawJson) × List Char)
  | 0, _ => none
  | steps + 1, cs =>
    match skipGap cs with
    | '"' :: rest => do
      let (key, rest) ← readString rest
      match skipGap rest with
      | ':' :: rest => do
        let (value, rest) ← readRaw steps rest
        match skipGap rest with
        | ',' :: rest => do
          let (fields, rest) ← readRawFields steps rest
          some ((key, value) :: fields, rest)
        | '\x7d' :: rest => some ([(key, value)], rest)
        | _ => none
      | _ => none
    | _ => none

end

def readText? (text : String) : Option RawJson := do
  let cs := text.toList
  -- A list spends a step on itself and one on each item, and both use up a character.
  let (raw, rest) ← readRaw (2 * cs.length + 1) cs
  if (skipGap rest).isEmpty then some raw else none

end Json

namespace RawJson

mutual

/-- The value, with nesting for less than `room` containers inside each other. -/
def toJson? (room : Nat) : RawJson → Option Json
  | .null => some .null
  | .bool b => some (.bool b)
  | .number n => n.map .number
  | .string s => s.map .string
  | .array items =>
    if room ≤ 1 then none else (itemsToJson? (room - 1) items).map .array
  | .object fields =>
    if room ≤ 1 then none else (fieldsToJson? (room - 1) [] fields).map .object

def itemsToJson? (room : Nat) : List RawJson → Option (List Json)
  | [] => some []
  | item :: rest => do
    let item ← item.toJson? room
    let rest ← itemsToJson? room rest
    some (item :: rest)

def fieldsToJson? (room : Nat) (done : List (String × Json)) :
    List (Option String × RawJson) → Option (List (String × Json))
  | [] => some done
  | (key, value) :: rest => do
    let key ← key
    let value ← value.toJson? room
    fieldsToJson? room (Keyed.put done key value) rest

end

end RawJson

namespace Json

/-- Containers that text may nest, and one more. -/
def nestingRoom : Nat := 128

def read? (text : String) : Option Json := do
  let raw ← readText? text
  raw.toJson? nestingRoom

end Json

end EntitySearch
