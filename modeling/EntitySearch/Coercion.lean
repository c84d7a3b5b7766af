import EntitySearch.Calendar.Internet
import EntitySearch.Condition.Basic
import EntitySearch.Decimal.Text
import EntitySearch.QueryError
import EntitySearch.Settings.Basic
import EntitySearch.Value.Text

/-! Reading literals as values of a declared type.

A literal is read by its text. One that cannot be read as the type asks for
stands for itself.
-/

set_option autoImplicit false

namespace EntitySearch

structure Reading where
  comparator : Comparator
  trim : Bool := true
  upper : Bool := true
  /-- The position of the operand. -/
  index : Nat := 0
  deriving DecidableEq, Repr

namespace Reading

def ofCondition (c : Condition) (index : Nat) : Reading :=
  ⟨c.comparator, c.trim, c.upper, index⟩

def verbatim (comparator : Comparator) : Reading :=
  { comparator, trim := false, upper := false }

def normalizeChars (r : Reading) (cs : List Char) : List Char :=
  let trimmed := if r.trim then Text.trimChars cs else cs
  if r.upper then Text.upperChars trimmed else trimmed

def normalize (r : Reading) (text : String) : String :=
  String.ofList (r.normalizeChars text.toList)

end Reading

namespace Coercion

def bool? (text : String) : Option Bool :=
  if Text.sameWord text "true" || text == "1" then some true
  else if Text.sameWord text "false" || text == "0" then some false
  else none

def millis? (text : String) : Option Instant := do
  let millis ← Number.readInt? text.toList
  let millis ← Number.int64? millis
  Instant.ofMillis? millis

def internet? (text : String) : Option Instant :=
  Calendar.readInternet? text

def localDate? (settings : DateSettings) (text : String) : Option Date :=
  settings.datePatterns.findSome? fun pattern => Calendar.readDate? pattern text

def localDateTime? (settings : DateSettings) (text : String) : Option DateTime :=
  settings.dateTimePatterns.findSome? fun pattern => Calendar.readDateTime? pattern text

def clockOfDate (settings : DateSettings) (r : Reading) : Clock :=
  if r.comparator = .between ∧ r.index = 1 ∧ settings.endOfDay then .lastOfDay else .midnight

/-- Milliseconds, a date-time with an offset, a local date-time, a date, or a date-time in the
legacy pattern; the first form that fits decides. -/
def timestamp? (settings : DateSettings) (r : Reading) (text : String) : Option Instant :=
  match (millis? text).or (internet? text) with
  | some t => some t
  | none =>
    match localDateTime? settings text with
    | some t => Instant.ofLocal? settings.offset t
    | none =>
      match localDate? settings text with
      | some d => Instant.ofLocal? settings.offset ⟨d, clockOfDate settings r⟩
      | none =>
        (Calendar.readDateTime? legacyDateTime text).bind (Instant.ofLocal? settings.offset)

def int? (range : Int → Option Int) (text : String) : Option Value := do
  let i ← Number.readInt? text.toList
  (range i).map .int

def scalar? (settings : DateSettings) (r : Reading) (type : ScalarType) (text : String) :
    Option Value :=
  let trimmed := Text.trim text
  match type with
  | .bool => (bool? trimmed).map .bool
  | .int16 => int? Number.int16? trimmed
  | .int32 => int? Number.int32? trimmed
  | .int64 => int? Number.int64? trimmed
  | .float32 => (Number.readFloat? Number.binary32 trimmed).map .float
  | .float64 => (Number.readFloat? Number.binary64 trimmed).map .float
  | .decimal => (Decimal.read? trimmed).map .decimal
  | .string | .char => some (.string (r.normalize text))
  | .timestamp => (timestamp? settings r trimmed).map .timestamp
  | .instant => ((millis? trimmed).or (internet? trimmed)).map .timestamp
  | .offsetDateTime => (internet? trimmed).map .timestamp
  | .localDate => (localDate? settings trimmed).map .date
  | .localDateTime => (localDateTime? settings trimmed).map .dateTime

def ofText? (settings : DateSettings) (r : Reading) (type : FieldType) (text : String) :
    Option Value :=
  match type with
  | .scalar s => scalar? settings r s text
  | .enumeration _ variants =>
    if variants.contains (Text.trim text) then some (.string (Text.trim text)) else none
  | .embedded _ | .compositeKey _ | .relation _ _ => none

def literalText? : Json → Option String
  | .string s => some s
  | .number n => some (Json.numberText n)
  | .bool b => some (if b then "true" else "false")
  | _ => none

def read (settings : DateSettings) (r : Reading) (type : FieldType) (raw : Json) :
    Except QueryError Value :=
  if raw.isNull then .ok .null
  else
    match literalText? raw with
    | none => .error (.uncoercible raw.text type)
    | some text =>
      match ofText? settings r type text with
      | some v => .ok v
      | none => .error (.uncoercible text type)

/-- Read a literal as a value of a type, or else without regard to the type. -/
def readOrKeep (settings : DateSettings) (r : Reading) (type : FieldType) (raw : Json) : Value :=
  match read settings r type raw with
  | .ok v => v
  | .error _ => .ofJson raw

end Coercion

end EntitySearch
