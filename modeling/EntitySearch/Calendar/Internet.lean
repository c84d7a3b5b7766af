import EntitySearch.Calendar.Pattern

/-! The internet date-time format: a full date and time with an offset from UTC.

Every field has its full count of digits, the date and time may be separated by
a blank, and the offset has hours and minutes.
-/

set_option autoImplicit false

namespace EntitySearch.Calendar

def scanExact (count : Nat) (cs : List Char) : Except Fault (Int × List Char) :=
  scanNumber count (some count) cs

def scanMark (mark : Char) : List Char → Except Fault (List Char)
  | c :: rest => if c = mark then .ok rest else .error .malformed
  | [] => .error .malformed

def scanOptionalFraction (fields : Fields) : List Char → Except Fault (Fields × List Char)
  | '.' :: rest => do storeNano fields (← scanFraction rest)
  | cs => .ok (fields, cs)

/-- The largest offset is a minute short of a day. -/
def largestOffset : Int := (23 * 60 + 59) * 60

def scanInternet (cs : List Char) : Except Fault Fields := do
  let (year, cs) ← scanExact 4 cs
  let fields ← Numeral.year.store Fields.empty year
  let cs ← scanMark '-' cs
  let (month, cs) ← scanExact 2 cs
  let fields ← Numeral.month.store fields month
  let cs ← scanMark '-' cs
  let (day, cs) ← scanExact 2 cs
  let fields ← Numeral.day.store fields day
  let (fields, cs) ← Item.dateTimeMark.read fields cs
  let (hour, cs) ← scanExact 2 cs
  let fields ← Numeral.hour.store fields hour
  let cs ← scanMark ':' cs
  let (minute, cs) ← scanExact 2 cs
  let fields ← Numeral.minute.store fields minute
  let cs ← scanMark ':' cs
  let (second, cs) ← scanExact 2 cs
  let fields ← Numeral.second.store fields second
  let (fields, cs) ← scanOptionalFraction fields cs
  let (offset, cs) ← scanOffset passColon true false cs
  if offset < -largestOffset ∨ largestOffset < offset then .error .outOfRange
  else if cs.isEmpty then fields.set .offset offset
  else .error .malformed

def readInternet? (text : String) : Option Instant :=
  ((scanInternet text.toList).bind Fields.toInstant).toOption

end EntitySearch.Calendar
