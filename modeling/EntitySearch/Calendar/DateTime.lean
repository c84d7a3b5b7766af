import EntitySearch.Calendar.Date
import EntitySearch.Number.Whole

/-! Times of day, local date-times and instants, and their text.

A leap second is the second before it with a nanosecond count from 10⁹ on. An
instant is stored as the date-time at offset zero.
-/

set_option autoImplicit false

namespace EntitySearch

structure Clock where
  /-- Seconds since midnight. -/
  second : Nat
  nano : Nat
  deriving DecidableEq, Repr

structure DateTime where
  date : Date
  clock : Clock
  deriving DecidableEq, Repr

structure Instant where
  utc : DateTime
  deriving DecidableEq, Repr

namespace Clock

def midnight : Clock := ⟨0, 0⟩

def lastOfDay : Clock := ⟨86399, 999999999⟩

def compare (a b : Clock) : Ordering :=
  (Ord.compare a.second b.second).then (Ord.compare a.nano b.nano)

end Clock

namespace DateTime

def compare (a b : DateTime) : Ordering :=
  (a.date.compare b.date).then (a.clock.compare b.clock)

def epochSecond (t : DateTime) : Int :=
  (t.date.day - Calendar.dayOfEpoch) * 86400 + t.clock.second

def ofEpochSecond? (second : Int) (nano : Nat) : Option DateTime :=
  (Date.ofDay? (Calendar.dayOfEpoch + second / 86400)).map fun date =>
    ⟨date, (second % 86400).toNat, nano⟩

/-- Move by whole seconds; the part below a second stays. -/
def shift? (t : DateTime) (seconds : Int) : Option DateTime :=
  ofEpochSecond? (t.epochSecond + seconds) t.clock.nano

end DateTime

namespace Instant

def compare (a b : Instant) : Ordering :=
  a.utc.compare b.utc

def ofMillis? (millis : Int) : Option Instant :=
  (DateTime.ofEpochSecond? (millis / 1000) ((millis % 1000).toNat * 1000000)).map Instant.mk

/-- The instant at which clocks at an offset east of UTC show a date-time. -/
def ofLocal? (offset : Int) (t : DateTime) : Option Instant :=
  (t.shift? (-offset)).map Instant.mk

def toLocal? (offset : Int) (i : Instant) : Option DateTime :=
  i.utc.shift? offset

end Instant

namespace Calendar

/-- Four digits, with a sign outside the years 0 to 9999. -/
def yearChars (year : Int) : List Char :=
  let digits := Number.padded 4 year.natAbs
  if year < 0 then '-' :: digits
  else if 9999 < year then '+' :: digits
  else digits

def dateChars (d : Date) : List Char :=
  yearChars d.year ++ '-' :: Number.padded 2 d.month ++ '-' :: Number.padded 2 d.dayOfMonth

/-- No digits, or as many groups of three as are needed. -/
def fractionChars (nano : Nat) : List Char :=
  if nano = 0 then []
  else if nano % 1000000 = 0 then '.' :: Number.padded 3 (nano / 1000000)
  else if nano % 1000 = 0 then '.' :: Number.padded 6 (nano / 1000)
  else '.' :: Number.padded 9 nano

def clockChars (c : Clock) : List Char :=
  Number.padded 2 (c.second / 3600) ++ ':' :: Number.padded 2 (c.second / 60 % 60) ++
    ':' :: Number.padded 2 (c.second % 60 + c.nano / 1000000000) ++
    fractionChars (c.nano % 1000000000)

def dateTimeChars (t : DateTime) : List Char :=
  dateChars t.date ++ 'T' :: clockChars t.clock

end Calendar

def Date.text (d : Date) : String :=
  String.ofList (Calendar.dateChars d)

def DateTime.text (t : DateTime) : String :=
  String.ofList (Calendar.dateTimeChars t)

def Instant.text (i : Instant) : String :=
  String.ofList (Calendar.dateTimeChars i.utc ++ ['Z'])

end EntitySearch
