/-! Dates of the proleptic Gregorian calendar, stored as day numbers.

Day zero is 1 January of year 1, a Monday. Years run from -262143 to 262142.
-/

set_option autoImplicit false

namespace EntitySearch

structure Date where
  day : Int
  deriving DecidableEq, Repr

namespace Calendar

def isLeap (year : Int) : Bool :=
  year % 4 == 0 && (year % 100 != 0 || year % 400 == 0)

def yearLength (year : Int) : Nat :=
  if isLeap year then 366 else 365

def daysBeforeYear (year : Int) : Int :=
  let past := year - 1
  365 * past + past / 4 - past / 100 + past / 400

def monthLengths (leap : Bool) : List Nat :=
  [31, if leap then 29 else 28, 31, 30, 31, 30, 31, 31, 30, 31, 30, 31]

def firstYear : Int := -262143

def lastYear : Int := 262142

def dayOfEpoch : Int := 719162

/-- The month that holds a day counted from zero, and the day of the month, also from zero. -/
def splitMonths : List Nat → Nat → Nat → Nat × Nat
  | [], month, day => (month, day)
  | length :: rest, month, day =>
    if day < length then (month, day) else splitMonths rest (month + 1) (day - length)

end Calendar

namespace Date

open Calendar

def inRange (d : Date) : Bool :=
  daysBeforeYear firstYear ≤ d.day && d.day < daysBeforeYear (lastYear + 1)

def ofDay? (day : Int) : Option Date :=
  let d : Date := ⟨day⟩
  if d.inRange then some d else none

theorem ofDay?_eq_some {day : Int} {d : Date} :
    ofDay? day = some d ↔ d = ⟨day⟩ ∧ d.inRange = true := by
  simp only [ofDay?, Option.ite_none_right_eq_some, Option.some.injEq]
  constructor
  · rintro ⟨inside, rfl⟩
    exact ⟨rfl, inside⟩
  · rintro ⟨rfl, inside⟩
    exact ⟨inside, rfl⟩

def ofOrdinal? (year : Int) (ordinal : Nat) : Option Date :=
  if 1 ≤ ordinal ∧ ordinal ≤ yearLength year then ofDay? (daysBeforeYear year + ordinal - 1) else none

def ofMonthDay? (year : Int) (month day : Nat) : Option Date := do
  let lengths := monthLengths (isLeap year)
  let length ← if month = 0 then none else lengths[month - 1]?
  if 1 ≤ day ∧ day ≤ length then
    ofDay? (daysBeforeYear year + (lengths.take (month - 1)).foldl Nat.add 0 + day - 1)
  else none

/-- The mean year gives the year but for one, which a comparison settles. -/
def year (d : Date) : Int :=
  let guess := d.day * 400 / 146097 + 1
  if d.day < daysBeforeYear guess then guess - 1
  else if daysBeforeYear (guess + 1) ≤ d.day then guess + 1
  else guess

def ordinal (d : Date) : Nat :=
  (d.day - daysBeforeYear d.year).toNat + 1

def monthDay (d : Date) : Nat × Nat :=
  let (month, day) := splitMonths (monthLengths (isLeap d.year)) 1 (d.ordinal - 1)
  (month, day + 1)

def month (d : Date) : Nat := d.monthDay.1

def dayOfMonth (d : Date) : Nat := d.monthDay.2

/-- Days since the last Monday. -/
def weekday (d : Date) : Nat :=
  (d.day % 7).toNat

/-- Full weeks begun since the first given weekday of the year. -/
def weekFrom (start : Nat) (d : Date) : Int :=
  ((d.ordinal : Int) - ((d.weekday + 7 - start) % 7 : Nat) + 6) / 7

/-- The Thursday of the same week decides which year a week belongs to. -/
def thursday (d : Date) : Date :=
  ⟨d.day - d.weekday + 3⟩

def isoYear (d : Date) : Int := d.thursday.year

def isoWeek (d : Date) : Nat := (d.thursday.ordinal - 1) / 7 + 1

def ofIsoWeek? (year : Int) (week weekday : Nat) : Option Date := do
  let fourth : Date := ⟨daysBeforeYear year + 3⟩
  let d : Date := ⟨fourth.day - fourth.weekday + 7 * (week - 1 : Int) + weekday⟩
  if 1 ≤ week ∧ d.isoYear = year then ofDay? d.day else none

def compare (a b : Date) : Ordering :=
  Ord.compare a.day b.day

end Date

end EntitySearch
