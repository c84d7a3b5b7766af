import EntitySearch.Calendar.DateTime

/-! Date and time fields gathered from a text, and the date or time they name.

Fields may be given more than once and may overlap. A date is built from the
first sufficient set of fields and then has to agree with all the others.
-/

set_option autoImplicit false

namespace EntitySearch.Calendar

inductive Fault
  | malformed
  | outOfRange
  | impossible
  | notEnough
  deriving DecidableEq, Repr

inductive Field
  | year | century | yearOfCentury
  | isoYear | isoCentury | isoYearOfCentury
  | quarter | month | weekFromSunday | weekFromMonday | isoWeek | weekday | ordinal | day
  | halfDay | hourOfHalf | minute | second | nano
  | timestamp | offset
  deriving DecidableEq, Repr

abbrev Fields : Type := Field → Option Int

namespace Fields

def empty : Fields := fun _ => none

def set (fields : Fields) (field : Field) (value : Int) : Except Fault Fields :=
  match fields field with
  | none => .ok fun other => if other = field then some value else fields other
  | some held => if held = value then .ok fields else .error .impossible

def setWithin (low high : Int) (fields : Fields) (field : Field) (value : Int) :
    Except Fault Fields :=
  if low ≤ value ∧ value ≤ high then fields.set field value else .error .outOfRange

def setHour (fields : Fields) (hour : Int) : Except Fault Fields :=
  if 0 ≤ hour ∧ hour ≤ 23 then do
    let fields ← fields.set .halfDay (hour / 12)
    fields.set .hourOfHalf (hour % 12)
  else .error .outOfRange

/-- A year from itself, or from its century and the rest; two digits alone mean 1970 to 2069. -/
def resolveYear (full hundreds rest : Option Int) : Except Fault (Option Int) :=
  match full, hundreds, rest with
  | y, none, none => .ok y
  | some y, q, r =>
    if y < 0 then .error .impossible
    else if q.getD (y / 100) = y / 100 ∧ r.getD (y % 100) = y % 100 then .ok (some y)
    else .error .impossible
  | none, some q, some r =>
    if q < 0 then .error .impossible
    else match Number.int32? (q * 100 + r) with
      | some y => .ok (some y)
      | none => .error .outOfRange
  | none, none, some r => .ok (some (r + if r < 70 then 2000 else 1900))
  | none, some _, none => .error .notEnough

def agrees (fields : Fields) (field : Field) (value : Int) : Bool :=
  (fields field).getD value == value

/-- Century fields agree with years from 0 on only. -/
def agreesCentury (fields : Fields) (hundreds rest : Field) (value : Int) : Bool :=
  if 0 ≤ value then fields.agrees hundreds (value / 100) && fields.agrees rest (value % 100)
  else (fields hundreds).isNone && (fields rest).isNone

def agreesMonthDay (fields : Fields) (d : Date) : Bool :=
  fields.agrees .year d.year && fields.agreesCentury .century .yearOfCentury d.year &&
    fields.agrees .month d.month && fields.agrees .day d.dayOfMonth

def agreesIsoWeek (fields : Fields) (d : Date) : Bool :=
  fields.agrees .isoYear d.isoYear && fields.agreesCentury .isoCentury .isoYearOfCentury d.isoYear &&
    fields.agrees .isoWeek d.isoWeek && fields.agrees .weekday d.weekday

def agreesOrdinal (fields : Fields) (d : Date) : Bool :=
  fields.agrees .ordinal d.ordinal && fields.agrees .weekFromSunday (d.weekFrom 6) &&
    fields.agrees .weekFromMonday (d.weekFrom 0)

def agreesQuarter (fields : Fields) (d : Date) : Bool :=
  fields.agrees .quarter ((d.month + 2) / 3 : Nat)

def weekDate (year week : Int) (weekday start : Nat) : Except Fault Date :=
  if 53 < week then .error .outOfRange
  else match Date.ofOrdinal? year 1 with
    | none => .error .outOfRange
    | some first =>
      let firstStart : Int := 1 + ((start + 7 - first.weekday) % 7 : Nat)
      let ordinal := firstStart + (week - 1) * 7 + ((weekday + 7 - start) % 7 : Nat)
      if ordinal ≤ 0 then .error .impossible
      else match Date.ofOrdinal? year ordinal.toNat with
        | some d => .ok d
        | none => .error .impossible

def orOutOfRange (d : Option Date) : Except Fault Date :=
  match d with
  | some d => .ok d
  | none => .error .outOfRange

def accept (ok : Bool) (d : Date) : Except Fault Date :=
  if ok then .ok d else .error .impossible

def toDate (fields : Fields) : Except Fault Date := do
  let year ← resolveYear (fields .year) (fields .century) (fields .yearOfCentury)
  let isoYear ← resolveYear (fields .isoYear) (fields .isoCentury) (fields .isoYearOfCentury)
  let d ←
    match year, fields .month, fields .day, fields .ordinal with
    | some y, some month, some day, _ => do
      let d ← orOutOfRange (Date.ofMonthDay? y month.toNat day.toNat)
      accept (fields.agreesIsoWeek d && fields.agreesOrdinal d) d
    | some y, _, _, some ordinal => do
      let d ← orOutOfRange (Date.ofOrdinal? y ordinal.toNat)
      accept (fields.agreesMonthDay d && fields.agreesIsoWeek d && fields.agreesOrdinal d) d
    | _, _, _, _ =>
      match year, fields .weekFromSunday, fields .weekFromMonday, fields .weekday with
      | some y, some week, _, some weekday => do
        let d ← weekDate y week weekday.toNat 6
        accept (fields.agreesMonthDay d && fields.agreesIsoWeek d && fields.agreesOrdinal d) d
      | some y, _, some week, some weekday => do
        let d ← weekDate y week weekday.toNat 0
        accept (fields.agreesMonthDay d && fields.agreesIsoWeek d && fields.agreesOrdinal d) d
      | _, _, _, _ =>
        match isoYear, fields .isoWeek, fields .weekday with
        | some y, some week, some weekday => do
          let d ← orOutOfRange (Date.ofIsoWeek? y week.toNat weekday.toNat)
          accept (fields.agreesMonthDay d && fields.agreesOrdinal d) d
        | _, _, _ => .error .notEnough
  accept (fields.agreesQuarter d) d

def required (value : Option Int) : Except Fault Int :=
  match value with
  | some v => .ok v
  | none => .error .notEnough

/-- Seconds may be missing, a fraction without seconds may not stand. -/
def toClock (fields : Fields) : Except Fault Clock := do
  let half ← required (fields .halfDay)
  let hour ← required (fields .hourOfHalf)
  let minute ← required (fields .minute)
  let second := (fields .second).getD 0
  let leap := second == 60
  let second := if leap then 59 else second
  if (fields .nano).isSome && (fields .second).isNone then .error .notEnough
  else
    let nano := (fields .nano).getD 0 + if leap then 1000000000 else 0
    .ok ⟨((half * 12 + hour) * 3600 + minute * 60 + second).toNat, nano.toNat⟩

def faultOf {α : Type} : Except Fault α → Option Fault
  | .ok _ => none
  | .error fault => some fault

/-- Rebuild date and time from a timestamp, and check them against the other fields. -/
def ofTimestamp (fields : Fields) (timestamp : Int) : Except Fault DateTime := do
  let t ← match DateTime.ofEpochSecond? timestamp 0 with
    | some t => .ok t
    | none => .error .outOfRange
  -- A timestamp cannot tell a leap second from the second before it or after it.
  let leap := fields .second == some 60
  let t ←
    if !leap || t.clock.second % 60 == 59 then .ok t
    else if t.clock.second % 60 == 0 then
      match t.shift? (-1) with
      | some t => .ok t
      | none => .error .outOfRange
    else .error .impossible
  let fields ← if leap then .ok fields else fields.set .second (t.clock.second % 60 : Nat)
  let fields ← fields.set .year t.date.year
  let fields ← fields.set .ordinal t.date.ordinal
  let fields ← fields.setHour (t.clock.second / 3600 : Nat)
  let fields ← fields.set .minute (t.clock.second / 60 % 60 : Nat)
  .ok ⟨← fields.toDate, ← fields.toClock⟩

def toDateTime (fields : Fields) (offset : Int) : Except Fault DateTime :=
  match fields.toDate, fields.toClock, fields .timestamp with
  | .ok date, .ok clock, timestamp =>
    let t : DateTime := ⟨date, clock⟩
    match timestamp with
    | none => .ok t
    | some given =>
      let expected := t.epochSecond - offset
      if given = expected ∨ (1000000000 ≤ clock.nano ∧ given = expected + 1) then .ok t
      else .error .impossible
  | .error fault, _, none => .error fault
  | _, .error fault, none => .error fault
  -- A timestamp stands in for fields that are missing, not for fields that are wrong.
  | date, clock, some timestamp =>
    let failed (fault : Fault) : Bool := faultOf date == some fault || faultOf clock == some fault
    if failed .outOfRange then .error .outOfRange
    else if failed .impossible then .error .impossible
    else match Number.int64? (timestamp + offset) with
      | some second => fields.ofTimestamp second
      | none => .error .outOfRange

def toInstant (fields : Fields) : Except Fault Instant := do
  let offset ← match fields .offset, fields .timestamp with
    | some offset, _ => .ok offset
    | none, some _ => .ok 0
    | none, none => .error Fault.notEnough
  let t ← fields.toDateTime offset
  if -86400 < offset ∧ offset < 86400 then
    match Instant.ofLocal? offset t with
    | some i => .ok i
    | none => .error .impossible
  else .error .outOfRange

end Fields

end EntitySearch.Calendar
