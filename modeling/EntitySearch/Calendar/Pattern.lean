import EntitySearch.Calendar.Fields
import EntitySearch.Text.Blank
import EntitySearch.Text.LetterCase

/-! Reading dates and times by a pattern of `%` specifiers.

A number takes at most its usual count of digits, blanks before it are passed
over, and years may carry a sign. A blank in the pattern matches any number of
blanks. Names of months and weekdays are read in any letter case.
-/

set_option autoImplicit false

namespace EntitySearch.Calendar

inductive Numeral
  | year | century | yearOfCentury | isoYear | isoCentury | isoYearOfCentury
  | quarter | month | day | weekFromSunday | weekFromMonday | isoWeek
  | daysFromSunday | weekdayFromMonday | ordinal
  | hour | hour12 | minute | second | nano | timestamp
  deriving DecidableEq, Repr

inductive Item
  | literal (text : List Char)
  | blanks
  | number (numeral : Numeral)
  | shortMonth
  | longMonth
  | shortWeekday
  | longWeekday
  | halfDay
  /-- A point and digits, or nothing. -/
  | fraction
  /-- A point and exactly so many digits, or nothing. -/
  | fixedFraction (digits : Nat)
  /-- Exactly so many digits. -/
  | bareFraction (digits : Nat)
  | zoneName
  /-- An offset from UTC; the flags allow the letter Z and missing minutes. -/
  | offset (zulu short : Bool)
  | offsetOrUtc
  | dateTimeMark
  | invalid
  deriving DecidableEq, Repr

/-- Most digits of a number without a sign; none stands for no limit. -/
def Numeral.width : Numeral → Option Nat
  | .year | .isoYear => some 4
  | .quarter | .daysFromSunday | .weekdayFromMonday => some 1
  | .ordinal => some 3
  | .nano => some 9
  | .timestamp => none
  | _ => some 2

def Numeral.signed : Numeral → Bool
  | .year | .isoYear => true
  | _ => false

def largest32 : Int := Int.pow 2 31 - 1

def Numeral.store (numeral : Numeral) (fields : Fields) (v : Int) : Except Fault Fields :=
  match numeral with
  | .year => fields.setWithin (-Int.pow 2 31) largest32 .year v
  | .century => fields.setWithin 0 largest32 .century v
  | .yearOfCentury => fields.setWithin 0 99 .yearOfCentury v
  | .isoYear => fields.setWithin (-Int.pow 2 31) largest32 .isoYear v
  | .isoCentury => fields.setWithin 0 largest32 .isoCentury v
  | .isoYearOfCentury => fields.setWithin 0 99 .isoYearOfCentury v
  | .quarter => fields.setWithin 1 4 .quarter v
  | .month => fields.setWithin 1 12 .month v
  | .day => fields.setWithin 1 31 .day v
  | .weekFromSunday => fields.setWithin 0 53 .weekFromSunday v
  | .weekFromMonday => fields.setWithin 0 53 .weekFromMonday v
  | .isoWeek => fields.setWithin 1 53 .isoWeek v
  | .daysFromSunday =>
    if 0 ≤ v ∧ v ≤ 6 then fields.set .weekday ((v + 6) % 7) else .error .outOfRange
  | .weekdayFromMonday =>
    if 1 ≤ v ∧ v ≤ 7 then fields.set .weekday (v - 1) else .error .outOfRange
  | .ordinal => fields.setWithin 1 366 .ordinal v
  | .hour => fields.setHour v
  | .hour12 =>
    if 1 ≤ v ∧ v ≤ 12 then fields.set .hourOfHalf (v % 12) else .error .outOfRange
  | .minute => fields.setWithin 0 59 .minute v
  | .second => fields.setWithin 0 60 .second v
  | .nano => fields.setWithin 0 999999999 .nano v
  | .timestamp => fields.set .timestamp v

def scanNumber (low : Nat) (high : Option Nat) (cs : List Char) : Except Fault (Int × List Char) :=
  let window := match high with
    | some n => cs.take n
    | none => cs
  let digits := window.takeWhile Char.isDigit
  if digits.length < low then .error .malformed
  else match Number.int64? (Number.valueOf digits) with
    | some v => .ok (v, cs.drop digits.length)
    | none => .error .outOfRange

def scanSigned (width : Option Nat) (cs : List Char) : Except Fault (Int × List Char) :=
  match cs with
  | '-' :: rest => do
    let (v, rest) ← scanNumber 1 none rest
    .ok (-v, rest)
  | '+' :: rest => scanNumber 1 none rest
  | cs => scanNumber 1 width cs

/-- Digits behind a point as nanoseconds; digits after the ninth are passed over. -/
def scanFraction (cs : List Char) : Except Fault (Int × List Char) := do
  let digits := cs.takeWhile Char.isDigit
  if digits.isEmpty then .error .malformed
  else
    let kept := digits.take 9
    .ok (Number.valueOf kept * Nat.pow 10 (9 - kept.length), cs.drop digits.length)

def scanFixedFraction (count : Nat) (cs : List Char) : Except Fault (Int × List Char) := do
  let (v, rest) ← scanNumber count (some count) cs
  .ok (v * Nat.pow 10 (9 - count), rest)

def dropWord? : List Char → List Char → Option (List Char)
  | [], cs => some cs
  | _ :: _, [] => none
  | w :: word, c :: cs => if w.toLower = c.toLower then dropWord? word cs else none

def findWord? (cs : List Char) : List String → Nat → Option (Nat × List Char)
  | [], _ => none
  | word :: words, index =>
    match dropWord? word.toList cs with
    | some rest => some (index, rest)
    | none => findWord? cs words (index + 1)

def shortMonths : List String :=
  ["jan", "feb", "mar", "apr", "may", "jun", "jul", "aug", "sep", "oct", "nov", "dec"]

def monthEndings : List String :=
  ["uary", "ruary", "ch", "il", "", "e", "y", "ust", "tember", "ober", "ember", "ember"]

def shortWeekdays : List String :=
  ["mon", "tue", "wed", "thu", "fri", "sat", "sun"]

def weekdayEndings : List String :=
  ["day", "sday", "nesday", "rsday", "day", "urday", "day"]

/-- A short name by its index, with the rest of the long name when it follows. -/
def scanName (short endings : List String) (cs : List Char) : Except Fault (Int × List Char) :=
  match findWord? cs short 0 with
  | none => .error .malformed
  | some (index, rest) =>
    let ending := (endings[index]?.getD "").toList
    .ok (index, (dropWord? ending rest).getD rest)

def isDigitPair (a b : Char) : Bool := a.isDigit && b.isDigit

def pairValue (a b : Char) : Int := Number.valueOf [a, b]

def isMinusSign (c : Char) : Bool := c == '-' || c == '\u2212'

/-- Two digits of hours, what `between` passes over, and two digits of minutes. -/
def scanOffset (between : List Char → Option (List Char)) (zulu short : Bool) (cs : List Char) :
    Except Fault (Int × List Char) :=
  match zulu, cs with
  | true, 'Z' :: rest => .ok (0, rest)
  | true, 'z' :: rest => .ok (0, rest)
  | _, sign :: h1 :: h2 :: rest =>
    if (sign == '+' || isMinusSign sign) && isDigitPair h1 h2 then
      match between rest with
      | none => .error .malformed
      | some rest =>
        let signed (minutes : Int) : Int :=
          let seconds := pairValue h1 h2 * 3600 + minutes * 60
          if isMinusSign sign then -seconds else seconds
        match rest with
        | m1 :: m2 :: rest =>
          if !isDigitPair m1 m2 then .error .malformed
          else if '6' ≤ m1 then .error .outOfRange
          else .ok (signed (pairValue m1 m2), rest)
        | [] => if short then .ok (signed 0, []) else .error .malformed
        | _ => .error .malformed
    else .error .malformed
  | _, _ => .error .malformed

def passColon : List Char → Option (List Char)
  | ':' :: rest => some rest
  | _ => none

def passColonsAndBlanks (cs : List Char) : Option (List Char) :=
  some (cs.dropWhile fun c => c == ':' || Text.isBlank c)

def storeOffset (fields : Fields) (scanned : Int × List Char) : Except Fault (Fields × List Char) := do
  .ok (← fields.set .offset scanned.1, scanned.2)

def storeNano (fields : Fields) (scanned : Int × List Char) : Except Fault (Fields × List Char) := do
  .ok (← fields.setWithin 0 999999999 .nano scanned.1, scanned.2)

def scanHalfDay (fields : Fields) (cs : List Char) : Except Fault (Fields × List Char) :=
  match findWord? cs ["am", "pm"] 0 with
  | some (half, rest) => do .ok (← fields.set .halfDay half, rest)
  | none => .error .malformed

def dropLiteral? : List Char → List Char → Option (List Char)
  | [], cs => some cs
  | _ :: _, [] => none
  | l :: literal, c :: cs => if l = c then dropLiteral? literal cs else none

def Item.read (item : Item) (fields : Fields) (cs : List Char) :
    Except Fault (Fields × List Char) :=
  match item with
  | .literal text =>
    match dropLiteral? text cs with
    | some rest => .ok (fields, rest)
    | none => .error .malformed
  | .blanks => .ok (fields, Text.trimStartChars cs)
  | .number numeral => do
    let cs := Text.trimStartChars cs
    let (v, rest) ←
      if numeral.signed then scanSigned numeral.width cs else scanNumber 1 numeral.width cs
    .ok (← numeral.store fields v, rest)
  | .shortMonth => do
    let (index, rest) ← scanName shortMonths [] cs
    .ok (← fields.set .month (index + 1), rest)
  | .longMonth => do
    let (index, rest) ← scanName shortMonths monthEndings cs
    .ok (← fields.set .month (index + 1), rest)
  | .shortWeekday => do
    let (index, rest) ← scanName shortWeekdays [] cs
    .ok (← fields.set .weekday index, rest)
  | .longWeekday => do
    let (index, rest) ← scanName shortWeekdays weekdayEndings cs
    .ok (← fields.set .weekday index, rest)
  | .halfDay => scanHalfDay fields cs
  | .fraction =>
    match cs with
    | '.' :: rest => do storeNano fields (← scanFraction rest)
    | cs => .ok (fields, cs)
  | .fixedFraction count =>
    match cs with
    | '.' :: rest => do storeNano fields (← scanFixedFraction count rest)
    | cs => .ok (fields, cs)
  | .bareFraction count => do storeNano fields (← scanFixedFraction count cs)
  | .zoneName => .ok (fields, cs.dropWhile fun c => !Text.isBlank c)
  | .offset zulu short => do
    storeOffset fields (← scanOffset passColonsAndBlanks zulu short (Text.trimStartChars cs))
  | .offsetOrUtc =>
    let cs := Text.trimStartChars cs
    match dropWord? ['u', 't', 'c'] cs with
    | some rest => storeOffset fields (0, rest)
    | none => do storeOffset fields (← scanOffset passColonsAndBlanks true false cs)
  | .dateTimeMark =>
    match cs with
    | c :: rest => if c = 'T' ∨ c = 't' ∨ c = ' ' then .ok (fields, rest) else .error .malformed
    | [] => .error .malformed
  | .invalid => .error .malformed

def readItems : List Item → Fields → List Char → Except Fault (Fields × List Char)
  | [], fields, cs => .ok (fields, cs)
  | item :: items, fields, cs => do
    let (fields, cs) ← item.read fields cs
    readItems items fields cs

def dateItems (mark : Char) : List Item :=
  [.number .year, .literal [mark], .number .month, .literal [mark], .number .day]

def clockItems : List Item :=
  [.number .hour, .literal [':'], .number .minute, .literal [':'], .number .second]

def usDateItems : List Item :=
  [.number .month, .literal ['/'], .number .day, .literal ['/'], .number .yearOfCentury]

/-- A date, a mark, a time and an offset, with blanks allowed in between. -/
def timestampItems : List Item :=
  [.number .year, .blanks, .literal ['-'], .number .month, .blanks, .literal ['-'], .number .day,
    .dateTimeMark, .number .hour, .blanks, .literal [':'], .number .minute, .blanks,
    .literal [':'], .number .second, .fraction, .blanks, .offsetOrUtc]

def letterItems (c : Char) : List Item :=
  match c with
  | 'A' => [.longWeekday]
  | 'B' => [.longMonth]
  | 'C' => [.number .century]
  | 'D' | 'x' => usDateItems
  | 'F' => dateItems '-'
  | 'G' => [.number .isoYear]
  | 'H' | 'k' => [.number .hour]
  | 'I' | 'l' => [.number .hour12]
  | 'M' => [.number .minute]
  | 'P' | 'p' => [.halfDay]
  | 'R' => [.number .hour, .literal [':'], .number .minute]
  | 'S' => [.number .second]
  | 'T' | 'X' => clockItems
  | 'U' => [.number .weekFromSunday]
  | 'V' => [.number .isoWeek]
  | 'W' => [.number .weekFromMonday]
  | 'Y' => [.number .year]
  | 'Z' => [.zoneName]
  | 'a' => [.shortWeekday]
  | 'b' | 'h' => [.shortMonth]
  | 'c' =>
    [.shortWeekday, .blanks, .shortMonth, .blanks, .number .day, .blanks] ++ clockItems ++
      [.blanks, .number .year]
  | 'd' | 'e' => [.number .day]
  | 'f' => [.number .nano]
  | 'g' => [.number .isoYearOfCentury]
  | 'j' => [.number .ordinal]
  | 'm' => [.number .month]
  | 'n' | 't' => [.blanks]
  | 'q' => [.number .quarter]
  | 'r' =>
    [.number .hour12, .literal [':'], .number .minute, .literal [':'], .number .second, .blanks,
      .halfDay]
  | 's' => [.number .timestamp]
  | 'u' => [.number .weekdayFromMonday]
  | 'v' => [.number .day, .literal ['-'], .shortMonth, .literal ['-'], .number .year]
  | 'w' => [.number .daysFromSunday]
  | 'y' => [.number .yearOfCentury]
  | 'z' => [.offset false false]
  | '+' => timestampItems
  | '%' => [.literal ['%']]
  | _ => [.invalid]

def specifier : List Char → List Item × List Char
  | '.' :: 'f' :: rest => ([.fraction], rest)
  | '.' :: '3' :: 'f' :: rest => ([.fixedFraction 3], rest)
  | '.' :: '6' :: 'f' :: rest => ([.fixedFraction 6], rest)
  | '.' :: '9' :: 'f' :: rest => ([.fixedFraction 9], rest)
  | '3' :: 'f' :: rest => ([.bareFraction 3], rest)
  | '6' :: 'f' :: rest => ([.bareFraction 6], rest)
  | '9' :: 'f' :: rest => ([.bareFraction 9], rest)
  | ':' :: 'z' :: rest => ([.offset false false], rest)
  | ':' :: ':' :: 'z' :: rest => ([.offset false false], rest)
  | ':' :: ':' :: ':' :: 'z' :: rest => ([.offset false false], rest)
  | '#' :: 'z' :: rest => ([.offset true true], rest)
  | c :: rest => (letterItems c, rest)
  | [] => ([.invalid], [])

/-- A padding mark may stand before a specifier that is one number. -/
def markedSpecifier : List Char → List Item × List Char
  | c :: rest =>
    if c = '-' ∨ c = '_' ∨ c = '0' then
      match specifier rest with
      | ([.number numeral], rest) => ([.number numeral], rest)
      | (_, rest) => ([.invalid], rest)
    else specifier (c :: rest)
  | [] => ([.invalid], [])

def patternItems : Nat → List Char → List Item
  | 0, _ => []
  | _, [] => []
  | steps + 1, c :: rest =>
    if c = '%' then
      let (items, rest) := markedSpecifier rest
      items ++ patternItems steps rest
    else if Text.isBlank c then .blanks :: patternItems steps rest
    else .literal [c] :: patternItems steps rest

def itemsOf (pattern : String) : List Item :=
  let cs := pattern.toList
  patternItems cs.length cs

def readFields (pattern text : String) : Except Fault Fields := do
  let (fields, rest) ← readItems (itemsOf pattern) Fields.empty text.toList
  if rest.isEmpty then .ok fields else .error .malformed

def readDate? (pattern text : String) : Option Date :=
  ((readFields pattern text).bind Fields.toDate).toOption

def readDateTime? (pattern text : String) : Option DateTime :=
  ((readFields pattern text).bind fun fields => fields.toDateTime 0).toOption

end EntitySearch.Calendar
