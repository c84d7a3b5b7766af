import EntitySearch.Decimal.Basic
import EntitySearch.Number.Whole

/-! Decimals as text.

Digits may be grouped by underscores after the first of them. Digits past the
28th place, or past 96 bits behind the point, are not kept: the first of them
rounds the number, and all of them still have to be digits.
-/

set_option autoImplicit false

namespace EntitySearch.Decimal

def chars (d : Decimal) : List Char :=
  let digits := Number.padded (d.scale + 1) d.units
  let whole := digits.take (digits.length - d.scale)
  let places := digits.drop (digits.length - d.scale)
  (if d.negative then ['-'] else []) ++ whole ++ if d.scale = 0 then [] else '.' :: places

def text (d : Decimal) : String :=
  String.ofList d.chars

/-- What may stand behind the digits kept: digits and marks of grouping. -/
def isTail (c : Char) : Bool := c.isDigit || c == '_'

/-- Round up from five by the first character behind the digits kept; a mark counts as zero. -/
def roundBy? (negative : Bool) (units scale : Nat) (next : Char) (rest : List Char) :
    Option Decimal :=
  if !(next :: rest).all isTail then none
  else if next.isDigit && '5' ≤ next then
    if units + 1 < Nat.pow 2 96 then of? negative (units + 1) scale
    else if scale = 0 then none
    else of? negative ((units + 5) / 10) (scale - 1)
  else of? negative units scale

/-- The units from which on another digit may not fit 64 bits. -/
def wideFrom : Nat := (Nat.pow 2 64 - 1) / 10 - 255

/-- Round behind the 28th place. Marks there are passed over when the last digit was added to wide
units. -/
def roundFull? (negative : Bool) (units scale : Nat) (cs : List Char) : Option Decimal :=
  let wide := wideFrom ≤ units / 10
  match if wide then cs.dropWhile (· == '_') else cs with
  | [] => of? negative units scale
  | next :: rest => roundBy? negative units scale next rest

/-- Read on with the digits so far; `point` tells that the point is behind us and `begun` that
some digit is. -/
def readDigits? (negative point begun : Bool) (units scale : Nat) : List Char → Option Decimal
  | [] => if begun then of? negative units scale else none
  | c :: rest =>
    if point && 28 ≤ scale then roundFull? negative units scale (c :: rest)
    else if c.isDigit then
      let next := units * 10 + (c.toNat - '0'.toNat)
      if next < Nat.pow 2 96 then
        readDigits? negative point true next (if point then scale + 1 else 0) rest
      else if point then roundBy? negative units scale c rest
      else none
    else if c = '.' && !point then readDigits? negative true begun units scale rest
    else if c = '_' && begun then readDigits? negative point begun units scale rest
    else none

def readChars? : List Char → Option Decimal
  | '-' :: cs => readDigits? true false false 0 0 cs
  | '+' :: cs => readDigits? false false false 0 0 cs
  | cs => readDigits? false false false 0 0 cs

def isExponentMark (c : Char) : Bool := c == 'e' || c == 'E'

def readExponent? (cs : List Char) : Option Nat := do
  let body := match cs with
    | '+' :: rest => rest
    | rest => rest
  let n ← Number.readNat? body
  if n < Nat.pow 2 32 then some n else none

/-- Multiply by a power of ten in steps of at most nineteen. -/
def raise? (d : Decimal) (power : Nat) : Option Decimal :=
  if 28 < power then none
  else if power < 19 then d.scaleUp? power
  else do
    let d ← d.scaleUp? 19
    if power = 19 then some d else d.scaleUp? (power - 19)

/-- Keep fewer places; the first digit left out rounds the number. -/
def shorten (d : Decimal) (places : Nat) : Decimal :=
  let dropped := d.scale - places
  let units := d.units / Nat.pow 10 dropped
  let next := d.units / Nat.pow 10 (dropped - 1) % 10
  let rounded := if 0 < dropped ∧ 5 ≤ next then units + 1 else units
  (of? d.negative rounded (d.scale - dropped)).elim zero fun r => { r with negative := d.negative }

def lower? (d : Decimal) (power : Nat) : Option Decimal :=
  if 28 < power then none
  else
    let d := if 28 < d.scale + power then d.shorten (28 - power) else d
    if h : d.scale + power ≤ 28 then some { d with scale := d.scale + power, scale_le := h } else none

def readScientific? (cs : List Char) : Option Decimal :=
  let base := cs.takeWhile fun c => !isExponentMark c
  match cs.dropWhile fun c => !isExponentMark c with
  | [] => none
  | _ :: exponent => do
    let d ← readChars? base
    match exponent with
    | '-' :: rest => d.lower? (← readExponent? rest)
    | _ =>
      let power ← readExponent? exponent
      if power ≤ d.scale then
        some { d with scale := d.scale - power, scale_le := Nat.le_trans (Nat.sub_le ..) d.scale_le }
      else (d.raise? power).map normalize

def read? (text : String) : Option Decimal :=
  match readChars? text.toList with
  | some d => some d
  | none => readScientific? text.toList

end EntitySearch.Decimal
