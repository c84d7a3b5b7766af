import EntitySearch.Json.Basic
import EntitySearch.Number.Binary
import EntitySearch.Number.Whole

/-! Numbers of JSON text.

A number without point and exponent that fits 64 bits is whole. Any other is a
double computed from its leading digits, as many as fit 64 bits, by one
multiplication with or division by a power of ten; it is the nearest double
whenever both factors are exact.
-/

set_option autoImplicit false

namespace EntitySearch.Json

structure NumberText where
  negative : Bool
  whole : List Char
  fraction : Option (List Char)
  exponent : Option (Bool × List Char)

def spanDigits (cs : List Char) : List Char × List Char :=
  (cs.takeWhile Char.isDigit, cs.dropWhile Char.isDigit)

def readFraction : List Char → Option (Option (List Char) × List Char)
  | '.' :: cs =>
    match spanDigits cs with
    | ([], _) => none
    | (digits, rest) => some (some digits, rest)
  | cs => some (none, cs)

def readExponentPart : List Char → Option (Option (Bool × List Char) × List Char)
  | c :: cs =>
    if c = 'e' ∨ c = 'E' then
      let (negative, cs) := match cs with
        | '+' :: cs => (false, cs)
        | '-' :: cs => (true, cs)
        | cs => (false, cs)
      match spanDigits cs with
      | ([], _) => none
      | (digits, rest) => some (some (negative, digits), rest)
    else some (none, c :: cs)
  | [] => some (none, [])

def readNumber (cs : List Char) : Option (NumberText × List Char) := do
  let (negative, cs) := match cs with
    | '-' :: cs => (true, cs)
    | cs => (false, cs)
  let (whole, cs) := spanDigits cs
  if whole.isEmpty || (whole.head? == some '0' && 1 < whole.length) then none
  else do
    let (fraction, cs) ← readFraction cs
    let (exponent, cs) ← readExponentPart cs
    some (⟨negative, whole, fraction, exponent⟩, cs)

/-- Add digits to a significand while it fits 64 bits; also the number of digits left out. -/
def gather : Nat → List Char → Nat × Nat
  | significand, [] => (significand, 0)
  | significand, c :: rest =>
    let next := significand * 10 + (c.toNat - '0'.toNat)
    if next < Nat.pow 2 64 then gather next rest else (significand, rest.length + 1)

def powerOfTen (e : Nat) : Float :=
  Number.floatOfNat (Nat.pow 10 e)

/-- Divide by a power of ten in steps within the range of doubles. -/
def divideByTens (x : Float) (e : Nat) : Float :=
  if e ≤ 308 then x / powerOfTen e
  else if x == 0 then x
  else divideByTens (x / powerOfTen 308) (e - 308)
termination_by e

/-- The double of a significand and an exponent; none when it is too large. -/
def scaleTens (significand : Nat) (exponent : Int) : Option Float :=
  let x := Number.floatOfNat significand
  match exponent with
  | .ofNat e =>
    if significand = 0 then some x
    else if 308 < e then none
    else
      let product := x * powerOfTen e
      if Number.isFiniteFloat product then some product else none
  | .negSucc e => some (divideByTens x (e + 1))

def NumberText.float? (n : NumberText) : Option Float := do
  let (significand, dropped) := gather 0 n.whole
  let (significand, places) := match n.fraction with
    | some digits =>
      let (s, left) := gather significand digits
      (s, digits.length - left)
    | none => (significand, 0)
  let start : Int := dropped - places
  let magnitude ← match n.exponent with
    | none => scaleTens significand start
    | some (negative, digits) =>
      let e := Number.valueOf digits
      -- No digits can make up for an exponent of this size.
      if Nat.pow 2 31 ≤ e then
        if significand ≠ 0 && !negative then none else some 0
      else scaleTens significand (if negative then start - e else start + e)
  some (if n.negative then -magnitude else magnitude)

def NumberText.value? (n : NumberText) : Option JsonNumber :=
  let value := Number.valueOf n.whole
  let plain := n.fraction.isNone && n.exponent.isNone
  if plain && !n.negative && value < Nat.pow 2 64 then some (.int value)
  else if plain && n.negative && 0 < value && value ≤ Nat.pow 2 63 then some (.int (-value))
  else n.float?.map .float

end EntitySearch.Json
