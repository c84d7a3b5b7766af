/-! Binary floating-point numbers as a significand and a power of two.

Rounding a ratio to the nearest number of a format is done in exact arithmetic,
with a half going to the even neighbour.
-/

set_option autoImplicit false

namespace EntitySearch.Number

/-- The finite numbers `m * 2 ^ e` with `m < 2 ^ bits` and `lowest ≤ e ≤ highest`. -/
structure BinaryFormat where
  bits : Nat
  lowest : Int
  highest : Int

def binary64 : BinaryFormat := ⟨53, -1074, 971⟩

def binary32 : BinaryFormat := ⟨24, -149, 104⟩

/-- The number `significand * 2 ^ exponent`. -/
structure Scaled where
  significand : Nat
  exponent : Int
  deriving DecidableEq, Repr

/-- The ratio `num / den` divided by `base ^ exponent`, again as a ratio. -/
def unscale (base : Nat) (exponent : Int) (num den : Nat) : Nat × Nat :=
  match exponent with
  | .ofNat e => (num, den * Nat.pow base e)
  | .negSucc e => (num * Nat.pow base (e + 1), den)

def roundHalfEven (num den : Nat) : Nat :=
  let quotient := num / den
  let twice := 2 * (num % den)
  if twice < den then quotient
  else if den < twice then quotient + 1
  else if quotient % 2 = 0 then quotient else quotient + 1

def BinaryFormat.exponentOf (format : BinaryFormat) (num den : Nat) : Int :=
  let guess := max format.lowest ((num.log2 : Int) - den.log2 - format.bits)
  let (n, d) := unscale 2 guess num den
  -- The logarithms leave the quotient in doubt by one bit.
  if Nat.pow 2 format.bits ≤ n / d then guess + 1 else guess

/-- The nearest number of the format; none when it is too large for the format. -/
def BinaryFormat.nearest (format : BinaryFormat) (num den : Nat) : Option Scaled :=
  if num = 0 then some ⟨0, format.lowest⟩ else
  let exponent := format.exponentOf num den
  let (n, d) := unscale 2 exponent num den
  let m := roundHalfEven n d
  let result : Scaled := if m = Nat.pow 2 format.bits then ⟨m / 2, exponent + 1⟩ else ⟨m, exponent⟩
  if format.highest < result.exponent then none else some result

def Scaled.bitsOf (s : Scaled) : Nat :=
  if s.significand < Nat.pow 2 52 then s.significand
  else (s.exponent + 1075).toNat * Nat.pow 2 52 + (s.significand - Nat.pow 2 52)

def Scaled.toFloat (s : Scaled) (negative : Bool) : Float :=
  Float.ofBits (UInt64.ofNat (s.bitsOf + if negative then Nat.pow 2 63 else 0))

/-- A value of any format in double precision; none stands for an infinity. -/
def widen (negative : Bool) : Option Scaled → Float
  | none => Float.ofBits (if negative then 0xFFF0000000000000 else 0x7FF0000000000000)
  | some s =>
    let (n, d) := unscale 2 (-s.exponent) s.significand 1
    match binary64.nearest n d with
    | some s => s.toFloat negative
    | none => Float.ofBits (if negative then 0xFFF0000000000000 else 0x7FF0000000000000)

def signOf (x : Float) : Bool :=
  x.toBits.toNat / Nat.pow 2 63 = 1

def magnitudeOf (x : Float) : Scaled :=
  let bits := x.toBits.toNat
  let biased : Nat := bits / Nat.pow 2 52 % Nat.pow 2 11
  let fraction : Nat := bits % Nat.pow 2 52
  if biased = 0 then ⟨fraction, -1074⟩ else ⟨fraction + Nat.pow 2 52, (biased : Int) - 1075⟩

def isFiniteFloat (x : Float) : Bool :=
  x.toBits.toNat / Nat.pow 2 52 % Nat.pow 2 11 != 2047

def floatOfNat (n : Nat) : Float :=
  widen false (binary64.nearest n 1)

def floatOfInt : Int → Float
  | .ofNat n => floatOfNat n
  | .negSucc n => -(floatOfNat (n + 1))

end EntitySearch.Number
