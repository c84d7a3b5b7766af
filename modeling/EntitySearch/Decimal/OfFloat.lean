import EntitySearch.Decimal.Basic

/-! The decimal nearest to a double, at the precision a double guarantees.

A whole number has to fit 96 bits. Otherwise the significand takes in the power
of two digit by digit within 96 bits, and then places are given up until it has
less than 53 bits.
-/

set_option autoImplicit false

namespace EntitySearch.Decimal

/-- Take in `2 ^ -steps`: halve while even, otherwise multiply by five and shift the point. -/
def takeHalves : Nat → Nat → Int → Nat × Int
  | 0, m, exponent => (m, exponent)
  | steps + 1, m, exponent =>
    if m % 2 = 0 then takeHalves steps (m / 2) (exponent + 1)
    else if m * 5 < Nat.pow 2 96 then takeHalves steps (m * 5) exponent
    else takeHalves steps (m / 2) (exponent + 1)

def tenth (m : Nat) : Nat :=
  if 5 ≤ m % 10 then m / 10 + 1 else m / 10

/-- Give up places beyond the 28th; a number that runs out of digits becomes zero. -/
def dropDeep : Nat → Nat → Nat → Nat × Nat
  | 0, m, scale => (m, scale)
  | fuel + 1, m, scale =>
    if scale ≤ 28 then (m, scale)
    else if m / 10 = 0 then (0, 0)
    else dropDeep fuel (tenth m) (scale - 1)

/-- Give up places that a double does not guarantee. -/
def dropExcess : Nat → Nat → Nat × Nat
  | m, 0 => (m, 0)
  | m, scale + 1 => if Nat.pow 2 52 ≤ m then dropExcess (tenth m) scale else (m, scale + 1)

def ofFraction? (negative : Bool) (significand halvings : Nat) : Option Decimal :=
  let (m, exponent) := takeHalves halvings significand (-halvings)
  -- The power of two is used up; what is left of the exponent is one of ten.
  let scale := (-exponent).toNat
  let (m, scale) := dropDeep scale m scale
  let (m, scale) := dropExcess m scale
  let (m, scale) := dropZeros m scale
  of? negative m scale

/-- Zero keeps the sign of the double. -/
def ofFloat? (x : Float) : Option Decimal :=
  if !Number.isFiniteFloat x then none else
  let s := Number.magnitudeOf x
  let negative := Number.signOf x
  let magnitude := match s.exponent with
    | .ofNat e => of? negative (s.significand * Nat.pow 2 e) 0
    | .negSucc e => ofFraction? negative s.significand (e + 1)
  magnitude.map fun d => { d with negative }

end EntitySearch.Decimal
