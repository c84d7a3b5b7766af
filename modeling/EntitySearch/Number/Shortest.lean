import EntitySearch.Number.Binary
import EntitySearch.Number.Whole

/-! The shortest decimal that reads back as a given double.

A decimal reads back when it lies between the midpoints to the two neighbouring
doubles; a midpoint itself counts when the significand is even. Grids of one
digit, two digits and so on are tried in turn, and of two decimals on the first
grid with a hit the nearer one is taken.
-/

set_option autoImplicit false

namespace EntitySearch.Number

/-- What to do with two equally near decimals. -/
inductive TieRule
  | toEven
  | up
  deriving DecidableEq, Repr

/-- The number `digits * 10 ^ exponent`. -/
structure Decimals where
  digits : Nat
  exponent : Int
  deriving DecidableEq, Repr

/-- The decimal exponent `t` with `10 ^ (t - 1) ≤ s < 10 ^ t`, for a nonzero double `s`. -/
def decimalTop (s : Scaled) : Int :=
  let (n, d) := unscale 2 (-s.exponent) (s.significand * Nat.pow 10 400) 1
  ((digitsOf (n / d)).length : Int) - 400

/-- The best decimal with a multiple of `10 ^ place` that reads back as `s`. -/
def readsBackAt (tie : TieRule) (s : Scaled) (place : Int) : Option Decimals :=
  let (a, b) := unscale 2 (-(s.exponent - 2)) 1 1
  let (a, b) := unscale 10 place a b
  -- In quarters of the last place both midpoints are whole.
  let value := 4 * s.significand * a
  -- The double below a power of two is only half as far away.
  let below := if s.significand = Nat.pow 2 52 ∧ -1074 < s.exponent then 1 else 2
  let low := value - below * a
  let high := value + 2 * a
  let fits (c : Nat) : Bool :=
    if s.significand % 2 = 0 then low ≤ c * b && c * b ≤ high else low < c * b && c * b < high
  let down := value / b
  let upward := down + 1
  let downGap := value - down * b
  let upGap := upward * b - value
  let preferUp :=
    upGap < downGap || (upGap == downGap && (tie == .up || down % 2 == 1))
  match fits down, fits upward with
  | true, true => some ⟨if preferUp then upward else down, place⟩
  | true, false => some ⟨down, place⟩
  | false, true => some ⟨upward, place⟩
  | false, false => none

def dropZeros : Nat → Decimals → Decimals
  | 0, d => d
  | fuel + 1, d =>
    if d.digits ≠ 0 ∧ d.digits % 10 = 0 then dropZeros fuel ⟨d.digits / 10, d.exponent + 1⟩ else d

/-- Seventeen digits always suffice for a double. -/
def shortest (tie : TieRule) (s : Scaled) : Decimals :=
  let top := decimalTop s
  let hit := (List.range 17).findSome? fun (n : Nat) => readsBackAt tie s (top - (n + 1))
  dropZeros 20 (hit.getD ⟨0, 0⟩)

end EntitySearch.Number
