import EntitySearch.Number.Binary

/-! Scaled decimals of 96 bits.

A decimal is a whole number of units and the number of its places. Places are
kept, so `1.5` and `1.50` are different decimals of the same value. A result
that needs more than 96 bits gives up places, with a half going to the even
neighbour.
-/

set_option autoImplicit false

namespace EntitySearch

structure Decimal where
  negative : Bool
  units : Nat
  scale : Nat
  units_lt : units < Nat.pow 2 96
  scale_le : scale ≤ 28
  deriving DecidableEq

namespace Decimal

def zero : Decimal := ⟨false, 0, 0, by decide, by decide⟩

instance : Inhabited Decimal := ⟨zero⟩

/-- A decimal within the limits; zero has no sign. -/
def of? (negative : Bool) (units scale : Nat) : Option Decimal :=
  if h : units < Nat.pow 2 96 ∧ scale ≤ 28 then
    some ⟨negative && units != 0, units, scale, h.1, h.2⟩
  else none

def ofInt? (i : Int) : Option Decimal :=
  of? (i < 0) i.natAbs 0

def coefficient (d : Decimal) : Int :=
  if d.negative then -d.units else d.units

/-- The coefficient at 28 places, where all decimals can be compared. -/
def aligned (d : Decimal) : Int :=
  d.coefficient * Int.pow 10 (28 - d.scale)

def compare (a b : Decimal) : Ordering :=
  Ord.compare a.aligned b.aligned

def same (a b : Decimal) : Bool :=
  a.aligned == b.aligned

def abs (d : Decimal) : Decimal :=
  { d with negative := false }

/-- How many places to give up so that the units fit. -/
def surplus? (units scale : Nat) : Option Nat :=
  (List.range (scale + 1)).find? fun k => units / Nat.pow 10 k < Nat.pow 2 96 && scale - k ≤ 28

/-- Fit an exact result into the limits, if its whole part does. -/
def fit? (negative : Bool) (units scale : Nat) : Option Decimal := do
  let k ← surplus? units scale
  let rounded := Number.roundHalfEven units (Nat.pow 10 k)
  -- Rounding up may carry beyond 96 bits, which costs one more place.
  match of? negative rounded (scale - k) with
  | some d => some d
  | none =>
    if k < scale then of? negative (Number.roundHalfEven rounded 10) (scale - k - 1) else none

/-- The sum; a zero leaves the other operand as it is. -/
def add? (a b : Decimal) : Option Decimal :=
  if a.units = 0 then some b
  else if b.units = 0 then some a
  else
    let scale := max a.scale b.scale
    let sum := a.coefficient * Int.pow 10 (scale - a.scale) + b.coefficient * Int.pow 10 (scale - b.scale)
    fit? (sum < 0) sum.natAbs scale

def scaleUp? (d : Decimal) (power : Nat) : Option Decimal :=
  if d.units = 0 then some zero else fit? d.negative (d.units * Nat.pow 10 power) d.scale

def dropZeros (units : Nat) : Nat → Nat × Nat
  | 0 => (units, 0)
  | scale + 1 => if units % 10 = 0 then dropZeros (units / 10) scale else (units, scale + 1)

def normalize (d : Decimal) : Decimal :=
  let (units, scale) := dropZeros d.units d.scale
  (of? d.negative units scale).getD d

/-- A quotient in the making: the units divided so far, what remains, and the places. -/
structure Quotient where
  units : Nat
  remainder : Nat
  scale : Nat

namespace Quotient

def room (q : Quotient) : Nat :=
  ([9, 8, 7, 6, 5, 4, 3, 2, 1].find? fun k =>
    q.scale + k ≤ 28 && q.units * Nat.pow 10 k < Nat.pow 2 96).getD 0

/-- Take on places until nothing remains, there is no room, or the units outgrow 96 bits. -/
def extend (n : Nat) : Nat → Quotient → Quotient
  | 0, q => q
  | rounds + 1, q =>
    let k := q.room
    if q.remainder = 0 ∨ k = 0 then q
    else
      let next := q.remainder * Nat.pow 10 k
      extend n rounds ⟨q.units * Nat.pow 10 k + next / n, next % n, q.scale + k⟩

def settle (n : Nat) (q : Quotient) : Nat × Nat :=
  let exact := q.units * n + q.remainder
  let units := Number.roundHalfEven exact n
  if units < Nat.pow 2 96 then (units, q.scale) else (Number.roundHalfEven exact (10 * n), q.scale - 1)

def dropExactly (count : Nat) (p : Nat × Nat) : Nat × Nat :=
  if count ≤ p.2 ∧ p.1 % Nat.pow 10 count = 0 then (p.1 / Nat.pow 10 count, p.2 - count) else p

/-- Drop groups of eight zeros while the last 32 bits are zero, and then up to seven zeros. -/
def shorten (p : Nat × Nat) : Nat × Nat :=
  let group (p : Nat × Nat) := if p.1 % Nat.pow 2 32 = 0 then dropExactly 8 p else p
  dropExactly 1 (dropExactly 2 (dropExactly 4 (group (group (group p)))))

end Quotient

/-- Divide by a positive number. An exact quotient keeps the places; any other takes on places
and then drops zeros at the end. -/
def divNat (d : Decimal) (n : Nat) : Decimal :=
  if d.units = 0 then zero
  else if d.units % n = 0 then (of? d.negative (d.units / n) d.scale).getD zero
  else
    let q := Quotient.extend n 28 ⟨d.units / n, d.units % n, d.scale⟩
    let (units, scale) := Quotient.shorten (q.settle n)
    (of? d.negative units scale).getD zero

theorem coefficient_of? {negative : Bool} {units scale : Nat} {d : Decimal}
    (h : of? negative units scale = some d) :
    d.coefficient = if negative then -(units : Int) else units := by
  unfold of? at h
  split at h
  · cases Option.some.inj h
    cases negative <;> by_cases z : units = 0 <;> simp [coefficient, z]
  · cases h

theorem exists_ofInt? {i : Int} (fits : i.natAbs < Nat.pow 2 96) :
    ∃ d, ofInt? i = some d ∧ d.units = i.natAbs ∧ d.coefficient = i ∧ d.scale = 0 := by
  have bounds : i.natAbs < Nat.pow 2 96 ∧ 0 ≤ 28 := ⟨fits, by decide⟩
  have made : ofInt? i = some ⟨i < 0 && i.natAbs != 0, i.natAbs, 0, bounds.1, bounds.2⟩ :=
    dif_pos bounds
  refine ⟨_, made, rfl, ?_, rfl⟩
  rw [coefficient_of? made]
  simp only [decide_eq_true_eq]
  split <;> omega

end Decimal

end EntitySearch
