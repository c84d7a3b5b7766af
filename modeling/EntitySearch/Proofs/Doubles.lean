import Mathlib
import EntitySearch.Value.Order

/-! The order of doubles.

Behind the sign, the bits of a double grow with its magnitude. The bits as a
number, negative for doubles with the sign, rank all doubles that are numbers.
-/

set_option autoImplicit false

namespace EntitySearch.Number

open Float.Model Float.Model.UnpackedFloat

/-- The bits behind the sign as a number, which the sign makes negative. -/
def rankOfBits (bits : Nat) : Int :=
  if bits / 2 ^ 63 = 1 then -(bits % 2 ^ 63 : Nat) else (bits % 2 ^ 63 : Nat)

/-- Where a double stands among all doubles that are numbers. -/
def rank (x : Float) : Int := rankOfBits x.toBits.toNat

def position (e : Int) (m : Nat) : Int := (e + 1074) * 2 ^ 52 + m

/-- Significands have 53 bits, or fewer at the lowest exponent. -/
structure Normal (m : Nat) (e : Int) : Prop where
  below : m < 2 ^ 53
  low : -1074 ≤ e
  high : e ≤ 971
  least : e = -1074 ∨ 2 ^ 52 ≤ m

def unpackedRank : UnpackedFloat → Int
  | .infinity s => s.apply (2047 * 2 ^ 52)
  | .zero _ | .notANumber => 0
  | .finite s m e _ => s.apply (position e m)

def Canonical : UnpackedFloat → Prop
  | .finite _ m e _ => Normal m e
  | .infinity _ | .zero _ => True
  | .notANumber => False

theorem compare_neg (a b : Int) : compare (-a) (-b) = compare b a := by
  have falls : StrictAnti fun a : Int => -a := fun _ _ less => Int.neg_lt_neg less
  simpa only [cmp_eq_compare] using falls.cmp_map_eq a b

theorem Normal.compare_position {m n : Nat} {e f : Int} (left : Normal m e) (right : Normal n f) :
    (compare e f).then (compare m n) = compare (position e m) (position f n) := by
  obtain ⟨below, low, -, least⟩ := left
  obtain ⟨below', low', -, least'⟩ := right
  rcases lt_trichotomy e f with before | rfl | behind
  · have first : compare e f = .lt := compare_lt_iff_lt.mpr before
    rw [first, Ordering.lt_then, eq_comm, compare_lt_iff_lt, position, position]
    omega
  · have tie : compare e e = .eq := compare_eq_iff_eq.mpr rfl
    have rises : StrictMono (position e) := by
      intro m n less
      unfold position
      omega
    rw [tie, Ordering.eq_then]
    simpa only [cmp_eq_compare] using (rises.cmp_map_eq m n).symm
  · have first : compare e f = .gt := compare_gt_iff_gt.mpr behind
    rw [first, Ordering.gt_then, eq_comm, compare_gt_iff_gt, position, position]
    omega

theorem Normal.position_pos {m : Nat} {e : Int} (h : Normal m e) (positive : 0 < m) :
    0 < position e m := by
  have low := h.low
  unfold position
  omega

theorem unpackedRank_finite {x : UnpackedFloat} (canonical : Canonical x)
    (finite : ∀ s, x ≠ .infinity s) :
    -(2047 * 2 ^ 52) < unpackedRank x ∧ unpackedRank x < 2047 * 2 ^ 52 := by
  cases x with
  | notANumber => cases canonical
  | infinity s => exact absurd rfl (finite s)
  | zero s => simp [unpackedRank]
  | finite s m e positive =>
    obtain ⟨below, low, high, -⟩ := canonical
    cases s <;> simp only [unpackedRank, Sign.apply, position] <;> omega

theorem compare_canonical {x y : UnpackedFloat} (left : Canonical x) (right : Canonical y) :
    x.compare y = some (compare (unpackedRank x) (unpackedRank y)) := by
  have lt : ∀ {a b : Int}, a < b → some .lt = some (compare a b) := fun less =>
    congrArg some (compare_lt_iff_lt.mpr less).symm
  have gt : ∀ {a b : Int}, b < a → some .gt = some (compare a b) := fun more =>
    congrArg some (compare_gt_iff_gt.mpr more).symm
  fun_cases UnpackedFloat.compare x y with
  | case1 => cases left
  | case2 => cases right
  | case3 s t => cases s <;> cases t <;> rfl
  | case4 _ _ finite => exact gt (unpackedRank_finite right finite).2
  | case5 _ _ finite => exact lt (unpackedRank_finite right finite).1
  | case6 _ _ finite => exact lt (unpackedRank_finite left finite).2
  | case7 _ _ finite => exact gt (unpackedRank_finite left finite).1
  | case8 m e positive => exact gt (left.position_pos positive)
  | case9 m e positive => exact lt (Int.neg_neg_of_pos (left.position_pos positive))
  | case10 _ m e positive => exact lt (right.position_pos positive)
  | case11 _ m e positive => exact gt (Int.neg_neg_of_pos (right.position_pos positive))
  | case12 => rfl
  | case13 =>
    simp only [unpackedRank, Sign.apply, left.compare_position right, compare_neg, Int.compare_swap]
  | case14 m e positive n f positive' =>
    exact lt ((Int.neg_neg_of_pos (left.position_pos positive)).trans (right.position_pos positive'))
  | case15 m e positive n f positive' =>
    exact gt ((Int.neg_neg_of_pos (right.position_pos positive')).trans (left.position_pos positive))
  | case16 => simp only [unpackedRank, Sign.apply, left.compare_position right]

section
variable (b : BitVec 64)

theorem unpackExponent_toNat :
    (@unpackExponent .binary64 b).toNat = b.toNat / 2 ^ 52 % 2 ^ 11 := by
  rw [unpackExponent_def, BitVec.extractLsb'_toNat, Nat.shiftRight_eq_div_pow]

theorem unpackMantissa_toNat :
    (@unpackMantissa .binary64 b).toNat = b.toNat % 2 ^ 52 := by
  rw [unpackMantissa_def, BitVec.extractLsb'_toNat, Nat.shiftRight_eq_div_pow, Nat.pow_zero,
    Nat.div_one]

theorem unpackExponent_iff (e : BitVec 11) :
    @unpackExponent .binary64 b = e ↔ b.toNat / 2 ^ 52 % 2 ^ 11 = e.toNat := by
  rw [← unpackExponent_toNat, BitVec.toNat_inj]

theorem unpackMantissa_iff :
    @unpackMantissa .binary64 b = 0#52 ↔ b.toNat % 2 ^ 52 = 0 := by
  rw [← unpackMantissa_toNat, ← BitVec.toNat_inj]
  rfl

theorem unpackSign_apply {r : Int} (magnitude : r = (b.toNat % 2 ^ 63 : Nat)) :
    (Sign.ofBitVec (@unpackSign .binary64 b)).apply r = rankOfBits b.toNat := by
  have bit : (@unpackSign .binary64 b).toNat = b.toNat / 2 ^ 63 := by
    have whole := b.isLt
    rw [unpackSign_def, BitVec.extractLsb'_toNat, Nat.shiftRight_eq_div_pow]
    show b.toNat / 2 ^ 63 % 2 = b.toNat / 2 ^ 63
    omega
  rw [rankOfBits, ← bit, ← magnitude]
  generalize @unpackSign .binary64 b = s
  obtain rfl | rfl : s = 0#1 ∨ s = 1#1 := by decide +revert
  · rfl
  · rfl

theorem implicit_bit (m : BitVec 52) : (1#1 ++ m).toNat = 2 ^ 52 + m.toNat := by
  have joined := Nat.two_pow_add_eq_or_of_lt m.isLt 1
  rw [Nat.mul_one] at joined
  rw [BitVec.toNat_append, joined]
  rfl

end

section
variable {b : BitVec 64}

theorem unpack_canonical (number : b.toNat % 2 ^ 63 ≤ 2047 * 2 ^ 52) :
    Canonical (UnpackedFloat.unpack .binary64 b) ∧
      unpackedRank (UnpackedFloat.unpack .binary64 b) = rankOfBits b.toNat := by
  have exponent := unpackExponent_toNat b
  have mantissa := unpackMantissa_toNat b
  have bias : ((Format.exponentBias .binary64 : Nat) : Int) + (52 : Nat) = 1075 := by decide
  fun_cases UnpackedFloat.unpack Format.binary64 b with
  | case1 m e v s ones none =>
    have ones : b.toNat / 2 ^ 52 % 2 ^ 11 = 2047 := (unpackExponent_iff b (-1#11)).mp ones
    have none := (unpackMantissa_iff b).mp none
    exact ⟨trivial, unpackSign_apply b (by omega)⟩
  | case2 m e ones some =>
    have ones : b.toNat / 2 ^ 52 % 2 ^ 11 = 2047 := (unpackExponent_iff b (-1#11)).mp ones
    have some := mt (unpackMantissa_iff b).mpr some
    omega
  | case3 m e v s _ zeros none =>
    have zeros : b.toNat / 2 ^ 52 % 2 ^ 11 = 0 := (unpackExponent_iff b 0#11).mp zeros
    have none := (unpackMantissa_iff b).mp none
    have magnitude : b.toNat % 2 ^ 63 = 0 := by omega
    refine ⟨trivial, ?_⟩
    rw [rankOfBits, magnitude]
    split <;> rfl
  | case4 m e x v s _ zeros some =>
    have zeros : b.toNat / 2 ^ 52 % 2 ^ 11 = 0 := (unpackExponent_iff b 0#11).mp zeros
    refine ⟨?_, unpackSign_apply b ?_⟩
    · simp only [Canonical, m, x, mantissa, exponent, bias, e]
      constructor <;> omega
    · simp only [position, m, x, mantissa, exponent, bias, e]
      omega
  | case5 m e x v s ones zeros =>
    have zeros : b.toNat / 2 ^ 52 % 2 ^ 11 ≠ 0 := mt (unpackExponent_iff b 0#11).mpr zeros
    have ones : b.toNat / 2 ^ 52 % 2 ^ 11 ≠ 2047 := mt (unpackExponent_iff b (-1#11)).mpr ones
    refine ⟨?_, unpackSign_apply b ?_⟩
    · simp only [Canonical, m, x, mantissa, exponent, bias, e, implicit_bit]
      constructor <;> omega
    · simp only [position, m, x, mantissa, exponent, bias, e, implicit_bit]
      omega

theorem unpack_nan (beyond : 2047 * 2 ^ 52 < b.toNat % 2 ^ 63) :
    UnpackedFloat.unpack .binary64 b = .notANumber := by
  have ones : @unpackExponent .binary64 b = -1#11 := by
    apply (unpackExponent_iff b _).mpr
    show b.toNat / 2 ^ 52 % 2 ^ 11 = 2047
    omega
  have some : @unpackMantissa .binary64 b ≠ 0#52 := by
    intro none
    have := (unpackMantissa_iff b).mp none
    omega
  simp only [UnpackedFloat.unpack]
  rw [if_pos ones, if_neg some]

theorem isNaNBits_iff :
    @isNaNBits .binary64 b = false ↔ b.toNat % 2 ^ 63 ≤ 2047 * 2 ^ 52 := by
  have ones : @unpackExponent .binary64 b = -1#11 ↔ b.toNat / 2 ^ 52 % 2 ^ 11 = 2047 :=
    unpackExponent_iff b (-1#11)
  rw [isNaNBits, decide_eq_false_iff_not, ones, Ne, unpackMantissa_iff]
  omega

end

section
variable {x y : Float}

theorem isNaN_iff_bits : x.isNaN = false ↔ x.toBits.toNat % 2 ^ 63 ≤ 2047 * 2 ^ 52 := by
  have unpacked : x.isNaN = (UnpackedFloat.unpack .binary64 x.toBits.toBitVec).isNaN := rfl
  have bits : x.toBits.toBitVec.toNat = x.toBits.toNat := rfl
  rw [unpacked, ← bits]
  constructor
  · intro number
    by_contra beyond
    rw [unpack_nan (by omega)] at number
    cases number
  · intro number
    have canonical := (unpack_canonical number).1
    cases unpacked : UnpackedFloat.unpack .binary64 x.toBits.toBitVec with
    | notANumber =>
      rw [unpacked] at canonical
      cases canonical
    | _ => rfl

theorem unpack_number (number : x.isNaN = false) :
    Canonical x.toModel.unpack ∧ unpackedRank x.toModel.unpack = rank x :=
  unpack_canonical (isNaN_iff_bits.mp number)

theorem lt_iff_compare : x < y ↔ x.toModel.unpack.compare y.toModel.unpack = some .lt := by
  show decide (x.toModel.unpack.lt y.toModel.unpack = true) = true ↔ _
  rw [decide_eq_true_iff]
  exact beq_iff_eq

theorem beq_iff_compare :
    (x == y) = true ↔ x.toModel.unpack.compare y.toModel.unpack = some .eq := by
  show (x.toModel.unpack.compare y.toModel.unpack == some .eq) = true ↔ _
  exact beq_iff_eq

/-- Numbers are ordered by their ranks. -/
theorem compareFloat_rank (left : x.isNaN = false) (right : y.isNaN = false) :
    Value.compareFloat x y = some (compare (rank x) (rank y)) := by
  obtain ⟨canonical, ranked⟩ := unpack_number left
  obtain ⟨canonical', ranked'⟩ := unpack_number right
  simp only [Value.compareFloat, lt_iff_compare, beq_iff_compare,
    compare_canonical canonical canonical', compare_canonical canonical' canonical, ranked, ranked',
    Option.some.injEq]
  rw [← Int.compare_swap (rank x) (rank y)]
  cases compare (rank x) (rank y) <;> rfl

theorem compareFloat_nan (nan : x.isNaN = true ∨ y.isNaN = true) :
    Value.compareFloat x y = none := by
  have unordered : ∀ {x y : Float}, (x.isNaN = true ∨ y.isNaN = true) →
      x.toModel.unpack.compare y.toModel.unpack = none := by
    intro x y nan
    have unpacked : ∀ {x : Float}, x.isNaN = true → x.toModel.unpack = .notANumber := isNaN_iff.mp
    rcases nan with nan | nan
    · rw [unpacked nan]
      rfl
    · rw [unpacked nan]
      cases x.toModel.unpack <;> rfl
  simp only [Value.compareFloat, lt_iff_compare, beq_iff_compare, unordered nan, unordered nan.symm]
  rfl

theorem toBits_ofBits {bits : Nat} (fits : bits < 2 ^ 64)
    (number : bits % 2 ^ 63 ≤ 2047 * 2 ^ 52) :
    (Float.ofBits (UInt64.ofNat bits)).toBits.toNat = bits := by
  have whole : (UInt64.ofNat bits).toBitVec.toNat = bits := Nat.mod_eq_of_lt fits
  have packed := @pack_unpack .binary64 (UInt64.ofNat bits).toBitVec (by decide)
  rw [isNaNBits_iff.mpr (by rwa [whole])] at packed
  exact (congrArg BitVec.toNat packed).trans whole

theorem unpack_neg (s : Sign) (e : BitVec 11) (m : BitVec 52) :
    UnpackedFloat.unpack .binary64 (packComponents .binary64 (-s) e m) =
      (UnpackedFloat.unpack .binary64 (packComponents .binary64 s e m)).neg := by
  simp only [UnpackedFloat.unpack, unpackExponent_packComponents, unpackMantissa_packComponents,
    unpackSign_packComponents, Sign.ofBitVec_toBitVec]
  split_ifs <;> rfl

theorem neg_unpack (number : x.isNaN = false) :
    (-x).toModel.unpack = x.toModel.unpack.neg := by
  have parts := @packComponents_unpackSign_unpackExponent_unpackMantissa .binary64
    x.toBits.toBitVec
  generalize Sign.ofBitVec _ = s at parts
  generalize unpackExponent _ = e at parts
  generalize unpackMantissa _ = m at parts
  have flipped : x.toModel.unpack.neg =
      UnpackedFloat.unpack .binary64 (packComponents .binary64 (-s) e m) := by
    rw [unpack_neg, parts]
    rfl
  have valid : isNaNBits (packComponents .binary64 (-s) e m) = false := by
    have own := (isNaNBits_iff (b := x.toBits.toBitVec)).mpr (isNaN_iff_bits.mp number)
    rw [← parts] at own
    simpa only [isNaNBits, unpackExponent_packComponents, unpackMantissa_packComponents] using own
  have packed := @pack_unpack .binary64 (packComponents .binary64 (-s) e m) (by decide)
  rw [valid] at packed
  show UnpackedFloat.unpack .binary64 (UnpackedFloat.pack .binary64 x.toModel.unpack.neg) = _
  rw [flipped, packed]
  rfl

theorem rank_neg (number : x.isNaN = false) : (-x).isNaN = false ∧ rank (-x) = -rank x := by
  have unpacked := neg_unpack number
  have negated : (-x).isNaN = false := by
    have own : x.toModel.unpack.isNaN = false := number
    show (-x).toModel.unpack.isNaN = false
    rw [unpacked]
    generalize x.toModel.unpack = u at own
    cases u with
    | notANumber => cases own
    | _ => rfl
  refine ⟨negated, ?_⟩
  rw [← (unpack_number number).2, ← (unpack_number negated).2, unpacked]
  cases x.toModel.unpack with
  | notANumber => rfl
  | zero s => rfl
  | infinity s => cases s <;> rfl
  | finite s m e positive =>
    cases s with
    | negative => exact (Int.neg_neg _).symm
    | positive => rfl

end

end EntitySearch.Number
