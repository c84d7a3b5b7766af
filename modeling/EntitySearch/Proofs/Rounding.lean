import EntitySearch.Proofs.Doubles

/-! Whole numbers as doubles.

Rounding keeps the order: a larger ratio has a larger exponent or, with the same
exponent, a significand that is not smaller. Its bits are no fewer then, and the
bits of infinity are above all others.
-/

set_option autoImplicit false

namespace EntitySearch.Number

/-- A whole number nearest to another, an even one if there are two. -/
structure Rounds (x : ℚ) (r : Nat) : Prop where
  above : (r : ℚ) ≤ x + 1 / 2
  below : x ≤ r + 1 / 2
  even : (r : ℚ) = x + 1 / 2 ∨ x = r + 1 / 2 → r % 2 = 0

namespace Rounds

variable {x y : ℚ} {r t : Nat}

theorem mono (first : Rounds x r) (second : Rounds y t) (le : x ≤ y) : r ≤ t := by
  by_contra behind
  -- Only halves round apart, and of two neighbours one is odd.
  have next : (t : ℚ) + 1 ≤ r := by exact_mod_cast not_le.mp behind
  have := first.above
  have := second.below
  have odd : r = t + 1 := by
    have : (r : ℚ) = t + 1 := by linarith
    exact_mod_cast this
  have := first.even (.inl (by linarith))
  have := second.even (.inr (by linarith))
  omega

theorem self (n : Nat) : Rounds n n :=
  ⟨by linarith, by linarith, by rintro (h | h) <;> linarith⟩

end Rounds

theorem roundHalfEven_rounds (num : Nat) {den : Nat} (positive : 0 < den) :
    Rounds (num / den) (roundHalfEven num den) := by
  have divides : (0 : ℚ) < den := by exact_mod_cast positive
  obtain ⟨rest, restEq⟩ : ∃ rest : ℚ, rest = ((num % den : Nat) : ℚ) / den := ⟨_, rfl⟩
  have quotient : (num : ℚ) / den = (num / den : Nat) + rest := by
    have whole : (num : ℚ) = den * (num / den : Nat) + (num % den : Nat) := by
      exact_mod_cast (Nat.div_add_mod num den).symm
    rw [restEq, whole]
    field_simp
  have nonneg : 0 ≤ rest := by
    rw [restEq]
    positivity
  have small : rest < 1 := by
    rw [restEq, div_lt_one divides]
    exact_mod_cast Nat.mod_lt num positive
  have less : 2 * (num % den) < den ↔ rest < 1 / 2 := by
    rw [restEq, div_lt_iff₀ divides, ← @Nat.cast_lt ℚ]
    push_cast
    constructor <;> intro <;> linarith
  have more : den < 2 * (num % den) ↔ 1 / 2 < rest := by
    rw [restEq, lt_div_iff₀ divides, ← @Nat.cast_lt ℚ]
    push_cast
    constructor <;> intro <;> linarith
  simp only [roundHalfEven, less, more, quotient]
  split
  · exact ⟨by linarith, by linarith, by rintro (h | h) <;> linarith⟩
  · split
    · refine ⟨by push_cast; linarith, by push_cast; linarith, ?_⟩
      rintro (h | h) <;> push_cast at h <;> linarith
    · have half : rest = 1 / 2 := by linarith
      split
      · next even => exact ⟨by linarith, by linarith, fun _ => even⟩
      · exact ⟨by push_cast; linarith, by push_cast; linarith, fun _ => by omega⟩

theorem unscale_ratio (e : Int) (num den : Nat) (positive : 0 < den) :
    0 < (unscale 2 e num den).2 ∧
      ((unscale 2 e num den).1 : ℚ) / (unscale 2 e num den).2 = num / den / 2 ^ e := by
  cases e with
  | ofNat e =>
    refine ⟨Nat.mul_pos positive (Nat.pow_pos (by decide)), ?_⟩
    simp only [unscale, Int.ofNat_eq_natCast, zpow_natCast, Nat.pow_eq]
    push_cast
    rw [div_div]
  | negSucc e =>
    refine ⟨positive, ?_⟩
    simp only [unscale, zpow_negSucc, Nat.pow_eq]
    push_cast
    rw [div_inv_eq_mul, mul_div_right_comm]

theorem log2_bounds {n : Nat} (positive : 0 < n) :
    (2 : ℚ) ^ (n.log2 : Int) ≤ n ∧ (n : ℚ) < 2 ^ ((n.log2 : Int) + 1) := by
  constructor
  · rw [zpow_natCast]
    exact_mod_cast Nat.log2_self_le positive.ne'
  · have above : n < 2 ^ (n.log2 + 1) := Nat.lt_log2_self
    exact_mod_cast above

theorem ratio_bounds {num den : Nat} (positive : 0 < num) (divides : 0 < den) :
    (2 : ℚ) ^ ((num.log2 : Int) - den.log2 - 1) < num / den ∧
      (num / den : ℚ) < 2 ^ ((num.log2 : Int) - den.log2 + 1) := by
  obtain ⟨low, high⟩ := log2_bounds positive
  obtain ⟨low', high'⟩ := log2_bounds divides
  have two : (2 : ℚ) ≠ 0 := two_ne_zero
  have pos : (0 : ℚ) < den := by exact_mod_cast divides
  constructor
  · rw [lt_div_iff₀ pos]
    calc
      (2 : ℚ) ^ ((num.log2 : Int) - den.log2 - 1) * den
          < 2 ^ ((num.log2 : Int) - den.log2 - 1) * 2 ^ ((den.log2 : Int) + 1) := by gcongr
      _ = 2 ^ (num.log2 : Int) := by
        rw [← zpow_add₀ two]
        congr 1
        ring
      _ ≤ num := low
  · rw [div_lt_iff₀ pos]
    calc
      (num : ℚ) < 2 ^ ((num.log2 : Int) + 1) := high
      _ = 2 ^ ((num.log2 : Int) - den.log2 + 1) * 2 ^ (den.log2 : Int) := by
        rw [← zpow_add₀ two]
        congr 1
        ring
      _ ≤ 2 ^ ((num.log2 : Int) - den.log2 + 1) * den := by gcongr

/-- The exponent leaves a ratio 53 bits, or fewer at the lowest exponent. -/
theorem exponentOf_spec {num den : Nat} (positive : 0 < num) (divides : 0 < den) :
    -1074 ≤ binary64.exponentOf num den ∧
      (num / den : ℚ) < 2 ^ (binary64.exponentOf num den + 53) ∧
      (binary64.exponentOf num den = -1074 ∨
        (2 : ℚ) ^ (binary64.exponentOf num den + 52) ≤ num / den) := by
  obtain ⟨lower, upper⟩ := ratio_bounds positive divides
  obtain ⟨g, guess⟩ : ∃ g : Int, max (-1074) ((num.log2 : Int) - den.log2 - 53) = g := ⟨_, rfl⟩
  obtain ⟨pos, ratio⟩ := unscale_ratio g num den divides
  have pos' : (0 : ℚ) < (unscale 2 g num den).2 := by exact_mod_cast pos
  have tests : Nat.pow 2 53 ≤ (unscale 2 g num den).1 / (unscale 2 g num den).2 ↔
      (2 : ℚ) ^ (g + 53) ≤ num / den := by
    rw [Nat.le_div_iff_mul_le pos, ← @Nat.cast_le ℚ, Nat.cast_mul, ← le_div_iff₀ pos', ratio,
      le_div_iff₀ (by positivity), add_comm, zpow_add₀ two_ne_zero]
    norm_cast
  have exponent : binary64.exponentOf num den =
      if (2 : ℚ) ^ (g + 53) ≤ num / den then g + 1 else g := by
    have tested : binary64.exponentOf num den =
        if Nat.pow 2 53 ≤ (unscale 2 g num den).1 / (unscale 2 g num den).2 then g + 1 else g :=
      guess ▸ rfl
    simp only [tested, tests]
  have rises : ∀ {e f : Int}, e ≤ f → (2 : ℚ) ^ e ≤ 2 ^ f := zpow_le_zpow_right₀ one_le_two
  rw [exponent]
  split
  · next more =>
    refine ⟨by omega, upper.trans_le (rises (by omega)), .inr ?_⟩
    rwa [show g + 1 + 52 = g + 53 by ring]
  · next less =>
    refine ⟨by omega, not_le.mp less, ?_⟩
    by_cases lowest : g = -1074
    · exact .inl lowest
    · exact .inr ((rises (by omega)).trans lower.le)

structure Nearest (x : ℚ) (e : Int) (m : Nat) : Prop where
  low : -1074 ≤ e
  high : x < 2 ^ (e + 53)
  least : e = -1074 ∨ (2 : ℚ) ^ (e + 52) ≤ x
  rounds : Rounds (x / 2 ^ e) m

namespace Nearest

variable {x y : ℚ} {e f : Int} {m n : Nat}

theorem zero : Nearest 0 (-1074) 0 where
  low := le_rfl
  high := by positivity
  least := .inl rfl
  rounds := by
    rw [zero_div]
    exact_mod_cast Rounds.self 0

theorem below (h : Nearest x e m) : m ≤ 2 ^ 53 := by
  apply h.rounds.mono (.self (2 ^ 53))
  rw [div_le_iff₀ (by positivity)]
  have high := h.high.le
  rw [add_comm, zpow_add₀ two_ne_zero] at high
  exact_mod_cast high

theorem normal (h : Nearest x e m) (above : e ≠ -1074) : 2 ^ 52 ≤ m := by
  apply (Rounds.self (2 ^ 52)).mono h.rounds
  rw [le_div_iff₀ (by positivity)]
  have least := h.least.resolve_left above
  rw [add_comm, zpow_add₀ two_ne_zero] at least
  exact_mod_cast least

theorem order (first : Nearest x e m) (second : Nearest y f n) (le : x ≤ y) :
    (e = f ∧ m ≤ n) ∨ (e < f ∧ 2 ^ 52 ≤ n) := by
  rcases lt_trichotomy e f with before | rfl | behind
  · have low := first.low
    exact .inr ⟨before, second.normal (by omega)⟩
  · refine .inl ⟨rfl, first.rounds.mono second.rounds ?_⟩
    gcongr
  · have low := second.low
    have least := first.least.resolve_left (by omega)
    have rises : (2 : ℚ) ^ (f + 53) ≤ 2 ^ (e + 52) := zpow_le_zpow_right₀ one_le_two (by omega)
    exact absurd second.high (by linarith)

theorem position_mono (first : Nearest x e m) (second : Nearest y f n) (le : x ≤ y) :
    position e m ≤ position f n := by
  have below := first.below
  unfold position
  rcases first.order second le with ⟨rfl, less⟩ | ⟨before, normal⟩ <;> omega

theorem value_mono (first : Nearest x e m) (second : Nearest y f n) (le : x ≤ y) :
    (m * 2 ^ e : ℚ) ≤ n * 2 ^ f := by
  rcases first.order second le with ⟨rfl, less⟩ | ⟨before, normal⟩
  · gcongr
  · calc
      (m * 2 ^ e : ℚ) ≤ 2 ^ 53 * 2 ^ e := by
        gcongr
        exact_mod_cast first.below
      _ = 2 ^ 52 * 2 ^ (e + 1) := by
        rw [zpow_add₀ two_ne_zero]
        ring
      _ ≤ n * 2 ^ f := by
        gcongr
        · exact_mod_cast normal
        · exact one_le_two
        · omega

end Nearest

def Scaled.value (s : Scaled) : ℚ := s.significand * 2 ^ s.exponent

theorem bitsOf_position {e : Int} {m : Nat} (low : -1074 ≤ e) (normal : e ≠ -1074 → 2 ^ 52 ≤ m) :
    ((Scaled.bitsOf ⟨m, e⟩ : Nat) : Int) = position e m := by
  have small : Nat.pow 2 52 = 2 ^ 52 := rfl
  simp only [Scaled.bitsOf, position, small]
  split
  · next subnormal =>
    obtain rfl : e = -1074 := by
      by_contra above
      exact absurd (normal above) (by omega)
    omega
  · push_cast
    omega

theorem highest_spec {e : Int} {m : Nat} (low : -1074 ≤ e) (below : m < 2 ^ 53)
    (normal : e ≠ -1074 → 2 ^ 52 ≤ m) :
    ((if 971 < e then none else some (⟨m, e⟩ : Scaled)) = none ∧
        2047 * 2 ^ 52 ≤ position e m) ∨
      ∃ s, (if 971 < e then none else some (⟨m, e⟩ : Scaled)) = some s ∧
        (s.bitsOf : Int) = position e m ∧ position e m < 2047 * 2 ^ 52 ∧ s.value = m * 2 ^ e := by
  split
  · next beyond =>
    have := normal (by omega)
    refine .inl ⟨rfl, ?_⟩
    unfold position
    omega
  · next within =>
    refine .inr ⟨_, rfl, bitsOf_position low normal, ?_, rfl⟩
    unfold position
    omega

/-- Rounding finds a number nearest to a ratio, unless it lies beyond all doubles. -/
theorem nearest_spec (num : Nat) {den : Nat} (divides : 0 < den) :
    ∃ e m, Nearest (num / den) e m ∧
      ((binary64.nearest num den = none ∧ 2047 * 2 ^ 52 ≤ position e m) ∨
        ∃ s, binary64.nearest num den = some s ∧ (s.bitsOf : Int) = position e m ∧
          position e m < 2047 * 2 ^ 52 ∧ s.value = m * 2 ^ e) := by
  rcases Nat.eq_zero_or_pos num with rfl | positive
  · refine ⟨-1074, 0, ?_, .inr ⟨⟨0, -1074⟩, rfl, rfl, by decide, rfl⟩⟩
    rw [Nat.cast_zero, zero_div]
    exact .zero
  obtain ⟨low, high, least⟩ := exponentOf_spec positive divides
  obtain ⟨pos, ratio⟩ := unscale_ratio (binary64.exponentOf num den) num den divides
  have rounds := roundHalfEven_rounds (unscale 2 (binary64.exponentOf num den) num den).1 pos
  rw [ratio] at rounds
  have found : Nearest (num / den) _ _ := ⟨low, high, least, rounds⟩
  have format : binary64.highest = 971 ∧ Nat.pow 2 binary64.bits = 2 ^ 53 := ⟨rfl, rfl⟩
  refine ⟨_, _, found, ?_⟩
  have below := found.below
  have normal := found.normal
  simp only [BinaryFormat.nearest, positive.ne', if_false, format]
  generalize binary64.exponentOf num den = e at *
  generalize roundHalfEven _ _ = m at *
  by_cases carry : m = 2 ^ 53
  · -- A bit too many goes to the exponent.
    subst carry
    have moved : position (e + 1) (2 ^ 52) = position e (2 ^ 53) := by
      unfold position
      omega
    have value : ((2 ^ 52 : Nat) * 2 ^ (e + 1) : ℚ) = (2 ^ 53 : Nat) * 2 ^ e := by
      rw [zpow_add₀ two_ne_zero]
      push_cast
      ring
    have half : (2 ^ 53 / 2 : Nat) = 2 ^ 52 := by decide
    simp only [if_true, half, ← moved, ← value]
    exact highest_spec (by omega) (by decide) fun _ => le_rfl
  · simp only [carry, if_false]
    exact highest_spec low (lt_of_le_of_ne below carry) normal

theorem rank_ofBits {bits : Nat} (number : bits ≤ 2047 * 2 ^ 52) :
    (Float.ofBits (UInt64.ofNat bits)).isNaN = false ∧
      rank (Float.ofBits (UInt64.ofNat bits)) = bits := by
  have back : (Float.ofBits (UInt64.ofNat bits)).toBits.toNat = bits :=
    toBits_ofBits (by omega) (by omega)
  constructor
  · rw [isNaN_iff_bits, back]
    omega
  · rw [rank, back, rankOfBits, if_neg (by omega)]
    omega

theorem rank_infinity :
    (widen false none).isNaN = false ∧ rank (widen false none) = 2047 * 2 ^ 52 := by
  rw [show widen false none = Float.ofBits (UInt64.ofNat 0x7FF0000000000000) from rfl]
  obtain ⟨number, ranked⟩ := @rank_ofBits 0x7FF0000000000000 (by decide)
  exact ⟨number, ranked.trans (by decide)⟩

theorem rank_toFloat {s : Scaled} (number : s.bitsOf ≤ 2047 * 2 ^ 52) :
    (s.toFloat false).isNaN = false ∧ rank (s.toFloat false) = s.bitsOf :=
  rank_ofBits number

/-- The rank of a number in double precision, where infinity stands for all that lie beyond. -/
theorem rank_widen (s : Scaled) : (widen false (some s)).isNaN = false ∧
    ∃ e m, Nearest s.value e m ∧
      rank (widen false (some s)) = min (position e m) (2047 * 2 ^ 52) := by
  obtain ⟨pos, ratio⟩ := unscale_ratio (-s.exponent) s.significand 1 Nat.one_pos
  have value : ((unscale 2 (-s.exponent) s.significand 1).1 : ℚ) /
      (unscale 2 (-s.exponent) s.significand 1).2 = s.value := by
    rw [ratio, zpow_neg, div_inv_eq_mul, Nat.cast_one, div_one, Scaled.value]
  obtain ⟨e, m, near, rounded⟩ := nearest_spec (unscale 2 (-s.exponent) s.significand 1).1 pos
  rw [value] at near
  rcases rounded with ⟨none, beyond⟩ | ⟨found, some, bits, within, -⟩
  · obtain ⟨number, ranked⟩ := rank_infinity
    simp only [widen, none]
    exact ⟨number, e, m, near, by rw [min_eq_right beyond]; exact ranked⟩
  · obtain ⟨number, ranked⟩ := @rank_toFloat found (by omega)
    simp only [widen, some]
    exact ⟨number, e, m, near, by rw [ranked, bits, min_eq_left within.le]⟩

theorem rank_floatOfNat (n : Nat) : (floatOfNat n).isNaN = false ∧ 0 ≤ rank (floatOfNat n) := by
  obtain ⟨_, _, -, ⟨none, -⟩ | ⟨s, some, -⟩⟩ := nearest_spec n Nat.one_pos
  · obtain ⟨number, ranked⟩ := rank_infinity
    simp only [floatOfNat, none]
    exact ⟨number, by omega⟩
  · obtain ⟨number, e, m, near, ranked⟩ := rank_widen s
    have low := near.low
    simp only [floatOfNat, some, ranked]
    refine ⟨number, le_min ?_ (by decide)⟩
    unfold position
    omega

theorem rank_floatOfNat_mono {n k : Nat} (le : n ≤ k) :
    rank (floatOfNat n) ≤ rank (floatOfNat k) := by
  obtain ⟨e, m, near, first⟩ := nearest_spec n Nat.one_pos
  obtain ⟨f, l, near', second⟩ := nearest_spec k Nat.one_pos
  have inOrder : ((n : ℚ) / (1 : Nat)) ≤ k / (1 : Nat) := by
    simpa using le
  rcases first with ⟨none, beyond⟩ | ⟨s, some, -, within, value⟩
  · rcases second with ⟨none', -⟩ | ⟨-, -, -, within', -⟩
    · simp only [floatOfNat, none, none', le_refl]
    · have := near.position_mono near' inOrder
      omega
  · obtain ⟨-, _, _, rounded, ranked⟩ := rank_widen s
    rcases second with ⟨none', -⟩ | ⟨t, some', -, -, value'⟩
    · simp only [floatOfNat, some, none', ranked, rank_infinity.2]
      exact min_le_right _ _
    · obtain ⟨-, _, _, rounded', ranked'⟩ := rank_widen t
      have values : s.value ≤ t.value := by
        rw [value, value']
        exact near.value_mono near' inOrder
      simp only [floatOfNat, some, some', ranked, ranked']
      exact min_le_min_right _ (rounded.position_mono rounded' values)

theorem floatOfInt_number (i : Int) : (floatOfInt i).isNaN = false := by
  cases i with
  | ofNat n => exact (rank_floatOfNat n).1
  | negSucc n => exact (rank_neg (rank_floatOfNat (n + 1)).1).1

theorem rank_floatOfInt_mono {i j : Int} (le : i ≤ j) :
    rank (floatOfInt i) ≤ rank (floatOfInt j) := by
  have mirrored : ∀ n, rank (floatOfInt (.negSucc n)) = -rank (floatOfNat (n + 1)) :=
    fun n => (rank_neg (rank_floatOfNat (n + 1)).1).2
  cases i with
  | ofNat n =>
    cases j with
    | ofNat k => exact rank_floatOfNat_mono (Int.ofNat_le.mp le)
    | negSucc k => exact absurd (le.trans_lt (Int.negSucc_lt_zero k)) (Int.natCast_nonneg n).not_gt
  | negSucc n =>
    rw [mirrored]
    have nonneg := (rank_floatOfNat (n + 1)).2
    cases j with
    | ofNat k =>
      have := (rank_floatOfNat k).2
      show _ ≤ rank (floatOfNat k)
      omega
    | negSucc k =>
      rw [mirrored]
      have := @rank_floatOfNat_mono (k + 1) (n + 1) (by omega)
      omega

end EntitySearch.Number
