import EntitySearch.Decimal.Text
import EntitySearch.Proofs.DateText

/-! Reading decimals back from their text.

The text of a decimal has all its places, so that the digits read from it make
the units again, and no more than 96 bits on the way. Only the sign of a zero is
not read back.
-/

set_option autoImplicit false

namespace EntitySearch

namespace Decimal

open Number (isDigit_padded length_padded valueOf_padded)

variable {cs : List Char} {units scale : Nat}

theorem le_ofDigitChars (cs : List Char) (units : Nat) : units ≤ Nat.ofDigitChars 10 cs units := by
  rw [Nat.ofDigitChars_eq_ofDigitChars_zero]
  exact Nat.le_add_right_of_le (Nat.le_mul_of_pos_left _ (Nat.pow_pos (by decide)))

/-- Digits are read on while they fit 96 bits and, behind the point, 28 places. -/
theorem readDigits?_digits (negative point : Bool) (scale : Nat) (filled : cs ≠ [])
    (digits : ∀ c ∈ cs, c.isDigit = true) (fits : Nat.ofDigitChars 10 cs units < Nat.pow 2 96)
    (room : point = true → scale + cs.length ≤ 28) (begun : Bool) (rest : List Char) :
    readDigits? negative point begun units scale (cs ++ rest) =
      readDigits? negative point true (Nat.ofDigitChars 10 cs units)
        (if point then scale + cs.length else 0) rest := by
  induction cs generalizing units scale begun with
  | nil => exact absurd rfl filled
  | cons c others ih =>
    obtain ⟨digit, digits⟩ := List.forall_mem_cons.mp digits
    have some : (point && decide (28 ≤ scale)) = false := by
      cases point with
      | false => rfl
      | true =>
        have := room rfl
        rw [List.length_cons] at this
        simp only [Bool.true_and, decide_eq_false_iff_not]
        omega
    -- Units only grow by more digits, so that what fits in the end fits on the way.
    rw [Nat.ofDigitChars_cons, Nat.mul_comm] at fits
    have next : units * 10 + (c.toNat - '0'.toNat) < Nat.pow 2 96 :=
      (le_ofDigitChars others _).trans_lt fits
    rw [List.cons_append, readDigits?, some, if_neg Bool.false_ne_true, if_pos digit, if_pos next,
      Nat.ofDigitChars_cons, Nat.mul_comm 10 units]
    cases others with
    | nil => rfl
    | cons d others =>
      rw [ih _ (List.cons_ne_nil d others) digits fits]
      · cases point with
        | false => rfl
        | true => simp only [if_true, List.length_cons, Nat.add_assoc, Nat.add_comm 1]
      · intro behind
        have := room behind
        rw [if_pos behind]
        rw [List.length_cons] at this
        omega

theorem readChars?_of_digit {c : Char} (cs : List Char) (digit : c.isDigit = true) :
    readChars? (c :: cs) = readDigits? false false false 0 0 (c :: cs) := by
  unfold readChars?
  split
  · next same =>
    obtain ⟨rfl, rfl⟩ := List.cons.inj same
    cases digit
  · next same =>
    obtain ⟨rfl, rfl⟩ := List.cons.inj same
    cases digit
  · rfl

theorem chars_spells (d : Decimal) :
    ∃ whole places, d.chars = (if d.negative then ['-'] else []) ++ (whole ++
        if d.scale = 0 then [] else '.' :: places) ∧ whole ≠ [] ∧ places.length = d.scale ∧
      (∀ c ∈ whole ++ places, c.isDigit = true) ∧
      Nat.ofDigitChars 10 (whole ++ places) 0 = d.units := by
  have wide := length_padded (d.scale + 1) d.units
  refine ⟨_, _, List.append_assoc .., ?_, ?_, ?_, ?_⟩
  · rw [← List.length_pos_iff, List.length_take]
    omega
  · rw [List.length_drop]
    omega
  · rw [List.take_append_drop]
    exact isDigit_padded _ _
  · rw [List.take_append_drop]
    exact valueOf_padded _ _

theorem readDigits?_chars (negative : Bool) {whole places : List Char} (filled : whole ≠ [])
    (length : places.length = scale) (most : scale ≤ 28)
    (digits : ∀ c ∈ whole ++ places, c.isDigit = true)
    (fits : Nat.ofDigitChars 10 (whole ++ places) 0 < Nat.pow 2 96) :
    readDigits? negative false false 0 0 (whole ++ if scale = 0 then [] else '.' :: places) =
      of? negative (Nat.ofDigitChars 10 (whole ++ places) 0) scale := by
  obtain ⟨front, behind⟩ := List.forall_mem_append.mp digits
  rw [Nat.ofDigitChars_append] at fits ⊢
  have before := (le_ofDigitChars places _).trans_lt fits
  rw [readDigits?_digits negative false 0 filled front before nofun]
  cases places with
  | nil =>
    obtain rfl := length
    rfl
  | cons c others =>
    have point : ∀ units, readDigits? negative false true units 0 ('.' :: c :: others) =
        readDigits? negative true true units 0 (c :: others) := fun units => by
      simp [readDigits?]
    have read := readDigits?_digits negative true 0 (List.cons_ne_nil c others) behind fits
      (fun _ => by omega) true []
    rw [List.append_nil, if_pos rfl, Nat.zero_add, length] at read
    rw [if_neg Bool.false_ne_true, if_neg (by rw [← length]; exact nofun), point, read]
    rfl

theorem readChars?_chars (d : Decimal) : readChars? d.chars = of? d.negative d.units d.scale := by
  obtain ⟨whole, places, written, filled, length, digits, value⟩ := chars_spells d
  have read := readDigits?_chars d.negative filled length d.scale_le digits
    (value ▸ d.units_lt)
  rw [value] at read
  rw [written, ← read]
  cases d.negative with
  | true => rfl
  | false =>
    obtain ⟨c, others, rfl⟩ := List.exists_cons_of_ne_nil filled
    exact readChars?_of_digit _ (digits c (List.mem_append_left _ List.mem_cons_self))

/-- A decimal is read back from its text, but for the sign of a zero. -/
theorem read?_text (d : Decimal) :
    ∃ e, read? d.text = some e ∧ e.scale = d.scale ∧ e.coefficient = d.coefficient := by
  let e : Decimal := ⟨d.negative && d.units != 0, d.units, d.scale, d.units_lt, d.scale_le⟩
  have made : of? d.negative d.units d.scale = some e := dif_pos ⟨d.units_lt, d.scale_le⟩
  refine ⟨e, ?_, rfl, coefficient_of? made⟩
  rw [read?, text, String.toList_ofList, readChars?_chars, made]

theorem chars_solid (d : Decimal) : ∀ c ∈ d.chars, Text.isBlank c = false := by
  obtain ⟨whole, places, written, -, -, digits, -⟩ := chars_spells d
  have solid : ∀ c ∈ whole ++ places, Text.isBlank c = false := fun c held =>
    Text.isBlank_of_isDigit (digits c held)
  obtain ⟨front, behind⟩ := List.forall_mem_append.mp solid
  rw [written]
  simp only [List.forall_mem_append]
  have minus : Text.isBlank '-' = false := by decide
  have point : Text.isBlank '.' = false := by decide
  refine ⟨?_, front, ?_⟩
  · cases d.negative with
    | false => exact nofun
    | true => exact List.forall_mem_singleton.mpr minus
  · split
    · exact nofun
    · exact List.forall_mem_cons.mpr ⟨point, behind⟩

end Decimal

end EntitySearch
