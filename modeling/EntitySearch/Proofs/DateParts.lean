import EntitySearch.Proofs.DateText

/-! Year, month and day of a date.

A day lies between the first days of its year and of the next one, and the
months of a year share its days out among them. So a date is that of its own
year, month and day, and the text of a date with a year of four digits spells
these out.
-/

set_option autoImplicit false

namespace EntitySearch

namespace Calendar

theorem daysBeforeYear_succ (year : Int) :
    daysBeforeYear (year + 1) = daysBeforeYear year + yearLength year := by
  simp only [daysBeforeYear, yearLength, isLeap, Bool.and_eq_true, Bool.or_eq_true, beq_iff_eq,
    bne_iff_ne]
  split <;> omega

theorem yearLength_eq (year : Int) : yearLength year = (monthLengths (isLeap year)).sum := by
  rw [yearLength]
  cases isLeap year <;> rfl

/-- A day of the year falls into a month that has it, behind the days of the months before. -/
theorem splitMonths_spec (lengths : List Nat) (first day : Nat) (inside : day < lengths.sum) :
    ∃ month length, (splitMonths lengths first day).1 = first + month ∧
      lengths[month]? = some length ∧ (splitMonths lengths first day).2 < length ∧
      (lengths.take month).sum + (splitMonths lengths first day).2 = day := by
  induction lengths generalizing first day with
  | nil => cases inside
  | cons length rest ih =>
    rw [splitMonths]
    split
    · next early => exact ⟨0, length, rfl, rfl, early, Nat.zero_add day⟩
    · next late =>
      rw [List.sum_cons] at inside
      obtain ⟨month, found, same, held, short, total⟩ := ih (first + 1) (day - length) (by omega)
      refine ⟨month + 1, found, by omega, held, short, ?_⟩
      rw [List.take_succ_cons, List.sum_cons]
      omega

end Calendar

namespace Date

open Calendar

theorem year_bounds (d : Date) :
    daysBeforeYear d.year ≤ d.day ∧ d.day < daysBeforeYear (d.year + 1) := by
  -- Years differ from the mean year by less than a day for each, so that the guess misses by one.
  simp only [year]
  split
  · simp only [daysBeforeYear] at *
    omega
  · split
    · simp only [daysBeforeYear] at *
      omega
    · omega

theorem ofMonthDay?_parts {d : Date} (inside : d.inRange = true) :
    ofMonthDay? d.year d.month d.dayOfMonth = some d := by
  obtain ⟨begun, ended⟩ := year_bounds d
  rw [daysBeforeYear_succ, yearLength_eq] at ended
  obtain ⟨past, counted⟩ : ∃ past : Nat, d.day = daysBeforeYear d.year + past :=
    ⟨(d.day - daysBeforeYear d.year).toNat, by omega⟩
  have ordinal : d.ordinal - 1 = past := by
    rw [Date.ordinal]
    omega
  obtain ⟨month, length, same, held, short, total⟩ :=
    splitMonths_spec (monthLengths (isLeap d.year)) 1 past (by omega)
  have months : d.month = month + 1 := by
    rw [Date.month, monthDay, ordinal, same, Nat.add_comm]
  have days : d.dayOfMonth = (splitMonths (monthLengths (isLeap d.year)) 1 past).2 + 1 := by
    rw [dayOfMonth, monthDay, ordinal]
  rw [months, days, ofMonthDay?_eq_some]
  refine ⟨length, held, short, ?_⟩
  have summed : ((monthLengths (isLeap d.year)).take month).foldl Nat.add 0 =
      ((monthLengths (isLeap d.year)).take month).sum := List.sum_eq_foldl.symm
  rw [summed]
  have day : ∀ n : Int, n = d.day → ofDay? n = some d := by
    rintro _ rfl
    exact if_pos inside
  exact day _ (by omega)

end Date

namespace Calendar

open Number (Digits digits_padded padded valueOf valueOf_padded)

theorem dateChars_spells {d : Date} (inside : d.inRange = true)
    (years : 0 ≤ d.year ∧ d.year ≤ 9999) :
    ∃ y m n, dateChars d = dated y m n ∧ Digits 4 y ∧ Digits 2 m ∧ Digits 2 n ∧
      Date.ofMonthDay? (valueOf y) (valueOf m) (valueOf n) = some d := by
  have named := Date.ofMonthDay?_parts inside
  obtain ⟨months, days⟩ := Date.ofMonthDay?_bounds named
  have year : (d.year.natAbs : Int) = d.year := Int.natAbs_of_nonneg years.1
  refine ⟨padded 4 d.year.natAbs, padded 2 d.month, padded 2 d.dayOfMonth, ?_,
    digits_padded (by decide) (by omega), digits_padded (by decide) (by omega),
    digits_padded (by decide) (by omega), ?_⟩
  · rw [dateChars, yearChars, if_neg (by omega), if_neg (by omega)]
    simp [dated]
  · rw [valueOf_padded, valueOf_padded, valueOf_padded, year, named]

/-- The ISO pattern reads a date back from its text. -/
theorem readDate?_text {d : Date} (inside : d.inRange = true) (years : 0 ≤ d.year ∧ d.year ≤ 9999) :
    readDate? isoDate d.text = some d := by
  obtain ⟨y, m, n, written, year, month, day, named⟩ := dateChars_spells inside years
  rw [Date.text, written, readDate?_iso year month day named]

theorem dateChars_solid {d : Date} (inside : d.inRange = true)
    (years : 0 ≤ d.year ∧ d.year ≤ 9999) :
    ∀ c ∈ dateChars d, Text.isBlank c = false := by
  obtain ⟨y, m, n, written, year, month, day, -⟩ := dateChars_spells inside years
  rw [written]
  exact dated_solid year month day

end Calendar

end EntitySearch
