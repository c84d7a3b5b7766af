import Mathlib
import EntitySearch.Calendar.Internet
import EntitySearch.Settings.Basic

/-! Reading dates by their digits.

A date in the ISO form is read field by field: so many digits and a mark. What
the fields name is the date of its year, month and day.
-/

set_option autoImplicit false

namespace EntitySearch

namespace Number

structure Digits (count : Nat) (cs : List Char) : Prop where
  length : cs.length = count
  digit : ∀ c ∈ cs, c.isDigit = true

variable {count : Nat} {cs : List Char}

theorem digit_le_nine {c : Char} (digit : c.isDigit = true) : c.toNat - '0'.toNat ≤ 9 := by
  simp only [Char.isDigit, Bool.and_eq_true, decide_eq_true_eq] at digit
  have high : c.toNat ≤ 57 := digit.2
  have zero : '0'.toNat = 48 := rfl
  omega

theorem Digits.solid (h : Digits count cs) : ∀ c ∈ cs, Text.isBlank c = false :=
  fun c held => Text.isBlank_of_isDigit (h.digit c held)

theorem valueOf_cons (c : Char) (cs : List Char) :
    valueOf (c :: cs) = (c.toNat - '0'.toNat) * 10 ^ cs.length + valueOf cs := by
  rw [valueOf, Nat.ofDigitChars_cons, Nat.ofDigitChars_eq_ofDigitChars_zero, Nat.mul_zero,
    Nat.zero_add, Nat.mul_comm, valueOf]

theorem Digits.valueOf_lt (h : Digits count cs) : valueOf cs < 10 ^ count := by
  obtain ⟨rfl, digit⟩ := h
  induction cs with
  | nil => decide
  | cons c rest ih =>
    obtain ⟨first, digit⟩ := List.forall_mem_cons.mp digit
    have small := digit_le_nine first
    have less := ih digit
    rw [valueOf_cons, List.length_cons, Nat.pow_succ]
    have most : (c.toNat - '0'.toNat) * 10 ^ rest.length ≤ 9 * 10 ^ rest.length :=
      Nat.mul_le_mul_right _ small
    omega

theorem isDigit_padded (width n : Nat) : ∀ c ∈ padded width n, c.isDigit = true := by
  intro c held
  rcases List.mem_append.mp held with zero | digit
  · rw [List.eq_of_mem_replicate zero]
    decide
  · exact List.all_eq_true.mp (all_isDigit_digitsOf n) c digit

theorem length_padded (width n : Nat) :
    (padded width n).length = max width (digitsOf n).length := by
  rw [padded, List.length_append, List.length_replicate]
  omega

theorem digits_padded {width n : Nat} (filled : 0 < width) (fits : n < 10 ^ width) :
    Digits width (padded width n) := by
  have short : (digitsOf n).length ≤ width :=
    (Nat.length_toDigits_le_iff (by decide) filled).mpr fits
  exact ⟨(length_padded width n).trans (max_eq_left short), isDigit_padded width n⟩

theorem valueOf_padded (width n : Nat) : valueOf (padded width n) = n := by
  rw [padded, valueOf, Nat.ofDigitChars_append, Nat.ofDigitChars_replicate_zero, Nat.mul_zero]
  exact valueOf_digitsOf n

theorem intChars_solid (i : Int) : ∀ c ∈ intChars i, Text.isBlank c = false := by
  have digits : ∀ n, ∀ c ∈ digitsOf n, Text.isBlank c = false := fun n c held =>
    Text.isBlank_of_isDigit (List.all_eq_true.mp (all_isDigit_digitsOf n) c held)
  intro c held
  cases i with
  | ofNat n => exact digits n c held
  | negSucc n =>
    rcases List.mem_cons.mp held with rfl | held
    · decide
    · exact digits (n + 1) c held

theorem int64?_valueOf (h : Digits count cs) (short : count ≤ 18) :
    int64? (valueOf cs) = some (valueOf cs : Int) := by
  have less : valueOf cs < 10 ^ 18 := h.valueOf_lt.trans_le (Nat.pow_le_pow_right (by decide) short)
  have limit : Int.pow 2 63 = 9223372036854775808 := rfl
  exact if_pos (by omega)

end Number

namespace Calendar

theorem monthLengths_length (leap : Bool) : (monthLengths leap).length = 12 := rfl

theorem monthLengths_le (leap : Bool) : ∀ n ∈ monthLengths leap, n ≤ 31 := by
  cases leap <;> decide

end Calendar

namespace Date

theorem ofMonthDay?_eq_some {year : Int} {month day : Nat} {d : Date} :
    ofMonthDay? year (month + 1) (day + 1) = some d ↔
      ∃ length, (Calendar.monthLengths (Calendar.isLeap year))[month]? = some length ∧
        day < length ∧
        ofDay? (Calendar.daysBeforeYear year +
          (((Calendar.monthLengths (Calendar.isLeap year)).take month).foldl Nat.add 0 : Nat) +
            day) = some d := by
  have shifted : ∀ before : Int, before + ((day : Int) + 1) - 1 = before + day := by omega
  simp [ofMonthDay?, Option.bind_eq_some_iff, shifted]

theorem ofMonthDay?_bounds {year : Int} {month day : Nat} {d : Date}
    (named : ofMonthDay? year month day = some d) :
    (1 ≤ month ∧ month ≤ 12) ∧ 1 ≤ day ∧ day ≤ 31 := by
  cases month with
  | zero => cases named
  | succ month =>
    cases day with
    | zero => simp [ofMonthDay?] at named
    | succ day =>
      obtain ⟨length, found, within, -⟩ := ofMonthDay?_eq_some.mp named
      have inside := (List.getElem?_eq_some_iff.mp found).1
      rw [Calendar.monthLengths_length] at inside
      have most := Calendar.monthLengths_le _ length (List.mem_of_getElem? found)
      omega

end Date

namespace Calendar

open Number (Digits valueOf)

variable {count : Nat} {cs rest : List Char} {fields out : Fields}

theorem takeWhile_digits (h : Digits count cs) : cs.takeWhile Char.isDigit = cs :=
  List.takeWhile_eq_self_iff.mpr h.digit

theorem scanNumber_digits (h : Digits count cs) (short : count ≤ 18) {low : Nat}
    (enough : low ≤ count) (rest : List Char) :
    scanNumber low (some count) (cs ++ rest) = .ok ((valueOf cs : Int), rest) := by
  have window : (cs ++ rest).take count = cs := List.take_left' h.length
  have held : ¬cs.length < low := by
    rw [h.length]
    omega
  rw [scanNumber]
  simp only [window, takeWhile_digits h, if_neg held, Number.int64?_valueOf h short,
    List.drop_left]

theorem not_blank_digits (h : Digits count cs) (filled : 0 < count) (rest : List Char) :
    Text.trimStartChars (cs ++ rest) = cs ++ rest := by
  obtain ⟨rfl, digit⟩ := h
  cases cs with
  | nil => cases filled
  | cons c others =>
    have solid := Text.isBlank_of_isDigit (digit c List.mem_cons_self)
    simp [Text.trimStartChars, solid]

theorem scanSigned_digits (h : Digits count cs) (filled : 0 < count) (width : Option Nat)
    (rest : List Char) : scanSigned width (cs ++ rest) = scanNumber 1 width (cs ++ rest) := by
  obtain ⟨rfl, digit⟩ := h
  cases cs with
  | nil => cases filled
  | cons c others =>
    have digit := digit c List.mem_cons_self
    rw [List.cons_append]
    unfold scanSigned
    split
    · next same => simp_all
    · next same => simp_all
    · rfl

theorem read_number {numeral : Numeral} (width : numeral.width = some count) (h : Digits count cs)
    (filled : 0 < count) (short : count ≤ 18) (rest : List Char)
    (stored : numeral.store fields (valueOf cs) = .ok out) :
    Item.read (.number numeral) fields (cs ++ rest) = .ok (out, rest) := by
  have scanned := scanNumber_digits h short filled rest
  simp only [Item.read, not_blank_digits h filled, scanSigned_digits h filled, width, scanned]
  cases numeral.signed <;> simp [stored, bind, Except.bind]

theorem read_mark (mark : Char) (fields : Fields) (rest : List Char) :
    Item.read (.literal [mark]) fields (mark :: rest) = .ok (fields, rest) := by
  simp [Item.read, dropLiteral?]

theorem readItems_cons {item : Item} (items : List Item)
    (read : item.read fields cs = .ok (out, rest)) :
    readItems (item :: items) fields cs = readItems items out rest := by
  rw [readItems, read]
  rfl

def Field.ofDate : List Field :=
  [.year, .month, .day, .century, .yearOfCentury, .isoYear, .isoCentury, .isoYearOfCentury,
    .quarter, .weekFromSunday, .weekFromMonday, .isoWeek, .weekday, .ordinal]

namespace Fields

def put (fields : Fields) (field : Field) (v : Int) : Fields :=
  fun other => if other = field then some v else fields other

theorem set_new {field : Field} (v : Int) (new : fields field = none) :
    fields.set field v = .ok (fields.put field v) := by
  rw [set, new]
  rfl

theorem setWithin_new {low high v : Int} {field : Field} (within : low ≤ v ∧ v ≤ high)
    (new : fields field = none) : fields.setWithin low high field v = .ok (fields.put field v) := by
  rw [setWithin, if_pos within, set_new v new]

def ofDate (year month day : Int) : Fields :=
  ((empty.put .year year).put .month month).put .day day

theorem toDate_eq {year month day : Int}
    (same : ∀ field ∈ Field.ofDate, fields field = ofDate year month day field) :
    fields.toDate = orOutOfRange (Date.ofMonthDay? year month.toNat day.toNat) := by
  simp only [Field.ofDate, List.forall_mem_cons, ofDate, put, empty, reduceCtorEq, if_true,
    if_false, List.not_mem_nil, false_implies, implies_true, and_true] at same
  simp only [toDate, same, resolveYear, agreesIsoWeek, agreesOrdinal, agreesQuarter, agrees,
    agreesCentury, accept, bind, Except.bind, Option.getD_none, Option.isNone_none, BEq.rfl,
    Bool.and_self, ite_self, if_true]
  cases orOutOfRange (Date.ofMonthDay? year month.toNat day.toNat) <;> rfl

end Fields

section
variable {y m d : List Char}

def dated (y m d : List Char) : List Char := y ++ '-' :: (m ++ '-' :: d)

theorem dated_solid (year : Digits 4 y) (month : Digits 2 m) (day : Digits 2 d) :
    ∀ c ∈ dated y m d, Text.isBlank c = false := by
  have mark : Text.isBlank '-' = false := by decide
  simp only [dated, List.forall_mem_append, List.forall_mem_cons]
  exact ⟨year.solid, mark, month.solid, mark, day.solid⟩

theorem store_year (year : Digits 4 y) : Numeral.year.store Fields.empty (valueOf y) =
    .ok (Fields.empty.put .year (valueOf y)) := by
  have small : (valueOf y : Int) < 10 ^ 4 := by exact_mod_cast year.valueOf_lt
  have limits : Int.pow 2 31 = 2 ^ 31 ∧ largest32 = 2 ^ 31 - 1 := ⟨rfl, rfl⟩
  exact Fields.setWithin_new (by omega) rfl

theorem store_month {year : Int} {month : Nat} (within : 1 ≤ month ∧ month ≤ 12) :
    Numeral.month.store (Fields.empty.put .year year) month =
      .ok ((Fields.empty.put .year year).put .month month) :=
  Fields.setWithin_new (by omega) rfl

theorem store_day {year month : Int} {day : Nat} (within : 1 ≤ day ∧ day ≤ 31) :
    Numeral.day.store ((Fields.empty.put .year year).put .month month) day =
      .ok (Fields.ofDate year month day) :=
  Fields.setWithin_new (by omega) rfl

theorem readItems_date (year : Digits 4 y) (month : Digits 2 m) (day : Digits 2 d)
    (months : 1 ≤ valueOf m ∧ valueOf m ≤ 12) (days : 1 ≤ valueOf d ∧ valueOf d ≤ 31)
    (items : List Item) (rest : List Char) :
    readItems (dateItems '-' ++ items) Fields.empty (dated y m d ++ rest) =
      readItems items (Fields.ofDate (valueOf y) (valueOf m) (valueOf d)) rest := by
  simp only [dateItems, dated, List.cons_append, List.nil_append, List.append_assoc]
  rw [readItems_cons _ (read_number rfl year (by decide) (by decide) _ (store_year year)),
    readItems_cons _ (read_mark '-' _ _),
    readItems_cons _ (read_number rfl month (by decide) (by decide) _ (store_month months)),
    readItems_cons _ (read_mark '-' _ _),
    readItems_cons _ (read_number rfl day (by decide) (by decide) _ (store_day days))]

/-- The ISO pattern reads the date that the digits name. -/
theorem readDate?_iso (year : Digits 4 y) (month : Digits 2 m) (day : Digits 2 d) {date : Date}
    (named : Date.ofMonthDay? (valueOf y) (valueOf m) (valueOf d) = some date) :
    readDate? isoDate (String.ofList (dated y m d)) = some date := by
  obtain ⟨months, days⟩ := Date.ofMonthDay?_bounds named
  have items : itemsOf isoDate = dateItems '-' ++ [] := by decide
  have read := readItems_date year month day months days [] []
  rw [List.append_nil (dated y m d), readItems] at read
  have fields : readFields isoDate (String.ofList (dated y m d)) =
      .ok (Fields.ofDate (valueOf y) (valueOf m) (valueOf d)) := by
    rw [readFields, items, String.toList_ofList, read]
    rfl
  rw [readDate?, fields]
  show (Fields.toDate _).toOption = _
  rw [Fields.toDate_eq fun _ _ => rfl, Int.toNat_natCast, Int.toNat_natCast, named]
  rfl

end

end Calendar

end EntitySearch
