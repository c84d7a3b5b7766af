/-! Whole numbers written in decimal digits. -/

set_option autoImplicit false

namespace EntitySearch.Number

def digitsOf (n : Nat) : List Char :=
  Nat.toDigits 10 n

def valueOf (digits : List Char) : Nat :=
  Nat.ofDigitChars 10 digits 0

theorem valueOf_digitsOf (n : Nat) : valueOf (digitsOf n) = n :=
  Nat.ofDigitChars_toDigits (by decide) (by decide)

theorem all_isDigit_digitsOf (n : Nat) : (digitsOf n).all Char.isDigit = true := by
  simp only [List.all_eq_true]
  exact fun c h => Nat.isDigit_of_mem_toDigits (by decide) (by decide) h

def padded (width n : Nat) : List Char :=
  let digits := digitsOf n
  List.replicate (width - digits.length) '0' ++ digits

def intChars : Int → List Char
  | .ofNat n => digitsOf n
  | .negSucc n => '-' :: digitsOf (n + 1)

def intText (i : Int) : String :=
  String.ofList (intChars i)

def readNat? (cs : List Char) : Option Nat :=
  if !cs.isEmpty && cs.all Char.isDigit then some (valueOf cs) else none

def readInt? : List Char → Option Int
  | '-' :: cs => (readNat? cs).map fun n => -(n : Int)
  | '+' :: cs => (readNat? cs).map fun n => (n : Int)
  | cs => (readNat? cs).map fun n => (n : Int)

def within (low high : Int) (i : Int) : Option Int :=
  if low ≤ i ∧ i ≤ high then some i else none

def int16? : Int → Option Int := within (-Int.pow 2 15) (Int.pow 2 15 - 1)

def int32? : Int → Option Int := within (-Int.pow 2 31) (Int.pow 2 31 - 1)

def int64? : Int → Option Int := within (-Int.pow 2 63) (Int.pow 2 63 - 1)

theorem natAbs_of_int64? {i : Int} (stored : (int64? i).isSome) : i.natAbs < Nat.pow 2 96 := by
  have limits : Int.pow 2 63 = 9223372036854775808 ∧ Nat.pow 2 96 = 79228162514264337593543950336 :=
    ⟨rfl, rfl⟩
  unfold int64? within at stored
  split at stored
  · omega
  · cases stored

theorem readNat?_digitsOf (n : Nat) : readNat? (digitsOf n) = some n := by
  have nonempty : (digitsOf n).isEmpty = false := by
    simp [digitsOf, Nat.toDigits_ne_nil]
  simp only [readNat?, nonempty, all_isDigit_digitsOf, valueOf_digitsOf]
  rfl

theorem readInt?_of_digit {c : Char} (cs : List Char) (digit : c.isDigit = true) :
    readInt? (c :: cs) = (readNat? (c :: cs)).map fun n => (n : Int) := by
  unfold readInt?
  split
  · next h =>
    obtain ⟨rfl, rfl⟩ := List.cons.inj h
    cases digit
  · next h =>
    obtain ⟨rfl, rfl⟩ := List.cons.inj h
    cases digit
  · rfl

theorem readInt?_intChars (i : Int) : readInt? (intChars i) = some i := by
  cases i with
  | negSucc n =>
    simp only [intChars, readInt?, readNat?_digitsOf]
    rfl
  | ofNat n =>
    have digits := all_isDigit_digitsOf n
    have value := readNat?_digitsOf n
    simp only [intChars]
    cases written : digitsOf n with
    | nil => simp [written, readNat?] at value
    | cons c cs =>
      rw [written] at digits value
      rw [readInt?_of_digit cs (List.all_eq_true.mp digits c List.mem_cons_self), value]
      rfl

end EntitySearch.Number
