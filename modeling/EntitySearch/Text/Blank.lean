/-! Blank characters and trimming.

Blank means the Unicode property `White_Space`.
-/

set_option autoImplicit false

namespace EntitySearch.Text

def isBlank (c : Char) : Bool :=
  let n := c.toNat
  (0x09 ≤ n && n ≤ 0x0D) || n == 0x20 || n == 0x85 || n == 0xA0 || n == 0x1680 ||
    (0x2000 ≤ n && n ≤ 0x200A) || n == 0x2028 || n == 0x2029 || n == 0x202F ||
    n == 0x205F || n == 0x3000

def trimStartChars (cs : List Char) : List Char :=
  cs.dropWhile isBlank

def trimEndChars (cs : List Char) : List Char :=
  (cs.reverse.dropWhile isBlank).reverse

def trimChars (cs : List Char) : List Char :=
  trimEndChars (trimStartChars cs)

def trim (s : String) : String :=
  String.ofList (trimChars s.toList)

def isBlankText (s : String) : Bool :=
  s.toList.all isBlank

@[simp] theorem toList_trim (s : String) : (trim s).toList = trimChars s.toList := by
  simp [trim]

theorem dropWhile_of_solid {cs : List Char} (solid : ∀ c ∈ cs, isBlank c = false) :
    cs.dropWhile isBlank = cs := by
  cases cs with
  | nil => rfl
  | cons c rest => simp [solid c List.mem_cons_self]

theorem trimChars_of_solid {cs : List Char} (solid : ∀ c ∈ cs, isBlank c = false) :
    trimChars cs = cs := by
  have reversed : ∀ c ∈ cs.reverse, isBlank c = false := fun c held =>
    solid c (List.mem_reverse.mp held)
  simp only [trimChars, trimStartChars, trimEndChars, dropWhile_of_solid solid,
    dropWhile_of_solid reversed, List.reverse_reverse]

theorem trim_of_solid {cs : List Char} (solid : ∀ c ∈ cs, isBlank c = false) :
    trim (String.ofList cs) = String.ofList cs := by
  rw [trim, String.toList_ofList, trimChars_of_solid solid]

theorem trimChars_of_blank {cs : List Char} (blank : cs.all isBlank = true) :
    trimChars cs = [] := by
  have dropped : cs.dropWhile isBlank = [] := by
    induction cs with
    | nil => rfl
    | cons c rest ih =>
      simp only [List.all_cons, Bool.and_eq_true] at blank
      simp [blank.1, ih blank.2]
  simp [trimChars, trimStartChars, trimEndChars, dropped]

theorem isBlank_of_isDigit {c : Char} (digit : c.isDigit = true) : isBlank c = false := by
  simp only [Char.isDigit, Bool.and_eq_true, decide_eq_true_eq] at digit
  have low : 48 ≤ c.toNat := digit.1
  have high : c.toNat ≤ 57 := digit.2
  simp only [isBlank, Bool.or_eq_false_iff, Bool.and_eq_false_iff, decide_eq_false_iff_not,
    beq_eq_false_iff_ne]
  omega

end EntitySearch.Text
