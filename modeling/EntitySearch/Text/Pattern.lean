/-! Wildcard patterns for text search.

`%` stands for any run of characters, `_` for any one character, and a chosen
escape character makes the next character stand for itself. The escape is
tested first, also when it is `%` or `_`.
-/

set_option autoImplicit false

namespace EntitySearch.Text

inductive Token
  | letter (c : Char)
  | anyOne
  | anyRun
  /-- An escape with nothing after it; no text matches it. -/
  | dangling
  deriving DecidableEq, Repr

def tokenize (escape : Char) : List Char → List Token
  | [] => []
  | p :: rest =>
    if p = escape then
      match rest with
      | [] => [.dangling]
      | c :: rest => .letter c :: tokenize escape rest
    else if p = '%' then .anyRun :: tokenize escape rest
    else if p = '_' then .anyOne :: tokenize escape rest
    else .letter p :: tokenize escape rest

def anySuffix (test : List Char → Bool) : List Char → Bool
  | [] => test []
  | c :: rest => test (c :: rest) || anySuffix test rest

def matchTokens : List Token → List Char → Bool
  | [], text => text.isEmpty
  | .letter c :: tokens, text =>
    match text with
    | [] => false
    | d :: rest => c == d && matchTokens tokens rest
  | .anyOne :: tokens, text =>
    match text with
    | [] => false
    | _ :: rest => matchTokens tokens rest
  | .anyRun :: tokens, text => anySuffix (matchTokens tokens) text
  | .dangling :: _, _ => false

def matchesPattern (text pattern : String) (escape : Char) : Bool :=
  matchTokens (tokenize escape pattern.toList) text.toList

def escapeChars (escape : Char) : List Char → List Char
  | [] => []
  | c :: rest =>
    if c = '%' ∨ c = '_' ∨ c = escape then escape :: c :: escapeChars escape rest
    else c :: escapeChars escape rest

def escapePattern (text : String) (escape : Char) : String :=
  String.ofList (escapeChars escape text.toList)

theorem anySuffix_iff (test : List Char → Bool) (text : List Char) :
    anySuffix test text = true ↔ ∃ front back, text = front ++ back ∧ test back = true := by
  induction text with
  | nil =>
    simp only [anySuffix, List.nil_eq_append_iff]
    exact ⟨fun h => ⟨[], [], ⟨rfl, rfl⟩, h⟩, by rintro ⟨_, _, ⟨_, rfl⟩, h⟩; exact h⟩
  | cons c rest ih =>
    simp only [anySuffix, Bool.or_eq_true, ih]
    constructor
    · rintro (h | ⟨front, back, rfl, h⟩)
      · exact ⟨[], c :: rest, rfl, h⟩
      · exact ⟨c :: front, back, rfl, h⟩
    · rintro ⟨front, back, split, h⟩
      cases front with
      | nil => exact .inl (by rw [split]; exact h)
      | cons d front =>
        obtain ⟨rfl, rfl⟩ := List.cons.inj split
        exact .inr ⟨front, back, rfl, h⟩

end EntitySearch.Text
