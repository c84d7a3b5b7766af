import Mathlib.Data.List.Forall2
import EntitySearch.Text.Pattern

/-! The language of a pattern.

A pattern is read in one way, and a text matches it when it can be cut into one
piece for each token. A run takes any piece, so that its ends are tried in turn.
-/

set_option autoImplicit false

namespace EntitySearch.Text

section
variable {escape c : Char} (rest : List Char)

theorem tokenize_escape : tokenize escape (escape :: c :: rest) = .letter c :: tokenize escape rest := by
  rw [tokenize, if_pos rfl]

theorem tokenize_lone : tokenize escape [escape] = [.dangling] := by
  rw [tokenize, if_pos rfl]

theorem tokenize_run (plain : escape ≠ '%') :
    tokenize escape ('%' :: rest) = .anyRun :: tokenize escape rest := by
  rw [tokenize.eq_def]
  simp only [plain.symm, if_false, if_true]

theorem tokenize_one (plain : escape ≠ '_') :
    tokenize escape ('_' :: rest) = .anyOne :: tokenize escape rest := by
  have notRun : '_' ≠ '%' := by decide
  rw [tokenize.eq_def]
  simp only [plain.symm, notRun, if_false, if_true]

theorem tokenize_letter (plain : c ≠ escape) (notRun : c ≠ '%') (notOne : c ≠ '_') :
    tokenize escape (c :: rest) = .letter c :: tokenize escape rest := by
  rw [tokenize.eq_def]
  simp only [plain, notRun, notOne, if_false]

end

/-- A pattern read from left to right. The escape is tested before the wildcards. -/
inductive Reads (escape : Char) : List Char → List Token → Prop
  | nothing : Reads escape [] []
  | escaped (c : Char) {rest : List Char} {tokens : List Token} (others : Reads escape rest tokens) :
    Reads escape (escape :: c :: rest) (.letter c :: tokens)
  | lone : Reads escape [escape] [.dangling]
  | run {rest : List Char} {tokens : List Token} (plain : escape ≠ '%')
    (others : Reads escape rest tokens) : Reads escape ('%' :: rest) (.anyRun :: tokens)
  | one {rest : List Char} {tokens : List Token} (plain : escape ≠ '_')
    (others : Reads escape rest tokens) : Reads escape ('_' :: rest) (.anyOne :: tokens)
  | letter {c : Char} {rest : List Char} {tokens : List Token} (plain : c ≠ escape)
    (notRun : c ≠ '%') (notOne : c ≠ '_') (others : Reads escape rest tokens) :
    Reads escape (c :: rest) (.letter c :: tokens)

theorem Reads.tokenize_eq {escape : Char} {pattern : List Char} {tokens : List Token}
    (reads : Reads escape pattern tokens) : tokenize escape pattern = tokens := by
  induction reads with
  | nothing => rfl
  | escaped c _ ih => rw [tokenize_escape, ih]
  | lone => exact tokenize_lone
  | run plain _ ih => rw [tokenize_run _ plain, ih]
  | one plain _ ih => rw [tokenize_one _ plain, ih]
  | letter plain notRun notOne _ ih => rw [tokenize_letter _ plain notRun notOne, ih]

theorem reads_tokenize (escape : Char) (pattern : List Char) :
    Reads escape pattern (tokenize escape pattern) := by
  match pattern with
  | [] => exact .nothing
  | p :: rest =>
    by_cases escaping : p = escape
    · obtain rfl := escaping
      cases rest with
      | nil => exact tokenize_lone ▸ .lone
      | cons c rest => exact tokenize_escape rest ▸ .escaped c (reads_tokenize _ rest)
    · by_cases isRun : p = '%'
      · obtain rfl := isRun
        exact tokenize_run rest (Ne.symm escaping) ▸
          .run (Ne.symm escaping) (reads_tokenize escape rest)
      · by_cases isOne : p = '_'
        · obtain rfl := isOne
          exact tokenize_one rest (Ne.symm escaping) ▸
            .one (Ne.symm escaping) (reads_tokenize escape rest)
        · exact tokenize_letter rest escaping isRun isOne ▸
            .letter escaping isRun isOne (reads_tokenize escape rest)

def Token.Takes : Token → List Char → Prop
  | .letter c, piece => piece = [c]
  | .anyOne, piece => ∃ c, piece = [c]
  | .anyRun, _ => True
  | .dangling, _ => False

section
variable {tokens : List Token} {text : List Char}

theorem matchTokens_nil : matchTokens [] text = true ↔ text = [] := by
  rw [matchTokens, List.isEmpty_iff]

theorem matchTokens_cons {t : Token} : matchTokens (t :: tokens) text = true ↔
    ∃ piece back, text = piece ++ back ∧ t.Takes piece ∧ matchTokens tokens back = true := by
  cases t with
  | letter c =>
    constructor
    · intro matched
      cases text with
      | nil => cases matched
      | cons d rest =>
        simp only [matchTokens, Bool.and_eq_true, beq_iff_eq] at matched
        obtain ⟨rfl, others⟩ := matched
        exact ⟨[c], rest, rfl, rfl, others⟩
    · rintro ⟨_, back, rfl, rfl, others⟩
      simp only [List.singleton_append, matchTokens, beq_self_eq_true, Bool.true_and, others]
  | anyOne =>
    constructor
    · intro matched
      cases text with
      | nil => cases matched
      | cons d rest => exact ⟨[d], rest, rfl, ⟨d, rfl⟩, matched⟩
    · rintro ⟨_, back, rfl, ⟨d, rfl⟩, others⟩
      exact others
  | anyRun => simp only [matchTokens, anySuffix_iff, Token.Takes, true_and]
  | dangling =>
    constructor
    · intro matched
      cases matched
    · rintro ⟨_, _, _, nothing, _⟩
      cases nothing

/-- Trying all ends of every run finds a cut whenever there is one. -/
theorem matchTokens_iff : matchTokens tokens text = true ↔
    ∃ pieces : List (List Char), pieces.flatten = text ∧ List.Forall₂ Token.Takes tokens pieces := by
  induction tokens generalizing text with
  | nil =>
    rw [matchTokens_nil]
    constructor
    · rintro rfl
      exact ⟨[], rfl, .nil⟩
    · rintro ⟨_, rfl, ⟨⟩⟩
      rfl
  | cons t tokens ih =>
    rw [matchTokens_cons]
    constructor
    · rintro ⟨piece, back, rfl, takes, others⟩
      obtain ⟨pieces, rfl, cut⟩ := ih.mp others
      exact ⟨piece :: pieces, rfl, .cons takes cut⟩
    · rintro ⟨_, rfl, cut⟩
      cases cut with
      | cons takes cut => exact ⟨_, _, rfl, takes, ih.mpr ⟨_, rfl, cut⟩⟩

end

/-- Every pattern is read in one way, and matches the texts that can be cut along its tokens. -/
theorem pattern_language (text pattern : String) (escape : Char) :
    (∃! tokens, Reads escape pattern.toList tokens) ∧
    (matchesPattern text pattern escape = true ↔
      ∃ tokens pieces, Reads escape pattern.toList tokens ∧ pieces.flatten = text.toList ∧
        List.Forall₂ Token.Takes tokens pieces) := by
  have reads := reads_tokenize escape pattern.toList
  refine ⟨⟨_, reads, fun _ other => other.tokenize_eq.symm⟩, ?_⟩
  rw [matchesPattern, matchTokens_iff]
  constructor
  · rintro ⟨pieces, whole, cut⟩
    exact ⟨_, pieces, reads, whole, cut⟩
  · rintro ⟨tokens, pieces, other, whole, cut⟩
    rw [other.tokenize_eq]
    exact ⟨pieces, whole, cut⟩

example : matchesPattern "50%_OFF" "%50\\%\\_OFF%" '\\' = true := by
  decide +kernel

end EntitySearch.Text
