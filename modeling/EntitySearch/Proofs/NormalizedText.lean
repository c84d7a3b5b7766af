import Mathlib.Data.String.Basic
import EntitySearch.Proofs.Complements

/-! Comparisons of texts.

Literals of a text attribute are normalized when they are read, and the column is
normalized when it is evaluated: trimmed and then upper-cased, each as its flag
has it. A comparison says of both what it says of the normalized texts in the
order of their code points.
-/

set_option autoImplicit false

namespace EntitySearch

/-- What a comparison says of a text and the texts of its literals. Lists of characters are in the
order of their code points. -/
def Comparator.holdsOf : Comparator → List Char → List (List Char) → Bool
  | .eq, text, literal :: _ => text == literal
  | .ne, text, literals => !literals.contains text
  | .gt, text, literal :: _ => literal < text
  | .ge, text, literal :: _ => literal ≤ text
  | .lt, text, literal :: _ => text < literal
  | .le, text, literal :: _ => text ≤ literal
  | .isIn, text, literals => literals.contains text
  | .notIn, text, literals => !literals.contains text
  | .between, text, [low, high] => low ≤ text && text ≤ high
  | _, _, _ => false

section
variable (a b : String)

theorem isLT_compare : (compare a b).isLT = decide (a.toList < b.toList) := by
  rw [Bool.eq_iff_iff, Ordering.isLT_iff_eq_lt, compare_lt_iff_lt, String.lt_iff_toList_lt,
    decide_eq_true_iff]

theorem isGT_compare : (compare a b).isGT = decide (b.toList < a.toList) := by
  rw [Bool.eq_iff_iff, Ordering.isGT_iff_eq_gt, compare_gt_iff_gt, String.lt_iff_toList_lt,
    decide_eq_true_iff]

theorem isLE_compare : (compare a b).isLE = decide (a.toList ≤ b.toList) := by
  rw [Bool.eq_iff_iff, Ordering.isLE_iff_ne_gt, ← Ne.eq_def, compare_le_iff_le,
    String.le_iff_toList_le, decide_eq_true_iff]

theorem isGE_compare : (compare a b).isGE = decide (b.toList ≤ a.toList) := by
  rw [Bool.eq_iff_iff, Ordering.isGE_iff_ne_lt, ← Ne.eq_def, compare_ge_iff_ge,
    String.le_iff_toList_le, decide_eq_true_iff]

end

theorem Value.isWithin_strings (low high a : String) :
    Value.isWithin (.string low) (.string high) (.string a) =
      some ((compare a low).isGE && (compare a high).isLE) :=
  Truth.and_some _ _

theorem Value.isAmong_strings (texts : List String) (negated : Bool) (a : String) :
    Value.isAmong (texts.map .string) negated (.string a) =
      some (texts.contains a != negated) := by
  have found : (texts.map Value.string).any (Value.string a).equals = texts.contains a := by
    rw [List.any_map, List.contains_eq_any_beq]
    rfl
  rw [Value.isAmong, found]
  rfl

def Text.normalized (trim upper : Bool) (text : String) : List Char :=
  let trimmed := if trim then Text.trimChars text.toList else text.toList
  if upper then Text.upperChars trimmed else trimmed

theorem Reading.normalize_eq (r : Reading) (text : String) :
    r.normalize text = String.ofList (Text.normalized r.trim r.upper text) :=
  rfl

namespace Filter

section
variable {settings : CompilerSettings} {field : String} {enclosing : Option Comparator}
  {comparator : Comparator} {trim upper : Bool} {vs ws : List Json} {s t : Scope} {r : Resolved}

theorem column_text {row : Row} {text : String} (textual : r.type.isTextual = true)
    (held : row.field r.field = .string text) (c : Condition) :
    (column r c).eval row = .ok (.string (String.ofList (Text.normalized c.trim c.upper text))) := by
  have plain := Resolved.expr_eval held
  have trimmed : (if c.trim then Expr.trim r.expr else r.expr).eval row =
      .ok (.string (String.ofList (if c.trim then Text.trimChars text.toList else text.toList))) := by
    cases c.trim with
    | true =>
      rw [if_pos rfl, Expr.eval, plain]
      rfl
    | false => rw [if_neg Bool.false_ne_true, plain, if_neg Bool.false_ne_true, String.ofList_toList]
  rw [column, if_pos textual]
  dsimp only
  cases upper : c.upper with
  | true =>
    rw [if_pos rfl, Expr.eval, trimmed]
    simp [Text.normalized, Except.map, Value.upper, Text.upper]
  | false =>
    rw [if_neg Bool.false_ne_true, trimmed]
    simp [Text.normalized]

def Scalars (vs : List Json) : Prop := ∀ raw ∈ vs, raw.isScalar = true ∧ isNullLiteral raw = false

theorem literalText?_scalar {raw : Json} (scalar : raw.isScalar = true) :
    Coercion.literalText? raw = some (searchText raw) := by
  cases raw with
  | bool b => cases b <;> rfl
  | number | string => rfl
  | null | array | object => cases scalar

theorem readOrKeep_text (dates : DateSettings) (reading : Reading) {type : FieldType} {raw : Json}
    (textual : type.isTextual = true) (scalar : raw.isScalar = true) :
    Coercion.readOrKeep dates reading type raw =
      .string (String.ofList (Text.normalized reading.trim reading.upper (searchText raw))) := by
  have normalized : Coercion.ofText? dates reading type (searchText raw) =
      some (.string (String.ofList
        (Text.normalized reading.trim reading.upper (searchText raw)))) := by
    rw [← Reading.normalize_eq]
    cases type with
    | scalar kind =>
      cases kind with
      | string | char => rfl
      | _ => cases textual
    | enumeration | embedded | compositeKey | relation => cases textual
  simp only [Coercion.readOrKeep, Coercion.read, Json.isNull_of_isScalar scalar, Bool.false_eq_true,
    if_false, literalText?_scalar scalar, normalized]

theorem flatMap_present (scalars : Scalars vs) : vs.flatMap present = vs := by
  have alone : ∀ raw ∈ vs, present raw = [raw] := fun raw member =>
    present_scalar (scalars raw member).1 (scalars raw member).2
  rw [List.flatMap_congr alone, List.flatMap_singleton']

def textsOf (trim upper : Bool) (vs : List Json) : List (List Char) :=
  vs.map fun raw => Text.normalized trim upper (searchText raw)

theorem valuesOf_text {type : FieldType} (textual : type.isTextual = true) (scalars : Scalars vs) :
    valuesOf settings type comparator trim upper vs =
      ((textsOf trim upper vs).map String.ofList).map .string := by
  have listed : (placed vs).map Prod.fst = vs := (placed_literals vs).trans (flatMap_present scalars)
  conv => rhs; rw [← listed]
  rw [valuesOf, textsOf, List.map_map, List.map_map, List.map_map]
  -- The position of a literal tells ranges of dates apart, and no texts.
  apply List.map_congr_left
  rintro ⟨raw, index⟩ member
  have given : raw ∈ vs := listed ▸ List.mem_map_of_mem (f := Prod.fst) member
  exact readOrKeep_text _ ⟨comparator, trim, upper, index⟩ textual (scalars raw given).1

/-- A predicate on a column of texts says of them what a comparator does. -/
def Decides (comparator : Comparator) (p : Predicate) (column : Expr) (texts : List String) : Prop :=
  ∀ (row : Row) (a : String), column.eval row = .ok (.string a) →
    p.eval row = .ok (some (comparator.holdsOf a.toList (texts.map String.toList)))

theorem contains_texts (texts : List String) (a : String) :
    (texts.map String.toList).contains a.toList = texts.contains a := by
  rw [Bool.eq_iff_iff, List.contains_iff_mem, List.contains_iff_mem]
  exact List.mem_map_of_injective fun _ _ => String.toList_injective

theorem decides_isIn (column : Expr) (texts : List String) (negated : Bool) :
    Decides (if negated then .notIn else .isIn) (.isIn column (texts.map .string) negated) column
      texts := by
  intro row a held
  rw [Predicate.eval, held]
  change Except.ok (Value.isAmong (texts.map .string) negated (.string a)) = _
  rw [Value.isAmong_strings]
  cases negated with
  | false => rw [if_neg Bool.false_ne_true, Comparator.holdsOf, contains_texts, Bool.bne_false]
  | true => rw [if_pos rfl, Comparator.holdsOf, contains_texts, Bool.bne_true]

theorem decides_compareTo {op : CompareOp} {text : String} {rest : List String} (column : Expr)
    (orders : ∀ a : String, op.truth (.string a) (.string text) =
      some (comparator.holdsOf a.toList (text.toList :: rest.map String.toList))) :
    Decides comparator (.compareTo op column (.string text)) column (text :: rest) := by
  intro row a held
  rw [Predicate.eval_compareTo, held]
  exact congrArg Except.ok (orders a)

theorem decides_between (column : Expr) (low high : String) :
    Decides .between (.between column (.string low) (.string high)) column [low, high] := by
  intro row a held
  rw [Predicate.eval, held]
  change Except.ok (Value.isWithin (.string low) (.string high) (.string a)) = _
  rw [Value.isWithin_strings, isGE_compare, isLE_compare]
  rfl

theorem compareValues_texts (r : Resolved) (trim upper : Bool) (vs : List Json)
    (texts : List String) (compares : comparator.isComparison = true)
    (accepted : (Condition.expectedCount comparator).allows texts.length = true) :
    ∃ p, compareValues r (comparing comparator trim upper vs) (texts.map .string) = .ok p ∧
      Decides comparator p (column r (comparing comparator trim upper vs)) texts := by
  match texts with
  | [] =>
    cases comparator with
    | eq | ne | gt | ge | lt | le | isIn | notIn | between => cases accepted
    | _ => cases compares
  | text :: rest =>
    cases comparator with
    | eq =>
      have same : ∀ a : String, (a == text) = (a.toList == text.toList) := fun a => by
        rw [Bool.eq_iff_iff, beq_iff_eq, beq_iff_eq, String.toList_inj]
      exact ⟨_, rfl, decides_compareTo _ fun a => congrArg some (same a)⟩
    | gt => exact ⟨_, rfl, decides_compareTo _ fun a => congrArg some (isGT_compare a text)⟩
    | ge => exact ⟨_, rfl, decides_compareTo _ fun a => congrArg some (isGE_compare a text)⟩
    | lt => exact ⟨_, rfl, decides_compareTo _ fun a => congrArg some (isLT_compare a text)⟩
    | le => exact ⟨_, rfl, decides_compareTo _ fun a => congrArg some (isLE_compare a text)⟩
    | isIn => exact ⟨_, rfl, decides_isIn _ (text :: rest) false⟩
    | notIn => exact ⟨_, rfl, decides_isIn _ (text :: rest) true⟩
    | ne =>
      -- One text makes a comparison and several a membership; both say that it is none of them.
      have present : ∀ v ∈ (text :: rest).map Value.string, v.isNull = false := by simp [Value.isNull]
      obtain ⟨p, compared, same⟩ := ne_compared trim upper vs r present
      refine ⟨p, compared, fun row a held => ?_⟩
      rw [same row]
      exact decides_isIn _ (text :: rest) true row a held
    | between =>
      obtain ⟨high, rfl⟩ : ∃ high, rest = [high] := by
        simpa [Condition.expectedCount, ValueCount.allows, List.length_eq_one_iff] using accepted
      exact ⟨_, rfl, decides_between _ text high⟩
    | _ => cases compares

/-- A comparison of texts compiles, and says of normalized texts what its comparator does. Of the
literals it sees the normalized texts alone. -/
theorem comparing_texts (found : Resolve.resolve field s = (.ok r, t))
    (textual : r.type.isTextual = true) (compares : comparator.isComparison = true)
    (accepted : Accepted comparator vs) :
    ∃ p, (∀ ws, Scalars ws → textsOf trim upper ws = textsOf trim upper vs →
        ofCondition settings field enclosing (comparing comparator trim upper ws) s = (.ok p, t)) ∧
      ∀ (row : Row) (text : String), row.field r.field = .string text →
        p.eval row = .ok (some (comparator.holdsOf (Text.normalized trim upper text)
          (textsOf trim upper vs))) := by
  have counted : ((textsOf trim upper vs).map String.ofList).length = vs.length := by
    simp [textsOf]
  obtain ⟨p, compared, decided⟩ := compareValues_texts r trim upper vs
    ((textsOf trim upper vs).map String.ofList) compares (counted ▸ accepted)
  refine ⟨p, ?_, ?_⟩
  · intro ws scalars same
    have counted : ws.length = vs.length := by
      simpa [textsOf] using congrArg List.length same
    have accepted' : Accepted comparator ws := by
      rw [Accepted, counted]
      exact accepted
    rw [comparing_found compares accepted' found, valuesOf_text textual scalars, same]
    exact congrArg (·, t) compared
  · intro row text held
    have evaluated := decided row _ (column_text textual held _)
    simpa [Function.comp_def, comparing] using evaluated

theorem eq_finds (found : Resolve.resolve field s = (.ok r, t)) (textual : r.type.isTextual = true)
    (text : String) :
    ∃ p, ofCondition settings field enclosing (comparing .eq trim upper [.string text]) s =
        (.ok p, t) ∧
      ∀ row : Row, row.field r.field = .string text →
        p.eval row = .ok (some (!isNullLiteral (.string text))) := by
  have accepted : Accepted .eq [.string text] := rfl
  cases null : isNullLiteral (.string text) with
  | true =>
    -- Without its literal the comparison asks for null, which the row does not hold.
    have nothing : placed [.string text] = [] := by
      simp [placed, present, flatten, null]
    refine ⟨.isNull r.expr, ?_, fun row held => ?_⟩
    · rw [comparing_found (by rfl) accepted found, valuesOf, nothing]
      rfl
    · rw [Predicate.eval, Resolved.expr_eval held]
      rfl
  | false =>
    have scalars : Scalars [.string text] := by
      simp [Scalars, Json.isScalar, null]
    obtain ⟨p, compiled, holds⟩ := comparing_texts found textual (by rfl) accepted
    refine ⟨p, compiled _ scalars rfl, fun row held => ?_⟩
    rw [holds row text held]
    simp [Comparator.holdsOf, textsOf, searchText]

/-- Comparisons of texts compare normalized texts, and tell apart neither rows nor literals of which
these are the same. Equality finds what it asks for, but for the word for null. -/
theorem text_comparisons (found : Resolve.resolve field s = (.ok r, t))
    (textual : r.type.isTextual = true) (enclosing : Option Comparator) (trim upper : Bool) :
    (∀ comparator vs, comparator.isComparison = true → Accepted comparator vs → Scalars vs →
      ∃ p, ofCondition settings field enclosing (comparing comparator trim upper vs) s = (.ok p, t) ∧
        (∀ (row : Row) (text : String), row.field r.field = .string text →
          p.eval row = .ok (some (comparator.holdsOf (Text.normalized trim upper text)
            (textsOf trim upper vs)))) ∧
        (∀ (row row' : Row) (text text' : String), row.field r.field = .string text →
          row'.field r.field = .string text' →
          Text.normalized trim upper text = Text.normalized trim upper text' →
          p.eval row = p.eval row') ∧
        ∀ ws, Scalars ws → textsOf trim upper ws = textsOf trim upper vs →
          ofCondition settings field enclosing (comparing comparator trim upper ws) s =
            (.ok p, t)) ∧
    ∀ text : String, ∃ p,
      ofCondition settings field enclosing (comparing .eq trim upper [.string text]) s =
        (.ok p, t) ∧
      ∀ row : Row, row.field r.field = .string text →
        (p.eval row = .ok (some true) ↔ isNullLiteral (.string text) = false) := by
  constructor
  · intro comparator vs compares accepted scalars
    obtain ⟨p, compiled, holds⟩ := comparing_texts found textual compares accepted
    refine ⟨p, compiled vs scalars rfl, holds, ?_, compiled⟩
    intro row row' text text' held held' same
    rw [holds row text held, holds row' text' held', same]
  · intro text
    obtain ⟨p, compiled, finds⟩ := eq_finds found textual text
    refine ⟨p, compiled, fun row held => ?_⟩
    rw [finds row held]
    simp

end

theorem text_comparisons_name :
    ∃ p, ofCondition {} "name" none (comparing .isIn true true [.string "Eve", .string " bob "])
        Sample.scope = (.ok p, Sample.scope) ∧
      p.eval ⟨[("name", .string "Bob")], []⟩ = .ok (some true) := by
  have found : Resolve.resolve "name" Sample.scope =
      (.ok ⟨⟨.root, ["name"], "name"⟩, .scalar .string⟩, Sample.scope) := rfl
  have scalars : Scalars [.string "Eve", .string " bob "] := by
    intro raw member
    simp only [List.mem_cons, List.not_mem_nil, or_false] at member
    rcases member with rfl | rfl <;> exact ⟨rfl, by decide⟩
  have accepted : Accepted .isIn [.string "Eve", .string " bob "] := rfl
  obtain ⟨p, compiled, holds, -⟩ :=
    (text_comparisons found rfl none true true).1 .isIn _ rfl accepted scalars
  have listed : Comparator.isIn.holdsOf (Text.normalized true true "Bob")
      (textsOf true true [.string "Eve", .string " bob "]) = true := by decide +kernel
  refine ⟨p, compiled, ?_⟩
  rw [holds _ "Bob" rfl, listed]

end Filter

end EntitySearch
