import EntitySearch.Proofs.LiteralGrouping
import EntitySearch.Proofs.PatternLanguage

/-! Searches for texts.

A text is escaped, put between wildcards and matched as a pattern. Its
characters come out of the pattern as they went in, whichever character escapes
them, and what matches is plain text search. Only when the escape is the
wildcard for any run, the wildcards around the text are read as escapes.
-/

set_option autoImplicit false

namespace EntitySearch

namespace Text

section
variable {escape : Char} {cs text : List Char} {tokens : List Token}

/-- An escaped text is read back as its characters, and what follows it as without it. -/
theorem tokenize_escapeChars (escape : Char) (cs rest : List Char) :
    tokenize escape (escapeChars escape cs ++ rest) =
      cs.map .letter ++ tokenize escape rest := by
  induction cs with
  | nil => rfl
  | cons c cs ih =>
    by_cases special : c = '%' ∨ c = '_' ∨ c = escape
    · rw [escapeChars, if_pos special, List.cons_append, List.cons_append, tokenize, if_pos rfl, ih]
      rfl
    · rw [escapeChars, if_neg special, List.cons_append, tokenize.eq_def]
      simp only [not_or] at special
      obtain ⟨notRun, notOne, notEscape⟩ := special
      simp only [notEscape, notRun, notOne, if_false, ih]
      rfl

theorem matchTokens_letters : matchTokens (cs.map .letter ++ tokens) text = true ↔
    ∃ back, text = cs ++ back ∧ matchTokens tokens back = true := by
  induction cs generalizing text with
  | nil => simp
  | cons c cs ih =>
    cases text with
    | nil => simp [matchTokens]
    | cons d text =>
      simp only [List.map_cons, List.cons_append, matchTokens, Bool.and_eq_true, beq_iff_eq, ih,
        List.cons.injEq]
      constructor
      · rintro ⟨rfl, back, rfl, rest⟩
        exact ⟨back, ⟨rfl, rfl⟩, rest⟩
      · rintro ⟨back, ⟨rfl, rfl⟩, rest⟩
        exact ⟨rfl, back, rfl, rest⟩

theorem matchTokens_run : matchTokens (.anyRun :: tokens) text = true ↔
    ∃ front back, text = front ++ back ∧ matchTokens tokens back = true := by
  rw [matchTokens, anySuffix_iff]

theorem matchTokens_anything (text : List Char) : matchTokens [.anyRun] text = true :=
  matchTokens_run.mpr ⟨text, [], (List.append_nil text).symm, rfl⟩

theorem matches_anywhere (plain : escape ≠ '%') :
    matchTokens (tokenize escape ('%' :: (escapeChars escape cs ++ ['%']))) text = true ↔
      cs <:+: text := by
  have tokens : tokenize escape ('%' :: (escapeChars escape cs ++ ['%'])) =
      .anyRun :: (cs.map .letter ++ [.anyRun]) := by
    rw [tokenize_run _ plain, tokenize_escapeChars, tokenize_run _ plain]
    rfl
  rw [tokens, matchTokens_run]
  constructor
  · rintro ⟨front, back, rfl, found⟩
    obtain ⟨rest, rfl, -⟩ := matchTokens_letters.mp found
    exact ⟨front, rest, List.append_assoc front cs rest⟩
  · rintro ⟨front, rest, rfl⟩
    refine ⟨front, cs ++ rest, List.append_assoc front cs rest, ?_⟩
    exact matchTokens_letters.mpr ⟨rest, rfl, matchTokens_anything rest⟩

theorem matches_front (plain : escape ≠ '%') :
    matchTokens (tokenize escape (escapeChars escape cs ++ ['%'])) text = true ↔ cs <+: text := by
  rw [tokenize_escapeChars, tokenize_run _ plain, matchTokens_letters]
  constructor
  · rintro ⟨rest, rfl, -⟩
    exact List.prefix_append cs rest
  · rintro ⟨rest, rfl⟩
    exact ⟨rest, rfl, matchTokens_anything rest⟩

theorem matches_back (plain : escape ≠ '%') :
    matchTokens (tokenize escape ('%' :: escapeChars escape cs)) text = true ↔ cs <:+ text := by
  have tokens : tokenize escape ('%' :: escapeChars escape cs) =
      .anyRun :: (cs.map .letter ++ []) := by
    have all := tokenize_escapeChars escape cs []
    rw [List.append_nil] at all
    rw [tokenize_run _ plain, all]
    rfl
  rw [tokens, matchTokens_run]
  constructor
  · rintro ⟨front, back, rfl, found⟩
    obtain ⟨rest, rfl, nothing⟩ := matchTokens_letters.mp found
    rw [matchTokens_nil.mp nothing, List.append_nil]
    exact List.suffix_append front cs
  · rintro ⟨front, rfl⟩
    exact ⟨front, cs, rfl, matchTokens_letters.mpr ⟨[], (List.append_nil cs).symm, rfl⟩⟩

end

end Text

def Comparator.finds : Comparator → List Char → List Char → Prop
  | .like, sought, text => sought <:+: text
  | .startsWith, sought, text => sought <+: text
  | .endsWith, sought, text => sought <:+ text
  | .notLike, sought, text => ¬ sought <+: text
  | _, _, _ => False

def Json.isScalar : Json → Bool
  | .bool _ | .number _ | .string _ => true
  | _ => false

theorem Json.isNull_of_isScalar {raw : Json} (scalar : raw.isScalar = true) : raw.isNull = false := by
  cases raw with
  | null => cases scalar
  | _ => rfl

theorem Resolved.expr_eval {row : Row} {r : Resolved} {v : Value} (held : row.field r.field = v) :
    r.expr.eval row = .ok v := by
  rw [expr, Expr.eval, held]

def Text.shown (upper : Bool) (text : String) : List Char :=
  if upper then Text.upperChars text.toList else text.toList

namespace Filter

section
variable {escape : Char} {sought text : String}

theorem like_iff (plain : escape ≠ '%') :
    Text.matchesPattern text (patternFor .like (Text.escapePattern sought escape)) escape = true ↔
      sought.toList <:+: text.toList := by
  have chars : (patternFor .like (Text.escapePattern sought escape)).toList =
      '%' :: (Text.escapeChars escape sought.toList ++ ['%']) := by
    simp [patternFor, Text.escapePattern]
  rw [Text.matchesPattern, chars]
  exact Text.matches_anywhere plain

theorem startsWith_iff (plain : escape ≠ '%') :
    Text.matchesPattern text (patternFor .startsWith (Text.escapePattern sought escape)) escape =
      true ↔ sought.toList <+: text.toList := by
  have chars : (patternFor .startsWith (Text.escapePattern sought escape)).toList =
      Text.escapeChars escape sought.toList ++ ['%'] := by
    simp [patternFor, Text.escapePattern]
  rw [Text.matchesPattern, chars]
  exact Text.matches_front plain

theorem endsWith_iff (plain : escape ≠ '%') :
    Text.matchesPattern text (patternFor .endsWith (Text.escapePattern sought escape)) escape =
      true ↔ sought.toList <:+ text.toList := by
  have chars : (patternFor .endsWith (Text.escapePattern sought escape)).toList =
      '%' :: Text.escapeChars escape sought.toList := by
    simp [patternFor, Text.escapePattern]
  rw [Text.matchesPattern, chars]
  exact Text.matches_back plain

/-- What the pattern of a search matches, as its comparator has it. -/
theorem pattern_finds {comparator : Comparator} (searches : comparator.isPattern = true)
    (plain : escape ≠ '%') :
    (Text.matchesPattern text (patternFor comparator (Text.escapePattern sought escape)) escape !=
        (comparator == .notLike)) = true ↔
      comparator.finds sought.toList text.toList := by
  cases comparator with
  | like =>
    rw [beq_false_of_ne (by decide), Bool.bne_false]
    exact like_iff plain
  | startsWith =>
    rw [beq_false_of_ne (by decide), Bool.bne_false]
    exact startsWith_iff plain
  | endsWith =>
    rw [beq_false_of_ne (by decide), Bool.bne_false]
    exact endsWith_iff plain
  | notLike =>
    rw [beq_self_eq_true, Bool.bne_true, Bool.not_eq_true', ← Bool.not_eq_true]
    exact not_congr (startsWith_iff plain)
  | _ => cases searches

end

section
variable {settings : CompilerSettings} {field : String} {s t : Scope} {r : Resolved}
  {comparator : Comparator} {trim upper : Bool} {enclosing : Option Comparator} {raw : Json}

def searching (comparator : Comparator) (trim upper : Bool) (raw : Json) : Condition :=
  ⟨comparator, [.literal raw], trim, upper⟩

theorem present_scalar (scalar : raw.isScalar = true) (given : isNullLiteral raw = false) :
    present raw = [raw] := by
  cases raw <;> simp_all [Json.isScalar, present, flatten]

theorem present_null (scalar : raw.isScalar = true) (null : isNullLiteral raw = true) :
    present raw = [] := by
  cases raw <;> simp_all [Json.isScalar, present, flatten]

theorem isTemporal_of_isTextual {type : FieldType} (textual : type.isTextual = true) :
    type.isTemporal = false := by
  cases type with
  | scalar kind => cases kind <;> first | rfl | cases textual
  | enumeration | embedded | compositeKey | relation => cases textual

theorem ofCondition_searchOne (found : Resolve.resolve field s = (.ok r, t))
    (searches : comparator.isPattern = true)
    (searchable : checkSearch field r.type comparator = .ok ()) (scalar : raw.isScalar = true) :
    ofCondition settings field enclosing (searching comparator trim upper raw) s =
      (if isNullLiteral raw = true then .error (invalid (.noPresentValue comparator field))
        else searchOne settings field r comparator trim upper enclosing raw, t) := by
  have alone : ∀ p, connect (enclosing.getD .and) [p] = p := by
    intro p
    unfold connect
    split <;> rfl
  unfold ofCondition
  cases comparator with
  | like | startsWith | endsWith | notLike =>
    refine (run_bind_ok (a := ()) (t := s) rfl).trans ?_
    refine (run_bind_ok found).trans ?_
    rw [searchable]
    refine (run_bind_ok (a := ()) (t := t) rfl).trans ?_
    rw [show [Operand.literal raw] = [raw].map .literal from rfl,
      ofSearchOperands_literals (searchLiteral_eq _), List.flatMap_singleton]
    cases null : isNullLiteral raw with
    | true =>
      rw [present_null scalar null, if_pos rfl]
      rfl
    | false =>
      rw [present_scalar scalar null, List.mapM_cons, if_neg Bool.false_ne_true]
      cases searchOne settings field r _ trim upper enclosing raw with
      | error e => rfl
      | ok p => exact congrArg (Except.ok · , t) (alone p)
  | _ => cases searches

theorem ofCondition_searching (found : Resolve.resolve field s = (.ok r, t))
    (textual : r.type.isTextual = true) (searches : comparator.isPattern = true)
    (scalar : raw.isScalar = true) (given : isNullLiteral raw = false) :
    ofCondition settings field enclosing (searching comparator trim upper raw) s =
      (.ok (search settings r (searching comparator trim upper raw) enclosing 0 raw), t) := by
  have searchable : checkSearch field r.type comparator = .ok () := by
    simp [checkSearch, textual]
  have listed : searchOne settings field r comparator trim upper enclosing raw =
      .ok (search settings r (searching comparator trim upper raw) enclosing 0 raw) :=
    if_neg fun days => by simp [isTemporal_of_isTextual textual] at days
  rw [ofCondition_searchOne found searches searchable scalar, given, if_neg Bool.false_ne_true,
    listed]

theorem search_eval {row : Row} {text : String} (held : row.field r.field = .string text)
    (c : Condition) (apart : enclosing ≠ some .notLike) :
    (search settings r c enclosing 0 raw).eval row = .ok (some
      (Text.matchesPattern (String.ofList (Text.shown c.upper text))
          (patternFor c.comparator
            (Text.escapePattern ((Reading.ofCondition c 0).normalize (searchText raw))
              settings.likeEscape))
          settings.likeEscape != (c.comparator == .notLike))) := by
  have negated : isNegated c.comparator enclosing = (c.comparator == .notLike) := by
    cases c.comparator <;> simp [isNegated, apart]
  have plain := Resolved.expr_eval held
  have column : (if c.upper then Expr.upper r.expr else r.expr).eval row =
      .ok (.string (String.ofList (Text.shown c.upper text))) := by
    cases c.upper with
    | true =>
      rw [if_pos rfl, Expr.eval, plain]
      rfl
    | false =>
      rw [if_neg Bool.false_ne_true, plain, Text.shown, if_neg Bool.false_ne_true,
        String.ofList_toList]
  unfold search negateIf
  rw [negated]
  cases c.comparator == .notLike with
  | true =>
    rw [if_pos rfl, Predicate.eval, Predicate.eval, column, Bool.bne_true]
    rfl
  | false =>
    rw [if_neg Bool.false_ne_true, Predicate.eval, column, Bool.bne_false]
    rfl

/-- With another escape than the wildcard for any run, a search is plain text search. -/
theorem search_finds {row : Row} {text : String} (held : row.field r.field = .string text)
    {c : Condition} (searches : c.comparator.isPattern = true) (apart : enclosing ≠ some .notLike)
    (plain : settings.likeEscape ≠ '%') :
    (search settings r c enclosing 0 raw).eval row = .ok (some true) ↔
      c.comparator.finds ((Reading.ofCondition c 0).normalizeChars (searchText raw).toList)
        (Text.shown c.upper text) := by
  have sought : ((Reading.ofCondition c 0).normalize (searchText raw)).toList =
      (Reading.ofCondition c 0).normalizeChars (searchText raw).toList := String.toList_ofList
  rw [search_eval held c apart, Except.ok.injEq, Option.some.injEq, pattern_finds searches plain,
    sought, String.toList_ofList]

/-- Read as escapes, the wildcards match nothing of an empty text. -/
theorem pattern_misses (searches : comparator.isPattern = true) :
    Text.matchesPattern "" (patternFor comparator (Text.escapePattern "" '%')) '%' = false := by
  cases comparator with
  | like | startsWith | endsWith | notLike => decide
  | _ => cases searches

theorem finds_nothing (searches : comparator.isPattern = true) :
    comparator.finds [] [] ↔ comparator ≠ .notLike := by
  cases comparator with
  | like | startsWith | endsWith | notLike => simp [Comparator.finds]
  | _ => cases searches

theorem search_misses {row : Row} (held : row.field r.field = .string "")
    (searches : comparator.isPattern = true) (apart : enclosing ≠ some .notLike)
    (escaped : settings.likeEscape = '%') :
    ¬ ((search settings r (searching comparator trim upper (.string "")) enclosing 0
          (.string "")).eval row = .ok (some true) ↔
        comparator.finds (Reading.normalizeChars ⟨comparator, trim, upper, 0⟩ [])
          (Text.shown upper "")) := by
  have normalized : Reading.normalizeChars ⟨comparator, trim, upper, 0⟩ [] = [] := by
    cases trim <;> cases upper <;> rfl
  have shown : Text.shown upper "" = [] := by
    cases upper <;> rfl
  have sought : (Reading.ofCondition (searching comparator trim upper (.string "")) 0).normalize
      (searchText (.string "")) = "" := congrArg String.ofList normalized
  have value : (search settings r (searching comparator trim upper (.string "")) enclosing 0
      (.string "")).eval row = .ok (some _) := search_eval held _ apart
  simp only [searching] at value sought ⊢
  have missed : Text.matchesPattern (String.ofList [])
      (patternFor comparator (Text.escapePattern "" '%')) '%' = false := pattern_misses searches
  rw [value, normalized, shown, sought, escaped, finds_nothing searches, missed]
  simp

end

end Filter

theorem Record.exists_read (v : Value) : ∀ path : List String, path ≠ [] →
    ∃ r : Record, r.read path = v
  | [], empty => absurd rfl empty
  | [last], _ => ⟨[(last, v)], by simp [read, Keyed.find?]⟩
  | hop :: next :: rest, _ => by
    obtain ⟨nested, held⟩ := Record.exists_read v (next :: rest) (List.cons_ne_nil next rest)
    exact ⟨[(hop, .object nested)], by simp [read, Keyed.find?, held]⟩

theorem Row.exists_field {f : FieldRef} (path : f.path ≠ []) (v : Value) :
    ∃ row : Row, row.field f = v := by
  obtain ⟨r, held⟩ := Record.exists_read v f.path path
  cases source : f.source with
  | root => exact ⟨⟨r, []⟩, by simp [field, source?, source, held]⟩
  | join index =>
    refine ⟨⟨[], List.replicate index [] ++ [r]⟩, ?_⟩
    simp [field, source?, source, held]

theorem Resolve.path_ne_nil {path : String} {s t : Scope} {r : Resolved}
    (found : resolve path s = (.ok r, t)) : r.field.path ≠ [] := by
  simp only [resolve] at found
  split at found
  · obtain ⟨_, _, thrown, -⟩ := run_bind_inv found
    cases thrown
  · simp only [run_get_bind] at found
    obtain ⟨place, _, _, found⟩ := run_bind_inv found
    obtain ⟨type, _, _, found⟩ := run_bind_inv found
    cases found
    simp

namespace Filter

/-- Searches are plain text searches exactly when the escape is not the wildcard for any run. -/
theorem search_iff {settings : CompilerSettings} {field : String} {s t : Scope} {r : Resolved}
    (found : Resolve.resolve field s = (.ok r, t)) (textual : r.type.isTextual = true)
    {comparator : Comparator} (searches : comparator.isPattern = true) (trim upper : Bool)
    {enclosing : Option Comparator} (apart : enclosing ≠ some .notLike) :
    (∀ raw : Json, raw.isScalar = true → isNullLiteral raw = false →
      ∃ p, ofCondition settings field enclosing (searching comparator trim upper raw) s =
          (.ok p, t) ∧
        ∀ (row : Row) (text : String), row.field r.field = .string text →
          (p.eval row = .ok (some true) ↔ comparator.finds
            (Reading.normalizeChars ⟨comparator, trim, upper, 0⟩ (searchText raw).toList)
            (Text.shown upper text))) ↔
      settings.likeEscape ≠ '%' := by
  constructor
  · intro plainly escaped
    obtain ⟨row, held⟩ := Row.exists_field (Resolve.path_ne_nil found) (.string "")
    have given : isNullLiteral (.string "") = false := by decide
    obtain ⟨p, compiled, holds⟩ := plainly (.string "") rfl given
    rw [ofCondition_searching found textual searches rfl given] at compiled
    obtain rfl := Except.ok.inj (Prod.mk.inj compiled).1
    exact search_misses held searches apart escaped (holds row "" held)
  · intro plain raw scalar given
    refine ⟨_, ofCondition_searching found textual searches scalar given, ?_⟩
    intro row text held
    exact search_finds held searches apart plain

theorem search_iff_name :
    (∀ raw : Json, raw.isScalar = true → isNullLiteral raw = false →
      ∃ p, ofCondition { likeEscape := '_' } "name" none (searching .like true false raw)
          Sample.scope = (.ok p, Sample.scope) ∧
        ∀ (row : Row) (text : String), row.field ⟨.root, ["name"], "name"⟩ = .string text →
          (p.eval row = .ok (some true) ↔ Comparator.like.finds
            (Reading.normalizeChars ⟨.like, true, false, 0⟩ (searchText raw).toList)
            (Text.shown false text))) ↔
      '_' ≠ '%' :=
  have found : Resolve.resolve "name" Sample.scope =
      (.ok ⟨⟨.root, ["name"], "name"⟩, .scalar .string⟩, Sample.scope) := rfl
  search_iff found rfl rfl true false (by decide)

end Filter

end EntitySearch
