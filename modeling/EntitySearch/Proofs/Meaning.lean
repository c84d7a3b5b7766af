import EntitySearch.Proofs.Distinct
import EntitySearch.Proofs.Cursor

/-! The meaning of composed conditions.

Conjunctions, disjunctions and cases have a three-valued truth that comes of the
truth of the conditions they are composed of, down to the leaves. What they
compile to has that truth on every row, if its leaves have theirs.
-/

set_option autoImplicit false

namespace EntitySearch

variable {α β : Type} {b : Base}

namespace Truth

/-- False if a part is, else unknown if one is. -/
def all (parts : List Truth) : Truth := parts.foldr and (some true)

def any (parts : List Truth) : Truth := parts.foldr or (some false)

theorem all_beq_true (parts : List Truth) :
    (all parts == some true) = parts.all (· == some true) := by
  induction parts with
  | nil => rfl
  | cons t rest ih =>
    have whole : all (t :: rest) = and t (all rest) := rfl
    rw [whole, List.all_cons, ← ih]
    rcases t with _ | _ | _ <;> rcases all rest with _ | _ | _ <;> rfl

def connect (comparator : Comparator) (parts : List Truth) : Truth :=
  if comparator = .or then any parts else all parts

end Truth

/-- The truth of a branch of a case, with the comparator that it is marked by. -/
abbrev Branch : Type := Option Comparator × Truth

namespace Branch

def guards (branches : List Branch) : List Truth :=
  (branches.filter fun branch => branch.1 ≠ some .otherwise).map Prod.snd

def otherwise (branches : List Branch) : List Truth :=
  (branches.filter fun branch => branch.1 = some .otherwise).map Prod.snd

/-- Whether a case holds, which is never unknown. -/
def select (result : Truth) (branches : List Branch) : Bool :=
  if (guards branches).all (· == some true) then result == some true
  else !(otherwise branches).isEmpty && (otherwise branches).all (· == some true)

end Branch

/-- The truth of a condition that is not composed, on an attribute and within a comparator. -/
abbrev Leaves : Type := String → Option Comparator → Condition → Truth

/-- A bare literal asks for itself, an array for one of its items. -/
def Operand.bare (leaf : Leaves) (head : Condition.Head) (field : String) : Json → Truth
  | .array items =>
    leaf field (some head.comparator) ⟨.isIn, items.map .literal, head.trim, head.upper⟩
  | raw => leaf field (some head.comparator) ⟨.eq, [.literal raw], head.trim, head.upper⟩

def Operand.isTrue : Json → Bool
  | .bool holds => holds
  | _ => false

mutual

def Condition.meaning (leaf : Leaves) (field : String) (enclosing : Option Comparator) :
    Condition → Truth
  | ⟨comparator, values, trim, upper⟩ =>
    match comparator, values with
    | .and, values => .all (Operand.meanings leaf ⟨.and, trim, upper⟩ field values)
    | .or, values => .any (Operand.meanings leaf ⟨.or, trim, upper⟩ field values)
    | .case, result :: branches =>
      some (Branch.select (result.result leaf ⟨.case, trim, upper⟩ field)
        (Operand.branches leaf ⟨.case, trim, upper⟩ field branches))
    | _, _ => leaf field enclosing ⟨comparator, values, trim, upper⟩

/-- The truth of an operand: a condition applies to the attribute at hand, a map to its own. -/
def Operand.meaning (leaf : Leaves) (head : Condition.Head) (field : String) : Operand → Truth
  | .condition c => c.meaning leaf field (some head.comparator)
  | .literal raw => Operand.bare leaf head field raw
  | .fields entries => .connect head.comparator (Operand.entries leaf head entries)

def Operand.meanings (leaf : Leaves) (head : Condition.Head) (field : String) :
    List Operand → List Truth
  | [] => []
  | operand :: rest => operand.meaning leaf head field :: Operand.meanings leaf head field rest

def Operand.entries (leaf : Leaves) (head : Condition.Head) :
    List (String × Operand) → List Truth
  | [] => []
  | (field, operand) :: rest => operand.meaning leaf head field :: Operand.entries leaf head rest

def Operand.result (leaf : Leaves) (head : Condition.Head) (field : String) : Operand → Truth
  | .literal raw => some (Operand.isTrue raw)
  | .condition c => c.meaning leaf field (some head.comparator)
  | .fields entries => .connect head.comparator (Operand.entries leaf head entries)

/-- The branches of a case; every field of a map is one. -/
def Operand.branches (leaf : Leaves) (head : Condition.Head) (field : String) :
    List Operand → List Branch
  | [] => []
  | operand :: rest =>
    (match operand with
      | .condition c => [(some c.comparator, c.meaning leaf field (some head.comparator))]
      | .literal raw => [(none, Operand.bare leaf head field raw)]
      | .fields entries => Operand.branchEntries leaf head entries) ++
      Operand.branches leaf head field rest

def Operand.branchEntries (leaf : Leaves) (head : Condition.Head) :
    List (String × Operand) → List Branch
  | [] => []
  | (field, operand) :: rest =>
    (Filter.comparator? operand, operand.meaning leaf head field) ::
      Operand.branchEntries leaf head rest

end

mutual

/-- No map of fields is empty, down to the leaves. -/
def Condition.isFilled : Condition → Bool
  | ⟨comparator, values, _, _⟩ => !comparator.isComposite || Operand.allFilled values

def Operand.isFilled : Operand → Bool
  | .literal _ => true
  | .condition c => c.isFilled
  | .fields entries => !entries.isEmpty && Operand.eachFilled entries

def Operand.allFilled : List Operand → Bool
  | [] => true
  | operand :: rest => operand.isFilled && Operand.allFilled rest

def Operand.eachFilled : List (String × Operand) → Bool
  | [] => true
  | (_, operand) :: rest => operand.isFilled && Operand.eachFilled rest

end

def Predicate.HaveTruths (row : Row) (ps : List Predicate) (ts : List Truth) : Prop :=
  ps.map (Predicate.eval row) = ts.map Except.ok

namespace Predicate.HaveTruths

variable {row : Row} {p : Predicate} {ps qs : List Predicate} {t : Truth} {ts us : List Truth}

theorem nil : HaveTruths row [] [] := rfl

theorem cons_iff :
    HaveTruths row (p :: ps) (t :: ts) ↔ p.eval row = .ok t ∧ HaveTruths row ps ts := by
  simp only [HaveTruths, List.map_cons, List.cons.injEq]

theorem one (h : p.eval row = .ok t) : HaveTruths row [p] [t] :=
  cons_iff.mpr ⟨h, nil⟩

theorem append (first : HaveTruths row ps ts) (rest : HaveTruths row qs us) :
    HaveTruths row (ps ++ qs) (ts ++ us) := by
  simp only [HaveTruths, List.map_append] at first rest ⊢
  rw [first, rest]

theorem length (h : HaveTruths row ps ts) : ps.length = ts.length := by
  simpa using congrArg List.length h

theorem and (h : HaveTruths row ps ts) : (Predicate.and ps).eval row = .ok (Truth.all ts) := by
  rw [Predicate.eval]
  induction ps generalizing ts with
  | nil =>
    obtain rfl : ts = [] := List.eq_nil_of_length_eq_zero h.length.symm
    simp only [evalAnd, Truth.all, List.foldr_nil]
  | cons p rest ih =>
    cases ts with
    | nil => cases h
    | cons t ts =>
      obtain ⟨first, others⟩ := cons_iff.mp h
      exact evalAnd_cons first (ih others)

theorem or (h : HaveTruths row ps ts) : (Predicate.or ps).eval row = .ok (Truth.any ts) := by
  rw [Predicate.eval]
  induction ps generalizing ts with
  | nil =>
    obtain rfl : ts = [] := List.eq_nil_of_length_eq_zero h.length.symm
    simp only [evalOr, Truth.any, List.foldr_nil]
  | cons p rest ih =>
    cases ts with
    | nil => cases h
    | cons t ts =>
      obtain ⟨first, others⟩ := cons_iff.mp h
      exact evalOr_cons first (ih others)

theorem all (h : HaveTruths row ps ts) : (Predicate.all ps).eval row = .ok (Truth.all ts) := by
  unfold Predicate.all
  split
  · obtain ⟨t, rfl⟩ := List.length_eq_one_iff.mp h.length.symm
    rw [(cons_iff.mp h).1]
    rcases t with _ | _ | _ <;> rfl
  · exact h.and

theorem any (h : HaveTruths row ps ts) : (Predicate.any ps).eval row = .ok (Truth.any ts) := by
  unfold Predicate.any
  split
  · obtain ⟨t, rfl⟩ := List.length_eq_one_iff.mp h.length.symm
    rw [(cons_iff.mp h).1]
    rcases t with _ | _ | _ <;> rfl
  · exact h.or

theorem connect (comparator : Comparator) (h : HaveTruths row ps ts) :
    (Filter.connect comparator ps).eval row = .ok (Truth.connect comparator ts) := by
  unfold Filter.connect Truth.connect
  split
  · exact h.any
  · exact h.all

theorem isEmpty (h : HaveTruths row ps ts) (full : ts ≠ []) : ps.isEmpty = false := by
  cases ps with
  | nil => exact absurd (List.eq_nil_of_length_eq_zero h.length.symm) full
  | cons p rest => rfl

theorem connectMap (comparator : Comparator) (h : HaveTruths row ps ts) (full : ts ≠ []) :
    (Filter.connectMap comparator ps).eval row = .ok (Truth.connect comparator ts) := by
  rw [Filter.connectMap, if_neg (by simp [h.isEmpty full])]
  exact h.connect comparator

end Predicate.HaveTruths

structure Filter.Branches.HaveTruths (row : Row) (compiled : Filter.Branches)
    (branches : List Branch) : Prop where
  guards : Predicate.HaveTruths row compiled.guards (Branch.guards branches)
  otherwise : Predicate.HaveTruths row compiled.otherwise (Branch.otherwise branches)

namespace Filter.Branches.HaveTruths

variable {row : Row}

theorem nil : HaveTruths row {} [] := ⟨.nil, .nil⟩

theorem one {p : Predicate} {t : Truth} (comparator : Option Comparator)
    (h : p.eval row = .ok t) : HaveTruths row (.one comparator p) [(comparator, t)] := by
  unfold Branches.one
  by_cases marked : comparator = some .otherwise
  · subst marked
    exact ⟨.nil, .one h⟩
  · simp only [marked, if_false]
    constructor
    · simpa [Branch.guards, marked] using Predicate.HaveTruths.one h
    · simpa [Branch.otherwise, marked] using Predicate.HaveTruths.nil

theorem append {first rest : Branches} {branches others : List Branch}
    (h : HaveTruths row first branches) (h' : HaveTruths row rest others) :
    HaveTruths row (first.append rest) (branches ++ others) := by
  constructor
  · simpa [Branches.append, Branch.guards] using h.guards.append h'.guards
  · simpa [Branches.append, Branch.otherwise] using h.otherwise.append h'.otherwise

end Filter.Branches.HaveTruths

section
variable {row : Row} {p : Predicate} {e : Expr} {otherwise : Option Expr} {t : Truth}

theorem Value.isTrue_ofTruth (t : Truth) : (Value.ofTruth t).isTrue = (t == some true) := by
  rcases t with _ | _ | _ <;> rfl

theorem Value.isTrue_ofJson (raw : Json) : (Value.ofJson raw).isTrue = Operand.isTrue raw := by
  cases raw with
  | number n =>
    cases n with
    | int i =>
      simp only [Value.ofJson]
      split <;> rfl
    | float x => rfl
  | null | bool | string | array | object => rfl

theorem Expr.eval_selected (h : p.eval row = .ok (some true)) :
    (Expr.case p e otherwise).eval row = e.eval row := by
  cases otherwise <;> rw [Expr.eval, h] <;> rfl

theorem Expr.eval_passed (h : p.eval row = .ok t) (closed : t ≠ some true) :
    (Expr.case p e otherwise).eval row = otherwise.elim (.ok .null) (Expr.eval row) := by
  cases otherwise <;> rw [Expr.eval, h] <;> simp only [bind, Except.bind, closed, if_false] <;> rfl

end

/-- A case holds as its branches and its result say. -/
theorem Filter.ofBranches_select {field : String} {result : Expr} {compiled : Branches}
    {p : Predicate} {row : Row} {branches : List Branch} {t : Truth}
    (built : ofBranches field result compiled = .ok p) (h : compiled.HaveTruths row branches)
    (held : (result.eval row).map Value.isTrue = .ok (t == some true)) :
    p.eval row = .ok (some (Branch.select t branches)) := by
  have truth : ∀ e : Expr, (Predicate.isTrue e).eval row =
      ((e.eval row).map Value.isTrue).map some := by
    intro e
    rw [Predicate.eval]
    cases e.eval row <;> rfl
  have guards := h.guards.all
  have otherwise := h.otherwise.all
  unfold ofBranches at built
  split at built
  · cases built
  · obtain rfl := Except.ok.inj built
    rw [truth, Branch.select]
    cases chosen : (Branch.guards branches).all (· == some true) with
    | true =>
      rw [beq_iff_eq.mp ((Truth.all_beq_true _).trans chosen)] at guards
      rw [if_pos rfl, Expr.eval_selected guards, held]
      rfl
    | false =>
      have passed := beq_eq_false_iff_ne.mp ((Truth.all_beq_true _).trans chosen)
      rw [if_neg Bool.false_ne_true, Expr.eval_passed guards passed]
      cases others : Branch.otherwise branches with
      | nil =>
        have none : compiled.otherwise = [] :=
          List.eq_nil_of_length_eq_zero (h.otherwise.length.trans (congrArg List.length others))
        rw [none]
        rfl
      | cons first rest =>
        have some : compiled.otherwise.isEmpty = false :=
          h.otherwise.isEmpty (others ▸ List.cons_ne_nil first rest)
        rw [others] at otherwise
        simp only [some, Bool.false_eq_true, if_false, Option.elim_some, Expr.eval, otherwise,
          Except.map, Value.isTrue_ofTruth, Truth.all_beq_true]
        rfl

/-- What a computation grants of its results, where a later scope knows all that it crosses. -/
def Grants (b : Base) (later : Scope) (Q : α → Prop) (X : Resolve α) : Prop :=
  ∀ (s t : Scope) (a : α), s.Sound b → X s = (.ok a, t) →
    t.Sound b ∧ s.crossed <+: t.crossed ∧
      (later.Sound b → t.crossed <+: later.crossed → Q a)

namespace Grants

variable {later : Scope} {Q : α → Prop} {R : β → Prop}

theorem pure {a : α} (h : Q a) : Grants b later Q (Pure.pure a) := by
  rintro s t _ sound ⟨⟩
  exact ⟨sound, List.prefix_refl _, fun _ _ => h⟩

theorem ofExcept {o : Except QueryError α} (h : ∀ a, o = .ok a → Q a) :
    Grants b later Q (Resolve.ofExcept o) := by
  rintro s t a sound ran
  obtain ⟨same, rfl⟩ := Prod.mk.inj ran
  exact ⟨sound, List.prefix_refl _, fun _ _ => h a same⟩

theorem weaken {Q' : α → Prop} {X : Resolve α} (h : Grants b later Q X)
    (weaker : ∀ a, Q a → Q' a) : Grants b later Q' X := by
  intro s t a sound ran
  obtain ⟨sound', grown, holds⟩ := h s t a sound ran
  exact ⟨sound', grown, fun final known => weaker a (holds final known)⟩

theorem throw (e : QueryError) : Grants b later Q (MonadExcept.throw e : Resolve α) :=
  ofExcept (o := .error e) (by simp)

theorem bind {X : Resolve α} {F : α → Resolve β} (first : Grants b later Q X)
    (next : ∀ a, Grants b later (fun r => Q a → R r) (F a)) : Grants b later R (X >>= F) := by
  intro s t r sound ran
  obtain ⟨a, u, started, ended⟩ := run_bind_inv ran
  obtain ⟨sound', grown, holds⟩ := first s u a sound started
  obtain ⟨sound'', grown', holds'⟩ := next a u t r sound' ended
  refine ⟨sound'', grown.trans grown', fun final known => ?_⟩
  exact holds' final known (holds final (grown'.trans known))

theorem of_uniform {P : (Numbering → α) → Prop} {X : Resolve α}
    (h : Uniform b (Even P) fun _ => X) :
    Grants b later (fun a => (∃ v, X later = (.ok a, v)) ∧ ∃ g ν, P g ∧ a = g ν) X := by
  intro s t a early ran
  obtain ⟨left, grown⟩ := h.leaves early ran
  refine ⟨left, grown, fun final known => ⟨?_, ?_⟩⟩
  · obtain ⟨v, again, -⟩ := h.again early ran final known
    exact ⟨v, again⟩
  · obtain ⟨o, ν, _, even, ran', -⟩ := h.run early
    have same := congrArg Prod.fst (ran.symm.trans ran')
    rcases even with ⟨e, fails⟩ | ⟨g, holds, succeeds⟩
    · rw [fails] at same
      cases same
    · rw [succeeds] at same
      exact ⟨g, ν, holds, Except.ok.inj same⟩

end Grants

theorem Operand.bare_eq (leaf : Leaves) (head : Condition.Head) (field : String) (raw : Json) :
    bare leaf head field raw = leaf field (some head.comparator) (Filter.shorthand head raw) := by
  cases raw <;> rfl

theorem Operand.entries_ne_nil (leaf : Leaves) (head : Condition.Head)
    {filled : List (String × Operand)} (full : (!filled.isEmpty) = true) :
    entries leaf head filled ≠ [] := by
  cases filled with
  | nil => cases full
  | cons entry rest => simp [entries]

namespace Filter

/-- The truth on a row of a condition that is compiled by itself, in a scope. -/
def truthIn (settings : CompilerSettings) (s : Scope) (row : Row) : Leaves :=
  fun field enclosing c =>
    match (ofCondition settings field enclosing c s).1 with
    | .ok p => (p.eval row).toOption.join
    | .error _ => none

theorem ofLiteral_eq (settings : CompilerSettings) (head : Condition.Head) (field : String)
    (raw : Json) (enclosing : Option Comparator) :
    ofLiteral settings head field raw =
      ofCondition settings field enclosing (shorthand head raw) := by
  cases raw <;> simp only [ofLiteral, shorthand, ofCondition]

section
variable (settings : CompilerSettings) {later : Scope}

/-- A condition compiles to its truth in the scope that knows its relations. -/
theorem ofCondition_alone (field : String) (enclosing : Option Comparator)
    (c : Condition) :
    Grants b later (fun p => ∀ row, p.eval row = .ok (truthIn settings later row field enclosing c))
      (ofCondition settings field enclosing c) := by
  apply (Grants.of_uniform (ofCondition_uniform settings field enclosing c)).weaken
  rintro p ⟨⟨v, again⟩, g, ν, regular, rfl⟩ row
  obtain ⟨t, value⟩ := regular.holds ν row
  simp only [truthIn, again, value]
  rfl

theorem ofLiteral_bare (head : Condition.Head) (field : String) (raw : Json) :
    Grants b later
      (fun p => ∀ row, p.eval row = .ok (Operand.bare (truthIn settings later row) head field raw))
      (ofLiteral settings head field raw) := by
  simp only [ofLiteral_eq settings head field raw (some head.comparator), Operand.bare_eq]
  exact ofCondition_alone settings field _ _

theorem checked_bind {c : Condition} {Q : α → Prop} {X : Resolve α} (h : Grants b later Q X) :
    Grants b later Q (checked c >>= fun _ => X) :=
  (Grants.ofExcept (Q := fun _ => True) fun _ _ => trivial).bind fun _ =>
    h.weaken fun _ holds _ => holds

mutual

-- By recursion on what is compiled, as for the compilers that call each other.

theorem ofCondition_means (field : String) (enclosing : Option Comparator) : ∀ c : Condition,
    c.isFilled = true → Grants b later
      (fun p => ∀ row, p.eval row = .ok (c.meaning (truthIn settings later row) field enclosing))
      (ofCondition settings field enclosing c)
  | ⟨comparator, values, trim, upper⟩, filled => by
    simp only [Condition.isFilled, Bool.or_eq_true, Bool.not_eq_true'] at filled
    cases comparator with
    | and =>
      unfold ofCondition
      apply checked_bind
      apply (ofOperands_means _ field values (filled.resolve_left nofun)).bind
      intro parts
      apply Grants.pure
      intro known row
      simp only [Condition.meaning]
      exact (known row).all
    | or =>
      unfold ofCondition
      apply checked_bind
      apply (ofOperands_means _ field values (filled.resolve_left nofun)).bind
      intro parts
      apply Grants.pure
      intro known row
      simp only [Condition.meaning]
      exact (known row).any
    | case =>
      unfold ofCondition
      apply checked_bind
      match values with
      | [] => exact Grants.throw _
      | result :: branches =>
        simp only [Operand.allFilled, Bool.and_eq_true] at filled
        obtain ⟨first, others⟩ := filled.resolve_left nofun
        apply (ofResult_means _ field result first).bind
        intro e
        apply (ofBranchOperands_means _ field branches others).bind
        intro compiled
        apply Grants.ofExcept
        intro p built known held row
        simp only [Condition.meaning]
        exact ofBranches_select built (known row) (held row)
    | _ =>
      simp only [Condition.meaning]
      exact ofCondition_alone settings field enclosing _

theorem ofOperands_means (head : Condition.Head) (field : String) : ∀ operands : List Operand,
    Operand.allFilled operands = true → Grants b later
      (fun ps => ∀ row, Predicate.HaveTruths row ps
        (Operand.meanings (truthIn settings later row) head field operands))
      (ofOperands settings field head operands)
  | [], _ => by
    unfold ofOperands
    apply Grants.pure
    intro row
    simp only [Operand.meanings]
    exact .nil
  | .condition c :: rest, filled => by
    simp only [Operand.allFilled, Operand.isFilled, Bool.and_eq_true] at filled
    unfold ofOperands
    apply (ofCondition_means field _ c filled.1).bind
    intro p
    apply (ofOperands_means head field rest filled.2).bind
    intro parts
    apply Grants.pure
    intro others first row
    simp only [Operand.meanings, Operand.meaning]
    exact (Predicate.HaveTruths.one (first row)).append (others row)
  | .literal raw :: rest, filled => by
    simp only [Operand.allFilled, Bool.and_eq_true] at filled
    unfold ofOperands
    apply (ofLiteral_bare settings head field raw).bind
    intro p
    apply (ofOperands_means head field rest filled.2).bind
    intro parts
    apply Grants.pure
    intro others first row
    simp only [Operand.meanings, Operand.meaning]
    exact (Predicate.HaveTruths.one (first row)).append (others row)
  | .fields entries :: rest, filled => by
    simp only [Operand.allFilled, Operand.isFilled, Bool.and_eq_true] at filled
    unfold ofOperands
    apply (ofEntries_means head entries filled.1.2).bind
    intro part
    apply (ofOperands_means head field rest filled.2).bind
    intro parts
    apply Grants.pure
    intro others first row
    simp only [Operand.meanings, Operand.meaning]
    have full := Operand.entries_ne_nil (truthIn settings later row) head filled.1.1
    simp only [(first row).isEmpty full, Bool.false_eq_true, if_false]
    exact (Predicate.HaveTruths.one ((first row).connect head.comparator)).append (others row)

theorem ofResult_means (head : Condition.Head) (field : String) : ∀ operand : Operand,
    operand.isFilled = true → Grants b later
      (fun e => ∀ row, (e.eval row).map Value.isTrue =
        .ok (operand.result (truthIn settings later row) head field == some true))
      (ofResult settings field head operand)
  | .literal raw, _ => by
    unfold ofResult
    apply Grants.pure
    intro row
    simp only [Expr.eval, Except.map, Operand.result, Value.isTrue_ofJson]
    cases Operand.isTrue raw <;> rfl
  | .condition c, filled => by
    simp only [Operand.isFilled] at filled
    unfold ofResult
    apply (ofCondition_means field _ c filled).bind
    intro p
    apply Grants.pure
    intro known row
    simp only [Expr.eval, known row, Except.map, Operand.result, Value.isTrue_ofTruth]
  | .fields entries, filled => by
    simp only [Operand.isFilled, Bool.and_eq_true] at filled
    unfold ofResult
    apply (ofEntries_means head entries filled.2).bind
    intro parts
    apply Grants.pure
    intro known row
    have full := Operand.entries_ne_nil (truthIn settings later row) head filled.1
    simp only [Expr.eval, (known row).connectMap head.comparator full, Except.map, Operand.result,
      Value.isTrue_ofTruth]

theorem ofBranchOperands_means (head : Condition.Head) (field : String) :
    ∀ operands : List Operand, Operand.allFilled operands = true → Grants b later
      (fun compiled => ∀ row, compiled.HaveTruths row
        (Operand.branches (truthIn settings later row) head field operands))
      (ofBranchOperands settings field head operands)
  | [], _ => by
    unfold ofBranchOperands
    apply Grants.pure
    intro row
    simp only [Operand.branches]
    exact .nil
  | .condition c :: rest, filled => by
    simp only [Operand.allFilled, Operand.isFilled, Bool.and_eq_true] at filled
    unfold ofBranchOperands
    apply (ofCondition_means field _ c filled.1).bind
    intro p
    apply (ofBranchOperands_means head field rest filled.2).bind
    intro branches
    apply Grants.pure
    intro others first row
    simp only [Operand.branches]
    exact (Branches.HaveTruths.one _ (first row)).append (others row)
  | .literal raw :: rest, filled => by
    simp only [Operand.allFilled, Bool.and_eq_true] at filled
    unfold ofBranchOperands
    apply (ofLiteral_bare settings head field raw).bind
    intro p
    apply (ofBranchOperands_means head field rest filled.2).bind
    intro branches
    apply Grants.pure
    intro others first row
    simp only [Operand.branches]
    exact (Branches.HaveTruths.one _ (first row)).append (others row)
  | .fields entries :: rest, filled => by
    simp only [Operand.allFilled, Operand.isFilled, Bool.and_eq_true] at filled
    unfold ofBranchOperands
    apply (ofBranchEntries_means head entries filled.1.2).bind
    intro branch
    apply (ofBranchOperands_means head field rest filled.2).bind
    intro branches
    apply Grants.pure
    intro others first row
    simp only [Operand.branches]
    exact (first row).append (others row)

theorem ofBranchEntries_means (head : Condition.Head) : ∀ entries : List (String × Operand),
    Operand.eachFilled entries = true → Grants b later
      (fun compiled => ∀ row, compiled.HaveTruths row
        (Operand.branchEntries (truthIn settings later row) head entries))
      (ofBranchEntries settings head entries)
  | [], _ => by
    unfold ofBranchEntries
    apply Grants.pure
    intro row
    simp only [Operand.branchEntries]
    exact .nil
  | (field, operand) :: rest, filled => by
    simp only [Operand.eachFilled, Bool.and_eq_true] at filled
    unfold ofBranchEntries
    apply (ofEntry_means head field operand filled.1).bind
    intro p
    apply (ofBranchEntries_means head rest filled.2).bind
    intro branches
    apply Grants.pure
    intro others first row
    simp only [Operand.branchEntries]
    exact (Branches.HaveTruths.one _ (first row)).append (others row)

theorem ofEntry_means (head : Condition.Head) (field : String) : ∀ operand : Operand,
    operand.isFilled = true → Grants b later
      (fun p => ∀ row,
        p.eval row = .ok (operand.meaning (truthIn settings later row) head field))
      (ofEntry settings head field operand)
  | .condition c, filled => by
    simp only [Operand.isFilled] at filled
    unfold ofEntry
    simp only [Operand.meaning]
    exact ofCondition_means field _ c filled
  | .literal raw, _ => by
    unfold ofEntry
    simp only [Operand.meaning]
    exact ofLiteral_bare settings head field raw
  | .fields entries, filled => by
    simp only [Operand.isFilled, Bool.and_eq_true] at filled
    unfold ofEntry
    apply (ofEntries_means head entries filled.2).bind
    intro parts
    apply Grants.pure
    intro known row
    simp only [Operand.meaning]
    exact (known row).connectMap head.comparator (Operand.entries_ne_nil _ head filled.1)

theorem ofEntries_means (head : Condition.Head) : ∀ entries : List (String × Operand),
    Operand.eachFilled entries = true → Grants b later
      (fun ps => ∀ row, Predicate.HaveTruths row ps
        (Operand.entries (truthIn settings later row) head entries))
      (ofEntries settings head entries)
  | [], _ => by
    unfold ofEntries
    apply Grants.pure
    intro row
    simp only [Operand.entries]
    exact .nil
  | (field, operand) :: rest, filled => by
    simp only [Operand.eachFilled, Bool.and_eq_true] at filled
    unfold ofEntries
    apply (ofEntry_means head field operand filled.1).bind
    intro p
    apply (ofEntries_means head rest filled.2).bind
    intro parts
    apply Grants.pure
    intro others first row
    simp only [Operand.entries]
    exact Predicate.HaveTruths.cons_iff.mpr ⟨first row, others row⟩

end

end

/-- A condition that compiles has, on every row, the truth that its parts give it. -/
theorem ofCondition_meaning {settings : CompilerSettings} {entity field : String}
    {catalog loaded : Catalog} {first s t : Scope}
    (started : Scope.start entity catalog = (.ok first, loaded)) (reached : first.Reached s)
    {enclosing : Option Comparator} {c : Condition} (filled : c.isFilled = true) {p : Predicate}
    (compiled : ofCondition settings field enclosing c s = (.ok p, t)) (row : Row) :
    p.eval row = .ok (c.meaning (truthIn settings t row) field enclosing) := by
  have sound := reached.sound (Scope.start_sound started)
  have means : Grants first.base t
      (fun p => ∀ row, p.eval row = .ok (c.meaning (truthIn settings t row) field enclosing))
      (ofCondition settings field enclosing c) :=
    ofCondition_means settings field enclosing c filled
  obtain ⟨sound', -, holds⟩ := means s t p sound compiled
  exact holds sound' (List.prefix_refl _) row

end Filter

namespace Sample

/-- People called Ann, people with a number above two who live in no place but Oslo, and whoever
has no name that starts with a B, or Bob himself. -/
def composed : Condition :=
  ⟨.or, [.literal (.string "Ann"),
    .condition ⟨.and, [.fields [
      ("id", .condition ⟨.gt, [.literal (.number (.int 2))], false, false⟩),
      ("name", .fields [("city.name", .literal (.array [.string "Oslo"]))])]], true, true⟩,
    .condition ⟨.case, [.literal (.bool true),
      .condition ⟨.notLike, [.literal (.string "B")], false, false⟩,
      .condition ⟨.otherwise, [.literal (.string "Bob")], false, false⟩], false, false⟩],
    false, true⟩

end Sample

namespace Filter

theorem ofCondition_meaning_composed :
    ∃ p t, ofCondition {} "name" none Sample.composed Sample.scope = (.ok p, t) ∧
      ∀ row, p.eval row = .ok (Sample.composed.meaning (truthIn {} t row) "name" none) := by
  have compiles : (ofCondition {} "name" none Sample.composed Sample.scope).1.toOption.isSome :=
    by decide +kernel
  cases compiled : ofCondition {} "name" none Sample.composed Sample.scope with
  | mk outcome t =>
    rw [compiled] at compiles
    cases outcome with
    | error e => cases compiles
    | ok p =>
      have started : Scope.start "Person" Sample.catalog = (.ok Sample.scope, Sample.catalog) := rfl
      exact ⟨p, t, rfl, ofCondition_meaning started .first rfl compiled⟩

end Filter

end EntitySearch
