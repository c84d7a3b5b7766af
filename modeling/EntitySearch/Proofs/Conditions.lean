import EntitySearch.Proofs.Evaluation
import EntitySearch.Proofs.Outcomes
import EntitySearch.Proofs.Uniform

/-! What compiling conditions does to scopes.

By mutual induction over conditions and operands: compiling is uniform, and the
predicates it succeeds with are total.
-/

set_option autoImplicit false

namespace EntitySearch

open Numbered (renumber)

variable {b : Base}

abbrev AllTotal : (Numbering → Predicate) → Prop := Regular Predicate.Total

abbrev Parts : (Numbering → List Predicate) → Prop := Regular fun ps => ∀ p ∈ ps, p.Total

namespace Filter

variable {r : Numbering → Resolved} {type : FieldType}

theorem column_total (r : Resolved) (c : Condition) : (column r c).Total := by
  have expr : r.expr.Total := .field _
  unfold column
  split
  · dsimp only
    split <;> split
    · exact expr.trim.upper
    · exact expr.upper
    · exact expr.trim
    · exact expr
  · exact expr

theorem column_renumber (f : Nat → Nat) (r : Resolved) (c : Condition) :
    column (renumber f r) c = (column r c).renumber f := by
  unfold column
  simp only [show (renumber f r).type = r.type from rfl]
  split
  · split <;> split <;> rfl
  · rfl

theorem compareValues_total {r : Resolved} {c : Condition} {values : List Value} {p : Predicate}
    (h : compareValues r c values = .ok p) : p.Total := by
  have expr : r.expr.Total := .field _
  have column := column_total r c
  unfold compareValues at h
  dsimp only at h
  split at h
  case h_6 =>
    obtain rfl := Except.ok.inj h
    split
    · exact .isNull expr
    · exact .isIn _ _ column
  case h_7 =>
    obtain rfl := Except.ok.inj h
    split
    · exact .isNotNull expr
    · exact .isIn _ _ column
  all_goals
    split at h <;> cases h <;> first
      | exact .isNull expr
      | exact .isNotNull expr
      | exact .compareTo _ _ column
      | exact .isIn _ _ column
      | exact .between _ _ column

theorem compareValues_renumber (f : Nat → Nat) (r : Resolved) (c : Condition)
    (values : List Value) :
    compareValues (renumber f r) c values = (compareValues r c values).map (renumber f) := by
  unfold compareValues
  simp only [column_renumber]
  split <;> split <;> rfl

theorem plain_total {settings : CompilerSettings} {field : String} {r : Resolved} {c : Condition}
    {p : Predicate} (h : plain settings field r c = .ok p) : p.Total := by
  have expr : r.expr.Total := .field _
  simp only [plain] at h
  split at h
  · exact Except.ok.inj h ▸ .isNull expr
  · exact Except.ok.inj h ▸ .isNotNull expr
  · split at h
    · exact Except.ok.inj h ▸ .isEmpty expr
    · cases h
  · split at h
    · exact Except.ok.inj h ▸ .isNotEmpty expr
    · cases h
  · simp only [bind, Except.bind] at h
    split at h
    · cases h
    · exact compareValues_total h

theorem plain_renumber (settings : CompilerSettings) (field : String) (f : Nat → Nat)
    (r : Resolved) (c : Condition) :
    plain settings field (renumber f r) c = (plain settings field r c).map (renumber f) := by
  simp only [plain, show (renumber f r).type = r.type from rfl]
  split
  · rfl
  · rfl
  · split <;> rfl
  · split <;> rfl
  · simp only [bind, Except.bind]
    split
    · rfl
    · exact compareValues_renumber f r c _

theorem plain_even (settings : CompilerSettings) (field : String) (c : Condition)
    (typed : Regular (fun r => r.type = type) r) :
    Even AllTotal fun ν => plain settings field (r ν) c :=
  Even.of_regular (F := fun r => plain settings field r c) typed
    (fun f r => plain_renumber settings field f r c) fun _ _ _ built => plain_total built

theorem negateIf_total {p : Predicate} (negated : Bool) (h : p.Total) :
    (negateIf negated p).Total := by
  unfold negateIf
  split
  · exact .not h
  · exact h

theorem negateIf_renumber (negated : Bool) (f : Nat → Nat) (p : Predicate) :
    negateIf negated (p.renumber f) = (negateIf negated p).renumber f := by
  unfold negateIf
  split <;> rfl

theorem dayRange_total {settings : CompilerSettings} {field : String} {r : Resolved}
    {comparator : Comparator} {enclosing : Option Comparator} {raw : Json} {p : Predicate}
    (h : dayRange settings field r comparator enclosing raw = .ok p) : p.Total := by
  simp only [dayRange, bind, Except.bind] at h
  split at h
  · cases h
  · split at h
    · exact Except.ok.inj h ▸ negateIf_total _ (.between _ _ (.field _))
    · cases h

theorem dayRange_renumber (settings : CompilerSettings) (field : String) (f : Nat → Nat)
    (r : Resolved) (comparator : Comparator) (enclosing : Option Comparator) (raw : Json) :
    dayRange settings field (renumber f r) comparator enclosing raw =
      (dayRange settings field r comparator enclosing raw).map (renumber f) := by
  simp only [dayRange, show (renumber f r).type = r.type from rfl, bind, Except.bind]
  split
  · rfl
  · split
    · exact congrArg Except.ok (negateIf_renumber _ f (.between r.expr _ _))
    · rfl

theorem search_total (settings : CompilerSettings) (r : Resolved) (c : Condition)
    (enclosing : Option Comparator) (index : Nat) (raw : Json) :
    (search settings r c enclosing index raw).Total := by
  unfold search
  refine negateIf_total _ (.like _ _ ?_)
  split
  · exact .upper (.field _)
  · exact .field _

theorem search_renumber (settings : CompilerSettings) (f : Nat → Nat) (r : Resolved)
    (c : Condition) (enclosing : Option Comparator) (index : Nat) (raw : Json) :
    search settings (renumber f r) c enclosing index raw =
      (search settings r c enclosing index raw).renumber f := by
  unfold search
  rw [← negateIf_renumber]
  split <;> rfl

theorem searchLiteral_total {settings : CompilerSettings} {field : String} {r : Resolved}
    {c : Condition} {enclosing : Option Comparator} {index : Nat} {raw : Json}
    {ps : List Predicate} (h : searchLiteral settings field r c enclosing index raw = .ok ps) :
    ∀ p ∈ ps, p.Total := by
  unfold searchLiteral at h
  split at h
  · intro p held
    obtain ⟨literal, -, built⟩ := mem_of_mapM h held
    exact dayRange_total built
  · obtain rfl := Except.ok.inj h
    intro p held
    obtain ⟨literal, -, rfl⟩ := List.mem_map.mp held
    exact search_total settings r c enclosing index literal

theorem searchLiteral_renumber (settings : CompilerSettings) (field : String) (f : Nat → Nat)
    (r : Resolved) (c : Condition) (enclosing : Option Comparator) (index : Nat) (raw : Json) :
    searchLiteral settings field (renumber f r) c enclosing index raw =
      (searchLiteral settings field r c enclosing index raw).map (renumber f) := by
  simp only [searchLiteral, show (renumber f r).type = r.type from rfl]
  split
  · exact mapM_map_outcome (renumber f)
      (fun literal => dayRange_renumber settings field f r _ enclosing literal) _
  · refine congrArg Except.ok ?_
    show _ = ((present raw).map _).map _
    rw [List.map_map]
    apply List.map_congr_left
    intro literal _
    exact search_renumber settings f r c enclosing index literal

theorem searchLiteral_even (settings : CompilerSettings) (field : String) (c : Condition)
    (enclosing : Option Comparator) (index : Nat) (raw : Json)
    (typed : Regular (fun r => r.type = type) r) :
    Even Parts fun ν => searchLiteral settings field (r ν) c enclosing index raw :=
  Even.of_regular (F := fun r => searchLiteral settings field r c enclosing index raw) typed
    (fun f r => searchLiteral_renumber settings field f r c enclosing index raw)
    fun _ _ _ built => searchLiteral_total built

theorem connect_total (comparator : Comparator) {parts : List Predicate}
    (h : ∀ p ∈ parts, p.Total) : (connect comparator parts).Total := by
  unfold connect
  split
  · exact .any h
  · exact .all h

theorem connect_renumber (comparator : Comparator) (f : Nat → Nat) (parts : List Predicate) :
    renumber f (connect comparator parts) = connect comparator (renumber f parts) := by
  unfold connect
  split
  · exact Predicate.renumber_any f parts
  · exact Predicate.renumber_all f parts

theorem connect_parts (comparator : Comparator) {parts : Numbering → List Predicate}
    (h : Parts parts) : AllTotal fun ν => connect comparator (parts ν) :=
  h.map (connect_renumber comparator) fun _ => connect_total comparator

theorem connectMap_parts (comparator : Comparator) {parts : Numbering → List Predicate}
    (h : Parts parts) : AllTotal fun ν => connectMap comparator (parts ν) := by
  unfold connectMap
  rcases h.isEmpty with empty | full
  · simp only [empty, if_true]
    exact ⟨fun _ => .and (by simp), fun _ _ => rfl⟩
  · simp only [full, Bool.false_eq_true, if_false]
    exact connect_parts comparator h

theorem checked_uniform (c : Condition) : Uniform b (Even fun _ => True) fun _ => checked c :=
  Uniform.ofExcept ((Even.const _).weaken fun _ _ => trivial)

theorem ofLiteral_uniform (settings : CompilerSettings) (head : Condition.Head) (field : String)
    (raw : Json) : Uniform b (Even AllTotal) fun _ => ofLiteral settings head field raw := by
  unfold ofLiteral
  apply (checked_uniform _).andThen
  intro _ _
  apply (Uniform.resolve field).andThen
  intro r found
  obtain ⟨type, typed⟩ := Base.locate_regular found
  exact Uniform.ofExcept (plain_even settings field _ typed)

instance : Numbered Branches :=
  ⟨fun f branches => ⟨renumber f branches.guards, renumber f branches.otherwise⟩⟩

structure Branches.Total (branches : Branches) : Prop where
  guards : ∀ p ∈ branches.guards, p.Total
  otherwise : ∀ p ∈ branches.otherwise, p.Total

abbrev EvenBranches : (Numbering → Branches) → Prop := Regular Branches.Total

theorem EvenBranches.one (comparator : Option Comparator) {g : Numbering → Predicate}
    (h : AllTotal g) : EvenBranches fun ν => .one comparator (g ν) := by
  refine h.map (fun f p => ?_) fun p total => ?_
  · unfold Branches.one
    split <;> rfl
  · unfold Branches.one
    split
    · exact ⟨by simp, by simpa using total⟩
    · exact ⟨by simpa using total, by simp⟩

theorem EvenBranches.append {g k : Numbering → Branches} (first : EvenBranches g)
    (rest : EvenBranches k) : EvenBranches fun ν => (g ν).append (k ν) := by
  refine (first.pair rest).map (F := fun both => both.1.append both.2) (fun f both => ?_)
    fun both total => ?_
  · show Branches.mk _ _ = Branches.mk _ _
    exact congrArg₂ Branches.mk List.map_append List.map_append
  · obtain ⟨⟨guards, otherwise⟩, ⟨guards', otherwise'⟩⟩ := total
    exact ⟨fun p held => (List.mem_append.mp held).elim (guards p) (guards' p),
      fun p held => (List.mem_append.mp held).elim (otherwise p) (otherwise' p)⟩

theorem ofBranches_total {field : String} {result : Expr} {branches : Branches} {p : Predicate}
    (total : result.Total) (h : branches.Total) (built : ofBranches field result branches = .ok p) :
    p.Total := by
  unfold ofBranches at built
  split at built
  · cases built
  · obtain rfl := Except.ok.inj built
    refine .isTrue (.case (.all h.guards) total ?_)
    intro o held
    split at held
    · cases held
    · obtain rfl := Option.some.inj held
      exact .truth (.all h.otherwise)

theorem ofBranches_renumber (field : String) (f : Nat → Nat) (result : Expr)
    (branches : Branches) : ofBranches field (result.renumber f) (renumber f branches) =
      (ofBranches field result branches).map (renumber f) := by
  obtain ⟨guards, otherwise⟩ := branches
  show ofBranches field _ ⟨guards.map (Predicate.renumber f), otherwise.map (Predicate.renumber f)⟩ =
    _
  unfold ofBranches
  simp only [List.isEmpty_map]
  split
  · rfl
  · refine congrArg Except.ok ?_
    split
    · show Predicate.isTrue (.case _ _ _) = .isTrue (.case _ _ _)
      rw [Predicate.renumber_all]
    · show Predicate.isTrue (.case _ _ _) = .isTrue (.case _ _ (some (.truth _)))
      rw [Predicate.renumber_all, Predicate.renumber_all]

theorem ofBranches_even (field : String) {result : Numbering → Expr}
    {branches : Numbering → Branches} (total : Regular Expr.Total result)
    (h : EvenBranches branches) :
    Even AllTotal fun ν => ofBranches field (result ν) (branches ν) :=
  Even.of_regular (F := fun both => ofBranches field both.1 both.2) (total.pair h)
    (fun f both => ofBranches_renumber field f both.1 both.2)
    fun _ _ both built => ofBranches_total both.1 both.2 built

section
variable (settings : CompilerSettings)

mutual

-- Conditions stand among the operands of conditions: one lemma for each of the compilers that
-- call each other, by recursion on what they compile.

/-- Compiling a condition is uniform, and what it compiles to is total. -/
theorem ofCondition_uniform (field : String) (enclosing : Option Comparator) : ∀ c : Condition,
    Uniform b (Even AllTotal) fun _ => ofCondition settings field enclosing c
  | ⟨comparator, values, trim, upper⟩ => by
    unfold ofCondition
    apply (checked_uniform _).andThen
    intro _ _
    cases comparator with
    | and | or =>
      apply (ofOperands_uniform _ field values).andThen
      intro parts h
      exact Uniform.ok (connect_parts _ h)
    | case =>
      match values with
      | [] => exact Uniform.throw _
      | result :: branches =>
        apply (ofResult_uniform _ field result).andThen
        intro result total
        apply (ofBranchOperands_uniform _ field branches).andThen
        intro branches h
        exact Uniform.ofExcept (ofBranches_even field total h)
    | like | startsWith | endsWith | notLike =>
      apply (Uniform.resolve field).andThen
      intro r found
      obtain ⟨type, typed⟩ := Base.locate_regular found
      simp only [typed.holds]
      apply (Uniform.ofExcept (Even.const _)).andThen
      intro _ _
      refine (ofSearchOperands_uniform _ field
        (fun index raw => searchLiteral_even settings field _ enclosing index raw typed)
        0 values).andThen fun parts h => ?_
      rcases h.isEmpty with empty | full
      · simp only [empty, if_true]
        exact Uniform.throw _
      · simp only [full, Bool.false_eq_true, if_false]
        exact Uniform.ok (connect_parts _ h)
    | _ =>
      apply (Uniform.resolve field).andThen
      intro r found
      obtain ⟨type, typed⟩ := Base.locate_regular found
      exact Uniform.ofExcept (plain_even settings field _ typed)

theorem ofOperands_uniform (head : Condition.Head) (field : String) : ∀ operands : List Operand,
    Uniform b (Even Parts) fun _ => ofOperands settings field head operands
  | [] => by
    unfold ofOperands
    exact Uniform.ok .nil
  | .condition c :: rest => by
    unfold ofOperands
    apply (ofCondition_uniform field _ c).andThen
    intro p total
    apply (ofOperands_uniform head field rest).andThen
    intro parts h
    exact Uniform.ok (.append (.cons total .nil) h)
  | .literal raw :: rest => by
    unfold ofOperands
    apply (ofLiteral_uniform settings head field raw).andThen
    intro p total
    apply (ofOperands_uniform head field rest).andThen
    intro parts h
    exact Uniform.ok (.append (.cons total .nil) h)
  | .fields entries :: rest => by
    unfold ofOperands
    apply (ofEntries_uniform head entries).andThen
    intro part total
    apply (ofOperands_uniform head field rest).andThen
    intro parts h
    rcases total.isEmpty with empty | full
    · simp only [empty, if_true]
      exact Uniform.ok (.append .nil h)
    · simp only [full, Bool.false_eq_true, if_false]
      exact Uniform.ok (.append (.cons (connect_parts _ total) .nil) h)

theorem ofSearchOperands_uniform (head : Condition.Head) (field : String)
    {literal : Numbering → Nat → Json → Except QueryError (List Predicate)}
    (even : ∀ index raw, Even Parts fun ν => literal ν index raw) (index : Nat) :
    ∀ operands : List Operand, Uniform b (Even Parts) fun ν =>
      ofSearchOperands settings field head (literal ν) index operands
  | [] => by
    unfold ofSearchOperands
    exact Uniform.ok .nil
  | .condition c :: rest => by
    unfold ofSearchOperands
    apply (ofCondition_uniform field _ c).andThen
    intro p total
    apply (ofSearchOperands_uniform head field even (index + 1) rest).andThen
    intro parts h
    exact Uniform.ok (.append (.cons total .nil) h)
  | .literal raw :: rest => by
    unfold ofSearchOperands
    apply (Uniform.ofExcept (even index raw)).andThen
    intro part total
    apply (ofSearchOperands_uniform head field even (index + 1) rest).andThen
    intro parts h
    exact Uniform.ok (.append total h)
  | .fields entries :: rest => by
    unfold ofSearchOperands
    apply (ofEntries_uniform head entries).andThen
    intro part total
    apply (ofSearchOperands_uniform head field even (index + 1) rest).andThen
    intro parts h
    exact Uniform.ok (.append total h)

theorem ofResult_uniform (head : Condition.Head) (field : String) : ∀ operand : Operand,
    Uniform b (Even (Regular Expr.Total)) fun _ => ofResult settings field head operand
  | .literal raw => by
    unfold ofResult
    exact Uniform.ok ⟨fun _ => .literal _, fun _ _ => rfl⟩
  | .condition c => by
    unfold ofResult
    apply (ofCondition_uniform field _ c).andThen
    intro p total
    exact Uniform.ok (total.map (F := Expr.truth) (fun _ _ => rfl) fun _ => .truth)
  | .fields entries => by
    unfold ofResult
    apply (ofEntries_uniform head entries).andThen
    intro parts h
    exact Uniform.ok
      ((connectMap_parts _ h).map (F := Expr.truth) (fun _ _ => rfl) fun _ => .truth)

theorem ofBranchOperands_uniform (head : Condition.Head) (field : String) :
    ∀ operands : List Operand,
      Uniform b (Even EvenBranches) fun _ => ofBranchOperands settings field head operands
  | [] => by
    unfold ofBranchOperands
    exact Uniform.ok ⟨fun _ => ⟨by simp, by simp⟩, fun _ _ => rfl⟩
  | .condition c :: rest => by
    unfold ofBranchOperands
    apply (ofCondition_uniform field _ c).andThen
    intro p total
    apply (ofBranchOperands_uniform head field rest).andThen
    intro branches h
    exact Uniform.ok (.append (.one _ total) h)
  | .literal raw :: rest => by
    unfold ofBranchOperands
    apply (ofLiteral_uniform settings head field raw).andThen
    intro p total
    apply (ofBranchOperands_uniform head field rest).andThen
    intro branches h
    exact Uniform.ok (.append (.one _ total) h)
  | .fields entries :: rest => by
    unfold ofBranchOperands
    apply (ofBranchEntries_uniform head entries).andThen
    intro branch total
    apply (ofBranchOperands_uniform head field rest).andThen
    intro branches h
    exact Uniform.ok (.append total h)

theorem ofBranchEntries_uniform (head : Condition.Head) : ∀ entries : List (String × Operand),
    Uniform b (Even EvenBranches) fun _ => ofBranchEntries settings head entries
  | [] => by
    unfold ofBranchEntries
    exact Uniform.ok ⟨fun _ => ⟨by simp, by simp⟩, fun _ _ => rfl⟩
  | (field, operand) :: rest => by
    unfold ofBranchEntries
    apply (ofEntry_uniform head field operand).andThen
    intro p total
    apply (ofBranchEntries_uniform head rest).andThen
    intro branches h
    exact Uniform.ok (.append (.one _ total) h)

theorem ofEntry_uniform (head : Condition.Head) (field : String) : ∀ operand : Operand,
    Uniform b (Even AllTotal) fun _ => ofEntry settings head field operand
  | .condition c => by
    unfold ofEntry
    exact ofCondition_uniform field _ c
  | .literal raw => by
    unfold ofEntry
    exact ofLiteral_uniform settings head field raw
  | .fields entries => by
    unfold ofEntry
    apply (ofEntries_uniform head entries).andThen
    intro parts h
    exact Uniform.ok (connectMap_parts _ h)

theorem ofEntries_uniform (head : Condition.Head) : ∀ entries : List (String × Operand),
    Uniform b (Even Parts) fun _ => ofEntries settings head entries
  | [] => by
    unfold ofEntries
    exact Uniform.ok .nil
  | (field, operand) :: rest => by
    unfold ofEntries
    apply (ofEntry_uniform head field operand).andThen
    intro p total
    apply (ofEntries_uniform head rest).andThen
    intro parts h
    exact Uniform.ok (.cons total h)

end

end

end Filter

end EntitySearch
