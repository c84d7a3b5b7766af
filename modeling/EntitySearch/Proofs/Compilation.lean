import EntitySearch.Proofs.Conditions

/-! What compiling criteria does to scopes.

Every step of a compilation is uniform, and its outcomes differ in the numbers
of joins only. Without function calls, what a plan holds is total: conditions
and keys of grouping on rows, orders on groups.
-/

set_option autoImplicit false

namespace EntitySearch

open Numbered (renumber)

variable {b : Base}

namespace Filter

def outcomes (settings : CompilerSettings) :
    Keyed Condition → StateM Scope (List (Except QueryError Predicate))
  | [] => return []
  | (field, c) :: rest => do
    let first ← (ofCondition settings field none c).outcome
    let others ← outcomes settings rest
    return first :: others

def kept (outcomes : List (Except QueryError Predicate)) : List Predicate :=
  outcomes.flatMap (·.toOption.toList)

theorem all_kept (settings : CompilerSettings) (filters : Keyed Condition) :
    all settings filters = do return kept (← outcomes settings filters) := by
  induction filters with
  | nil => rfl
  | cons entry rest ih =>
    simp only [all, outcomes, ih, bind_assoc, pure_bind]
    rfl

theorem outcomes_runs (b : Base) (settings : CompilerSettings) :
    ∃ (new : String × Condition → List String)
      (o : String × Condition → Numbering → Except QueryError Predicate),
      (∀ entry, Even AllTotal (o entry)) ∧ ∀ filters : Keyed Condition,
        Runs b (filters.flatMap new) (fun ν => filters.map (o · ν)) fun _ =>
          outcomes settings filters := by
  have each : ∀ entry : String × Condition, Uniform b (Even AllTotal)
      fun _ => ofCondition settings entry.1 none entry.2 :=
    fun entry => ofCondition_uniform settings entry.1 none entry.2
  choose new o even runs using each
  refine ⟨new, o, even, fun filters => ?_⟩
  induction filters with
  | nil => exact .pure _
  | cons entry rest ih =>
    have tail := ih.bind (F := fun ν others => Pure.pure (o entry ν :: others))
      (.pure fun ν => o entry ν :: rest.map (o · ν))
    rw [List.append_nil] at tail
    exact (runs entry).bind (F := fun _ first => do
      let others ← outcomes settings rest
      return first :: others) tail

theorem all_of_outcomes {settings : CompilerSettings} {filters : Keyed Condition} {new : List String}
    {os : Numbering → List (Except QueryError Predicate)}
    (h : Runs b new os fun _ => outcomes settings filters) :
    Runs b new (fun ν => kept (os ν)) fun _ => all settings filters := by
  have chosen := h.bind (F := fun _ outcomes => Pure.pure (kept outcomes))
    (.pure fun ν => kept (os ν))
  simp only [all_kept]
  rwa [List.append_nil] at chosen

theorem all_runs (b : Base) (settings : CompilerSettings) :
    ∃ (new : String × Condition → List String)
      (g : String × Condition → Numbering → List Predicate), (∀ entry, Parts (g entry)) ∧
      ∀ filters : Keyed Condition, Runs b (filters.flatMap new) (fun ν => filters.flatMap (g · ν))
        fun _ => all settings filters := by
  obtain ⟨new, o, even, runs⟩ := outcomes_runs b settings
  refine ⟨new, fun entry ν => (o entry ν).toOption.toList, fun entry => (even entry).attempted, ?_⟩
  intro filters
  simpa only [kept, List.flatMap_map] using all_of_outcomes (runs filters)

theorem all_uniform (settings : CompilerSettings) (filters : Keyed Condition) :
    Uniform b Parts fun _ => all settings filters := by
  obtain ⟨new, g, parts, runs⟩ := all_runs b settings
  exact ⟨_, _, .flatMap filters parts, runs filters⟩

end Filter

def OrderTerm.Total (t : OrderTerm) : Prop := t.expr.TotalInGroups

abbrev Terms : (Numbering → List OrderTerm) → Prop := Regular fun ts => ∀ t ∈ ts, t.Total

namespace Order

theorem applyFunctions_total (functions : String) {e : Expr} (h : e.TotalInGroups) :
    (applyFunctions functions e).TotalInGroups := by
  unfold applyFunctions
  dsimp only
  split <;> split
  · exact h.trim.length
  · exact h.length
  · exact h.trim
  · exact h

theorem applyFunctions_renumber (functions : String) (f : Nat → Nat) (e : Expr) :
    (applyFunctions functions e).renumber f = applyFunctions functions (e.renumber f) := by
  unfold applyFunctions
  dsimp only
  split <;> split <;> rfl

theorem term_uniform (key : String) (direction : Direction) :
    Uniform b (Even (Regular OrderTerm.Total)) fun _ => term key direction := by
  unfold term
  obtain ⟨path, functions⟩ := splitKey key
  apply (Uniform.resolve path).andThen
  intro r found
  obtain ⟨type, typed⟩ := Base.locate_regular found
  apply Uniform.ok
  apply typed.map (F := fun r : Resolved =>
    (⟨functions.elim r.expr fun words => applyFunctions words r.expr, direction⟩ : OrderTerm))
  · intro f r
    cases functions with
    | none => rfl
    | some words => exact congrArg (OrderTerm.mk · direction) (applyFunctions_renumber words f r.expr)
  · intro r _
    cases functions with
    | none => exact .field _
    | some words => exact applyFunctions_total words (.field _)

theorem terms_uniform (orders : Keyed Direction) : Uniform b Terms fun _ => terms orders := by
  induction orders with
  | nil => exact Uniform.pure .nil
  | cons entry rest ih =>
    obtain ⟨key, direction⟩ := entry
    apply (term_uniform key direction).outcome.bind
    intro first even
    exact ih.bind fun others h => Uniform.pure (even.attempted.append h)

theorem isIdentifier_renumber (identifier : String) (f : Nat → Nat) (e : Expr) :
    isIdentifier identifier (e.renumber f) = isIdentifier identifier e := by
  cases e with
  | field r =>
    obtain ⟨source, path, qualified⟩ := r
    cases source <;> rfl
  | case _ _ otherwise => cases otherwise <;> simp only [Expr.renumber, isIdentifier]
  | _ => simp only [Expr.renumber, isIdentifier]

theorem stable_uniform {terms : Numbering → List OrderTerm} (h : Terms terms) :
    Uniform b (Even Terms) fun ν => stable (terms ν) := by
  unfold stable
  refine Uniform.get (fun ν s t same => by simp only [same]) fun s _ => ?_
  have settled : ∀ ν, (terms ν).any (fun t => isIdentifier s.identifier t.expr) =
      (terms fun _ => 0).any fun t => isIdentifier s.identifier t.expr := by
    intro ν
    refine h.settled (F := fun ts => ts.any fun t => isIdentifier s.identifier t.expr)
      (fun f ts => ?_) ν _
    show (ts.map _).any _ = _
    rw [List.any_map]
    congr 1
    funext t
    exact isIdentifier_renumber _ f t.expr
  simp only [settled]
  split
  · exact Uniform.ok h
  · apply (Uniform.resolve _).andThen
    intro id found
    obtain ⟨type, typed⟩ := Base.locate_regular found
    apply Uniform.ok
    apply (h.pair typed).map (F := fun both : List OrderTerm × Resolved =>
      both.1 ++ [(⟨both.2.expr, (both.1.head?.map (·.direction)).getD .asc⟩ : OrderTerm)])
    · rintro f ⟨ts, id⟩
      show List.map _ (ts ++ _) = ts.map _ ++ _
      rw [List.map_append]
      cases ts <;> rfl
    · rintro ⟨ts, id⟩ ⟨total, -⟩ t held
      rcases List.mem_append.mp held with held | held
      · exact total t held
      · obtain rfl := List.mem_singleton.mp held
        exact .field _

theorem stableOr_uniform {terms : Numbering → List OrderTerm} (h : Terms terms) :
    Uniform b Terms fun ν => stableOr (terms ν) := by
  apply (stable_uniform h).outcome.bind
  intro o even
  apply Uniform.pure
  rcases even with ⟨e, fails⟩ | ⟨g, added, same⟩
  · simp only [fails]
    exact h
  · simp only [same]
    exact added

end Order

namespace Keyset

theorem predicate_uniform (settings : CompilerSettings) (cursor : Cursor) :
    Uniform b (Even AllTotal) fun _ => predicate settings cursor := by
  unfold predicate
  apply (Uniform.resolve _).andThen
  intro field found
  obtain ⟨type, typed⟩ := Base.locate_regular found
  cases cursor.idValue.filter fun raw => !raw.isNull with
  | none =>
    apply Uniform.ok
    apply typed.map (F := fun r : Resolved => Predicate.compareTo (after cursor.direction) r.expr
      (readValue settings cursor r cursor.value))
    · exact fun _ _ => rfl
    · exact fun _ _ => .compareTo _ _ (.field _)
  | some raw =>
    refine Uniform.get (fun ν s t same => by simp only [same]) fun s _ => ?_
    apply (Uniform.resolve _).andThen
    intro id found'
    obtain ⟨type', typed'⟩ := Base.locate_regular found'
    apply Uniform.ok
    apply (typed.pair typed').map (F := fun both : Resolved × Resolved =>
      let value := readValue settings cursor both.1 cursor.value
      let op := after cursor.direction
      Predicate.or [.compareTo op both.1.expr value, .and [.compareTo .eq both.1.expr value,
        .compareTo op both.2.expr (readValue settings cursor both.2 raw)]])
    · exact fun _ _ => rfl
    · rintro ⟨r, id⟩ -
      refine .or fun p held => ?_
      simp only [List.mem_cons, List.not_mem_nil, or_false] at held
      rcases held with rfl | rfl
      · exact .compareTo _ _ (.field _)
      · refine .and fun p held => ?_
        simp only [List.mem_cons, List.not_mem_nil, or_false] at held
        rcases held with rfl | rfl
        · exact .compareTo _ _ (.field _)
        · exact .compareTo _ _ (.field _)

theorem same_field {path other : String} {f g : Numbering → Resolved}
    (first : (b.locate path).2 = .ok f) (second : (b.locate other).2 = .ok g) :
    (∀ ν, (f ν).field = (g ν).field) ∨ ∀ ν, (f ν).field ≠ (g ν).field := by
  -- A field keeps the path it was found by, so that trimming decides.
  by_cases same : Text.trim path = Text.trim other
  · rw [Base.locate_trim same, second] at first
    obtain rfl := Except.ok.inj first
    exact .inl fun _ => rfl
  · obtain ⟨p, names, type, rfl⟩ := Base.locate_ok first
    obtain ⟨q, names', type', rfl⟩ := Base.locate_ok second
    exact .inr fun _ equal => same (congrArg FieldRef.qualified equal)

theorem term_regular {r : Numbering → Resolved} {type : FieldType} (direction : Direction)
    (typed : Regular (fun r => r.type = type) r) :
    Regular OrderTerm.Total fun ν => ⟨(r ν).expr, direction⟩ :=
  typed.map (F := fun r => (⟨r.expr, direction⟩ : OrderTerm)) (fun _ _ => rfl) fun _ _ => .field _

theorem order_uniform (cursor : Cursor) : Uniform b (Even Terms) fun _ => order cursor := by
  unfold order
  apply (Uniform.resolve _).andThen
  intro field found
  obtain ⟨type, typed⟩ := Base.locate_regular found
  refine Uniform.get (fun ν s t same => by simp only [same]) fun s _ => ?_
  apply (Uniform.resolve _).andThen
  intro id found'
  obtain ⟨type', typed'⟩ := Base.locate_regular found'
  have first := term_regular cursor.direction typed
  rcases same_field found found' with same | different
  · simp only [same, if_true]
    exact Uniform.ok (.cons first .nil)
  · simp only [different, if_false]
    exact Uniform.ok (.cons first (.cons (term_regular cursor.direction typed') .nil))

def Totals (part : Predicate × List OrderTerm) : Prop :=
  part.1.Total ∧ ∀ t ∈ part.2, t.Total

theorem both_uniform (settings : CompilerSettings) (cursor : Cursor) :
    Uniform b (Even (Regular Totals)) fun _ => both settings cursor := by
  unfold both
  apply (predicate_uniform settings cursor).andThen
  intro p total
  apply (order_uniform cursor).andThen
  intro terms total'
  exact Uniform.ok (total.pair total')

theorem ofCriteria_uniform (settings : CompilerSettings) (c : Criteria) :
    Uniform b (Regular fun o => ∀ part ∈ o, Totals part) fun _ => ofCriteria settings c := by
  unfold ofCriteria
  split
  · next cursor _ =>
    apply (both_uniform settings cursor).outcome.bind
    intro o even
    apply Uniform.pure
    rcases even with ⟨e, fails⟩ | ⟨g, totals, same⟩
    · simp only [fails]
      exact .none
    · simp only [same]
      exact .some totals
  · exact Uniform.pure .none

end Keyset

namespace Selecting

/-- Selecting may call any function: what it selects need have no value. -/
abbrev Settled {α : Type} [Numbered α] (b : Base) (X : StateM Scope α) : Prop :=
  Uniform b (Regular fun _ => True) fun _ => X

theorem expr_regular {r : Numbering → Resolved} {path : String}
    (found : (b.locate path).2 = .ok r) : Regular Expr.Total fun ν => (r ν).expr :=
  have ⟨_, typed⟩ := Base.locate_regular found
  typed.map (F := Resolved.expr) (fun _ _ => rfl) fun _ _ => .field _

theorem argument_uniform (reference : String) : Settled b (argument reference) := by
  apply (Uniform.resolve reference).outcome.bind
  intro o even
  rcases even with ⟨e, fails⟩ | ⟨g, found, same⟩
  · simp only [fails]
    exact Uniform.pure (.const trivial fun _ => rfl)
  · simp only [same]
    exact Uniform.pure ((expr_regular found).weaken fun _ _ => trivial)

theorem arguments_uniform (references : List String) : Settled b (arguments references) := by
  induction references with
  | nil => exact Uniform.pure (.const trivial fun _ => rfl)
  | cons reference rest ih =>
    refine (argument_uniform reference).bind fun e first => ih.bind fun es others =>
      Uniform.pure ?_
    exact (first.pair others).map (F := fun both : Expr × List Expr => both.1 :: both.2)
      (fun _ _ => rfl) fun _ _ => trivial

theorem ownAttribute_uniform (name : String) (spec : FunctionSpec) :
    Uniform b (fun g => (∀ ν, g ν = none) ∨
        ∃ e : Numbering → Expr, Regular Expr.Total e ∧ ∀ ν, g ν = some (e ν))
      fun _ => ownAttribute name spec := by
  unfold ownAttribute
  split
  · refine (Uniform.resolve name).outcome.bind fun o even => Uniform.pure ?_
    rcases even with ⟨e, fails⟩ | ⟨g, found, same⟩
    · exact .inl fun ν => by simp [fails, Except.toOption]
    · exact .inr ⟨fun ν => (g ν).expr, expr_regular found, fun ν => by simp [same, Except.toOption]⟩
  · exact Uniform.pure (.inl fun _ => rfl)

theorem function_uniform (name : String) (spec : FunctionSpec) :
    Settled b (function name spec) := by
  apply (ownAttribute_uniform name spec).bind
  intro own h
  rcases h with none | ⟨e, regular, some⟩
  · simp only [none]
    refine (arguments_uniform spec.references).bind fun args h => Uniform.pure ?_
    refine h.map (F := fun args => (⟨.call name args, some name⟩ : Selection)) (fun f args => ?_)
      fun _ _ => trivial
    show Selection.mk (.call name (Expr.renumberAll f args)) _ = Selection.mk (.call name _) _
    rw [Expr.renumberAll_eq]
    rfl
  · simp only [some]
    exact Uniform.pure (regular.map (F := fun e => (⟨e, .some name⟩ : Selection)) (fun _ _ => rfl)
      fun _ _ => trivial)

theorem functions_uniform (specs : Keyed FunctionSpec) : Settled b (functions specs) := by
  induction specs with
  | nil => exact Uniform.pure (.const trivial fun _ => rfl)
  | cons entry rest ih =>
    refine (function_uniform entry.1 entry.2).bind fun s first => ih.bind fun ss others =>
      Uniform.pure ?_
    exact (first.pair others).map (F := fun both : Selection × List Selection => both.1 :: both.2)
      (fun _ _ => rfl) fun _ _ => trivial

theorem found_uniform {α : Type} [Numbered α] {P : α → Prop} (path : String) (F : Resolved → α)
    (same : ∀ f r, renumber f (F r) = F (renumber f r)) (holds : ∀ r, P (F r)) :
    Uniform b (fun o : Numbering → Except QueryError Resolved =>
        Regular (fun xs => ∀ x ∈ xs, P x) fun ν => ((o ν).toOption.map F).toList)
      fun _ => (Resolve.resolve path).outcome := by
  apply (Uniform.resolve path).outcome.weaken
  rintro o (⟨e, fails⟩ | ⟨g, found, known⟩)
  · simp only [fails]
    exact .nil
  · obtain ⟨type, typed⟩ := Base.locate_regular found
    simp only [known]
    exact .cons (typed.map same fun r _ => holds r) .nil

theorem columns_uniform (paths : List String) :
    Uniform b (Regular fun ss => ∀ s ∈ ss, s.expr.TotalInGroups) fun _ => columns paths := by
  induction paths with
  | nil => exact Uniform.pure .nil
  | cons path rest ih =>
    have here := found_uniform (b := b) (P := fun s : Selection => s.expr.TotalInGroups) path
      (fun r => ⟨r.expr, some path⟩) (fun _ _ => rfl) fun r => .field _
    exact here.bind fun o first => ih.bind fun ss others => Uniform.pure (first.append others)

/-- What a search selects: entities or values, and values that exist unless functions are called. -/
structure Selects (c : Criteria) (p : Projection) : Prop where
  fetches : ∀ distinct, p ≠ .count distinct
  total : c.functions = [] → ∀ s ∈ p.selections, s.expr.TotalInGroups

theorem projection_uniform (c : Criteria) :
    Uniform b (Regular (Selects c)) fun _ => projection c := by
  unfold projection
  split
  · next calls =>
    refine (functions_uniform _).bind fun ss h => Uniform.pure ?_
    refine h.map (F := Projection.columns) (fun _ _ => rfl) fun _ _ => ⟨nofun, fun none => ?_⟩
    rw [none] at calls
    cases calls
  · refine (columns_uniform _).bind fun ss h => Uniform.pure ?_
    refine h.map (F := fun ss => if ss.isEmpty then Projection.entity else .columns ss)
      (fun f ss => ?_) fun ss total => ?_
    · cases ss <;> rfl
    · cases ss with
      | nil => exact ⟨nofun, fun _ => nofun⟩
      | cons s rest => exact ⟨nofun, fun _ => total⟩

theorem groupBy_uniform (paths : List String) :
    Uniform b (Regular fun es => ∀ e ∈ es, e.Total) fun _ => groupBy paths := by
  induction paths with
  | nil => exact Uniform.pure .nil
  | cons path rest ih =>
    unfold groupBy
    split
    · exact ih
    · have here := found_uniform (b := b) (P := Expr.Total) path Resolved.expr (fun _ _ => rfl)
        fun _ => .field _
      exact here.bind fun o first => ih.bind fun es others => Uniform.pure (first.append others)

end Selecting

namespace Plan

/-- What is evaluated on the way to the result, apart from what is selected, has values. -/
structure Total (p : Plan) : Prop where
  filters : ∀ q ∈ p.filters, q.Total
  seek : ∀ q ∈ p.seek, q.Total
  groupBy : ∀ e ∈ p.groupBy, e.Total
  orderBy : ∀ t ∈ p.orderBy, t.expr.TotalInGroups

theorem Total.restriction {p : Plan} (h : p.Total) : ∀ q ∈ p.restriction, q.Total := by
  intro q held
  unfold Plan.restriction at held
  split at held
  · cases held
  · obtain rfl := Option.some.inj held
    refine .all fun r part => ?_
    rcases List.mem_append.mp part with part | part
    · exact h.filters r part
    · exact h.seek r (by simpa using part)

def requestedOrder (c : Criteria) :
    Option (Predicate × List OrderTerm) → StateM Scope (List OrderTerm)
  | some (_, terms) => pure terms
  | none => Order.terms c.orders

/-- Rows that are not grouped are told apart by their identifier at last. -/
def finalOrder (grouped : Bool) (requested : List OrderTerm) : StateM Scope (List OrderTerm) :=
  if grouped then pure requested else Order.stableOr requested

def asksForGroups (c : Criteria) (projection : Projection) : Bool :=
  c.groupBy.any (fun path => !Text.isBlankText path) || projection.hasAggregate

def assemble (c : Criteria) (projection : Projection) (filters : List Predicate)
    (keyset : Option (Predicate × List OrderTerm)) (orderBy : List OrderTerm)
    (groupBy : List Expr) (scope : Scope) : Plan where
  root := scope.root.name
  identifier := scope.identifier
  joins := scope.joins
  projection
  filters
  seek := keyset.map (·.1)
  groupBy
  orderBy
  distinct := c.distinct
  offset := if keyset.isSome then none else c.first
  limit := c.pageSize
  single := c.singleResult

theorem inScope_eq (settings : CompilerSettings) (c : Criteria) :
    inScope settings c = do
      let projection ← Selecting.projection c
      let filters ← Filter.all settings c.filters
      let keyset ← Keyset.ofCriteria settings c
      let requested ← requestedOrder c keyset
      let orderBy ← finalOrder (asksForGroups c projection) requested
      let groupBy ← Selecting.groupBy c.groupBy
      return assemble c projection filters keyset orderBy groupBy (← get) := by
  unfold inScope
  congr 1
  funext projection
  congr 1
  funext filters
  congr 1
  funext keyset
  -- Both arms ask for the order in the same way, once for the cursor and once for the criteria.
  have ordered : ∀ requested (next : List OrderTerm → StateM Scope Plan),
      (if asksForGroups c projection = true then pure requested >>= next
        else Order.stableOr requested >>= next) =
      finalOrder (asksForGroups c projection) requested >>= next := by
    intro requested next
    unfold finalOrder
    split <;> rfl
  cases keyset with
  | none =>
    show (Order.terms c.orders >>= _) = (Order.terms c.orders >>= _)
    congr 1
    funext requested
    exact ordered requested _
  | some found => exact ordered found.2 _

theorem requestedOrder_uniform (c : Criteria)
    {keyset : Numbering → Option (Predicate × List OrderTerm)}
    (h : Regular (fun o => ∀ part ∈ o, Keyset.Totals part) keyset) :
    Uniform b Terms fun ν => requestedOrder c (keyset ν) := by
  have settled : ∀ ν, (keyset ν).isSome = (keyset fun _ => 0).isSome :=
    fun ν => h.settled (fun _ _ => Option.isSome_map) ν _
  cases some : (keyset fun _ => 0).isSome with
  | true =>
    have seeking : ∀ ν, requestedOrder c (keyset ν) = pure ((keyset ν).elim [] Prod.snd) := by
      intro ν
      obtain ⟨part, found⟩ := Option.isSome_iff_exists.mp ((settled ν).trans some)
      rw [found]
      rfl
    simp only [seeking]
    apply Uniform.pure
    apply h.map (F := fun o => o.elim [] Prod.snd) (fun f o => ?_) fun o totals => ?_
    · cases o <;> rfl
    · cases o with
      | none => exact fun t held => absurd held List.not_mem_nil
      | some part => exact (totals part rfl).2
  | false =>
    have without : ∀ ν, keyset ν = none :=
      fun ν => Option.isSome_eq_false_iff.mp ((settled ν).trans some) |> Option.isNone_iff_eq_none.mp
    simp only [without]
    exact Order.terms_uniform _

theorem finalOrder_uniform (grouped : Bool) {requested : Numbering → List OrderTerm}
    (h : Terms requested) : Uniform b Terms fun ν => finalOrder grouped (requested ν) := by
  unfold finalOrder
  split
  · exact Uniform.pure h
  · exact Order.stableOr_uniform h

/-- What a plan has besides what it selects and filters. -/
structure Arrangement where
  keyset : Option (Predicate × List OrderTerm)
  orderBy : List OrderTerm
  groupBy : List Expr

instance : Numbered Arrangement :=
  ⟨fun f a => ⟨renumber f a.keyset, renumber f a.orderBy, renumber f a.groupBy⟩⟩

structure Arrangement.Total (a : Arrangement) : Prop where
  keyset : ∀ part ∈ a.keyset, Keyset.Totals part
  orderBy : ∀ t ∈ a.orderBy, t.Total
  groupBy : ∀ e ∈ a.groupBy, e.Total

def arrange (settings : CompilerSettings) (c : Criteria) (grouped : Bool) :
    StateM Scope Arrangement := do
  let keyset ← Keyset.ofCriteria settings c
  let requested ← requestedOrder c keyset
  let orderBy ← finalOrder grouped requested
  let groupBy ← Selecting.groupBy c.groupBy
  return ⟨keyset, orderBy, groupBy⟩

theorem arrange_uniform (settings : CompilerSettings) (c : Criteria) (grouped : Bool) :
    Uniform b (Regular Arrangement.Total) fun _ => arrange settings c grouped := by
  apply (Keyset.ofCriteria_uniform settings c).bind
  intro keyset totals
  apply (requestedOrder_uniform c totals).bind
  intro requested known
  apply (finalOrder_uniform grouped known).bind
  intro orderBy ordered
  apply (Selecting.groupBy_uniform c.groupBy).bind
  intro groupBy keys
  apply Uniform.pure
  exact (totals.pair (ordered.pair keys)).map
    (F := fun a : Option (Predicate × List OrderTerm) × List OrderTerm × List Expr =>
      (⟨a.1, a.2.1, a.2.2⟩ : Arrangement))
    (fun _ _ => rfl) fun _ total => ⟨total.1, total.2.1, total.2.2⟩

theorem inScope_arranged (settings : CompilerSettings) (c : Criteria) :
    inScope settings c = do
      let projection ← Selecting.projection c
      let filters ← Filter.all settings c.filters
      let a ← arrange settings c (asksForGroups c projection)
      return assemble c projection filters a.keyset a.orderBy a.groupBy (← get) := by
  rw [inScope_eq]
  simp only [arrange, bind_assoc, pure_bind]

/-- Compiling puts what is selected, filtered and arranged together, and makes the joins of the
relations that are crossed on the way. -/
theorem inScope_runs (settings : CompilerSettings) (c : Criteria) {front : List String}
    {P : Projection → Prop} {projection : Numbering → Projection} (selected : Regular P projection)
    (selecting : Runs b front projection fun _ => Selecting.projection c) :
    ∃ back a, Regular Arrangement.Total a ∧
      ∀ (filters : Keyed Condition) (new : List String) (g : Numbering → List Predicate),
        (Runs b new g fun _ => Filter.all settings filters) → ∀ s : Scope, s.Sound b →
        ∃ t, t.Sound b ∧ t.crossed = cross s.crossed (front ++ (new ++ back)) ∧
          ∀ ν : Numbering, ν.Of t.crossed → inScope settings { c with filters } s =
            (assemble c (projection ν) (g ν) (a ν).keyset (a ν).orderBy (a ν).groupBy t, t) := by
  have settled : ∀ ν, asksForGroups c (projection ν) = asksForGroups c (projection fun _ => 0) :=
    fun ν => selected.settled (F := asksForGroups c)
      (fun f p => by simp only [asksForGroups, p.hasAggregate_renumber f]) ν _
  obtain ⟨back, a, total, arranging⟩ :=
    arrange_uniform (b := b) settings c (asksForGroups c (projection fun _ => 0))
  refine ⟨back, a, total, ?_⟩
  intro filters new g filtering s sound
  -- The parts run as one computation, up to the scope that they leave.
  have parts : Runs b (front ++ (new ++ (back ++ []))) (fun ν => (projection ν, g ν, a ν)) fun _ => do
      let projection ← Selecting.projection c
      let filters ← Filter.all settings filters
      let a ← arrange settings c (asksForGroups c projection)
      return (projection, filters, a) := by
    refine selecting.bind (filtering.bind (Runs.bind ?_ (.pure _)))
    simp only [settled]
    exact arranging
  rw [List.append_nil] at parts
  obtain ⟨t, ran, sound', crossed⟩ := parts.run sound
  refine ⟨t, sound', crossed, fun ν numbered => ?_⟩
  have whole : inScope settings { c with filters } = (do
      let (projection, filters, a) ← (do
        let projection ← Selecting.projection c
        let filters ← Filter.all settings filters
        let a ← arrange settings c (asksForGroups c projection)
        return (projection, filters, a))
      return assemble c projection filters a.keyset a.orderBy a.groupBy (← get)) := by
    rw [inScope_arranged]
    simp only [bind_assoc, pure_bind]
    rfl
  rw [whole, state_bind (ran ν numbered)]
  rfl

/-- What a plan takes over from its criteria and from the base they were compiled for. -/
structure Serves (b : Base) (c : Criteria) (p : Plan) : Prop where
  selects : Selecting.Selects c p.projection
  total : p.Total
  root : p.root = b.root.name
  identifier : p.identifier = b.identifier
  distinct : p.distinct = c.distinct
  offset : p.offset = none ∨ p.offset = c.first
  limit : p.limit = c.pageSize
  single : p.single = c.singleResult

theorem inScope_parts (settings : CompilerSettings) (c : Criteria) :
    ∃ projection filters a, Regular (Selecting.Selects c) projection ∧
      Regular (fun parts => ∀ q ∈ parts, q.Total) filters ∧ Regular Arrangement.Total a ∧
      ∀ s : Scope, s.Sound b → ∃ t, t.Sound b ∧ ∀ ν : Numbering, ν.Of t.crossed →
        inScope settings c s = (assemble c (projection ν) (filters ν) (a ν).keyset (a ν).orderBy
          (a ν).groupBy t, t) := by
  obtain ⟨front, projection, selected, selecting⟩ := Selecting.projection_uniform (b := b) c
  obtain ⟨new, g, parts, filtering⟩ := Filter.all_uniform (b := b) settings c.filters
  obtain ⟨back, a, total, compiles⟩ := inScope_runs settings c selected selecting
  refine ⟨projection, g, a, selected, parts, total, fun s sound => ?_⟩
  obtain ⟨t, sound', -, ran⟩ := compiles c.filters new g filtering s sound
  exact ⟨t, sound', ran⟩

theorem inScope_serves (settings : CompilerSettings) (c : Criteria) {s : Scope}
    (sound : s.Sound b) :
    (inScope settings c s).1.Serves b c := by
  obtain ⟨projection, filters, a, selected, parts, arranged, compiles⟩ :=
    inScope_parts (b := b) settings c
  obtain ⟨t, sound', ran⟩ := compiles s sound
  have total := arranged.holds (.positions t.crossed)
  rw [ran _ (Numbering.of_positions _)]
  refine ⟨selected.holds _, ⟨parts.holds _, ?_, total.groupBy, total.orderBy⟩, ?_, ?_, rfl, ?_, rfl,
    rfl⟩
  · intro q held
    obtain ⟨part, found, rfl⟩ := Option.map_eq_some_iff.mp held
    exact (total.keyset part found).1
  · exact congrArg (fun b => b.root.name) sound'.base
  · exact congrArg Base.identifier sound'.base
  · dsimp only [assemble]
    split
    · exact .inl rfl
    · exact .inr rfl

theorem inScope_ungrouped (settings : CompilerSettings) {c : Criteria} (ungrouped : c.groupBy = [])
    (s : Scope) : (inScope settings c s).1.groupBy = [] := by
  rw [inScope_eq]
  show (Selecting.groupBy c.groupBy _).1 = []
  rw [ungrouped]
  rfl

theorem inScope_sound (settings : CompilerSettings) (c : Criteria) {s : Scope}
    (sound : s.Sound b) : (inScope settings c s).2.Sound b := by
  obtain ⟨_, _, _, -, -, -, compiles⟩ := inScope_parts (b := b) settings c
  obtain ⟨t, sound', ran⟩ := compiles s sound
  rw [ran _ (Numbering.of_positions _)]
  exact sound'

structure Counts (b : Base) (c : Criteria) (p : Plan) : Prop where
  total : p.Total
  root : p.root = b.root.name
  identifier : p.identifier = b.identifier
  projection : p.projection = .count c.distinct

def counting (c : Criteria) (filters : List Predicate) (scope : Scope) : Plan where
  root := scope.root.name
  identifier := scope.identifier
  joins := scope.joins
  projection := .count c.distinct
  filters
  distinct := c.distinct

theorem countInScope_runs {settings : CompilerSettings} {c : Criteria} {new : List String}
    {g : Numbering → List Predicate} (filtering : Runs b new g fun _ => Filter.all settings c.filters)
    {s : Scope} (sound : s.Sound b) :
    ∃ t, t.Sound b ∧ t.crossed = cross s.crossed new ∧
      ∀ ν : Numbering, ν.Of t.crossed → countInScope settings c s = (counting c (g ν) t, t) := by
  obtain ⟨t, ran, sound', crossed⟩ := filtering.run sound
  refine ⟨t, sound', crossed, fun ν numbered => ?_⟩
  unfold countInScope
  rw [state_bind (ran ν numbered)]
  rfl

theorem countInScope_counts (settings : CompilerSettings) (c : Criteria) {s : Scope}
    (sound : s.Sound b) : (countInScope settings c s).1.Counts b c := by
  obtain ⟨new, g, parts, filtering⟩ := Filter.all_uniform (b := b) settings c.filters
  obtain ⟨t, sound', -, ran⟩ := countInScope_runs filtering sound
  rw [ran _ (Numbering.of_positions _)]
  exact ⟨⟨parts.holds _, nofun, nofun, nofun⟩, congrArg (fun b => b.root.name) sound'.base,
    congrArg Base.identifier sound'.base, rfl⟩

theorem withScope_ok {α : Type} {entity : String} {X : StateM Scope α} {catalog after : Catalog}
    {a : α} (h : withScope entity X catalog = (.ok a, after)) :
    ∃ s loaded, Scope.start entity catalog = (.ok s, loaded) ∧ (X s).1 = a := by
  simp only [withScope] at h
  cases started : Scope.start entity catalog with
  | mk outcome loaded =>
    cases outcome with
    | error e =>
      rw [run_bind_error started] at h
      cases h
    | ok s =>
      rw [run_bind_ok started] at h
      exact ⟨s, loaded, rfl, Except.ok.inj (Prod.mk.inj h).1⟩

theorem withScope_start {α : Type} {entity : String} {X : StateM Scope α}
    {catalog loaded : Catalog} {s : Scope}
    (started : Scope.start entity catalog = (.ok s, loaded)) :
    withScope entity X catalog = (.ok (X s).1, (X s).2.catalog) := by
  simp only [withScope]
  exact run_bind_ok started

theorem ofCriteria_serves {settings : CompilerSettings} {c : Criteria} {catalog after : Catalog}
    {p : Plan} (h : ofCriteria settings c catalog = (.ok p, after)) : ∃ s loaded,
    Scope.start c.entity catalog = (.ok s, loaded) ∧ p.Serves s.base c := by
  obtain ⟨s, loaded, started, rfl⟩ := withScope_ok h
  exact ⟨s, loaded, started, inScope_serves settings c (Scope.start_sound started)⟩

end Plan

end EntitySearch
