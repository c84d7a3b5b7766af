import EntitySearch.Proofs.Distinct

/-! What a search can fail by.

Functions are called in what a search selects and nowhere else, with attributes
and texts as their arguments. So all that is evaluated on the way to the result
has a value, and running a compiled plan fails only by a function that does not
exist, by a sum that is too large, or by an order that does not rank its keys.
-/

set_option autoImplicit false

namespace EntitySearch

inductive Expr.Plain : Expr → Prop
  | field (f : FieldRef) : Plain (.field f)
  | literal (v : Value) : Plain (.literal v)

namespace Expr.Plain

variable {e : Expr}

theorem total (h : e.Plain) : e.Total := by
  cases h with
  | field f => exact .field f
  | literal v => exact .literal v

theorem totalInGroups (h : e.Plain) : e.TotalInGroups := by
  cases h with
  | field f => exact .field f
  | literal v => exact .literal v

end Expr.Plain

namespace Aggregate

theorem decimalSum_fails {total : Decimal} {values : List Value} {e : QueryError}
    (h : decimalSum total values = .error e) : e = .execution .sumTooLarge := by
  induction values generalizing total with
  | nil => cases h
  | cons v rest ih =>
    simp only [decimalSum] at h
    split at h
    · cases h
    · split at h
      · exact (Except.error.inj h).symm
      · exact ih h

theorem total_fails {values : List Value} {e : QueryError} (h : total values = .error e) :
    e = .execution .sumTooLarge := by
  simp only [total] at h
  split at h
  · cases h
  · split at h
    · cases h
    · split at h
      · cases summed : decimalSum .zero values with
        | error fault =>
          rw [summed] at h
          exact Except.error.inj h ▸ decimalSum_fails summed
        | ok sum =>
          rw [summed] at h
          cases h
      · cases h

theorem apply_fails {a : Aggregate} {values : List Value} {e : QueryError}
    (h : a.apply values = .error e) : e = .execution .sumTooLarge ∧ (a = .sum ∨ a = .avg) := by
  cases a with
  | count | min | max => cases h
  | sum => exact ⟨total_fails h, .inl rfl⟩
  | avg =>
    simp only [apply] at h
    cases summed : total (values.filter fun v => !v.isNull) with
    | error fault =>
      rw [summed] at h
      exact ⟨Except.error.inj h ▸ total_fails summed, .inr rfl⟩
    | ok sum =>
      rw [summed] at h
      cases h

end Aggregate

/-- What a call can fail by: there is no such function, or it adds up to too large a sum. -/
inductive CallFault (name : String) : QueryError → Prop
  | unsupported : Aggregate.ofName? name = none → ScalarFunction.ofName? name = none →
    CallFault name (.unsupportedFunction name)
  | sumTooLarge : Aggregate.ofName? name = some .sum ∨ Aggregate.ofName? name = some .avg →
    CallFault name (.execution .sumTooLarge)

/-- Whatever its arguments, a call in a group is no call outside of one. -/
theorem CallFault.of_evalGroup {name : String} {args : List Expr} {group : List Row}
    {e : QueryError} (plain : ∀ arg ∈ args, arg.Plain)
    (h : (Expr.call name args).evalGroup group = .error e) :
    CallFault name e := by
  rw [Expr.evalGroup] at h
  cases named : Aggregate.ofName? name with
  | some a =>
    have read : ∀ row ∈ group, ∃ v, Expr.aggregated args row = .ok v := by
      intro row _
      cases args with
      | nil => exact ⟨_, rfl⟩
      | cons first _ => exact (plain first List.mem_cons_self).total row
    obtain ⟨values, found⟩ := exists_mapM read
    simp only [named, found, bind, Except.bind] at h
    obtain ⟨rfl, rfl | rfl⟩ := Aggregate.apply_fails h
    · exact .sumTooLarge (.inl named)
    · exact .sumTooLarge (.inr named)
  | none =>
    obtain ⟨values, found⟩ :=
      Expr.evalGroupAll_ok (fun arg held => (plain arg held).totalInGroups) group
    simp only [named, found, bind, Except.bind, ScalarFunction.call] at h
    cases known : ScalarFunction.ofName? name with
    | some f =>
      rw [known] at h
      cases h
    | none =>
      rw [known] at h
      obtain rfl := Except.error.inj h
      exact .unsupported named known

namespace Selecting

/-- What a search selects: an attribute, or a call of one of its functions under its name. -/
inductive Chosen (names : List String) : Selection → Prop
  | field (f : FieldRef) (key : Option String) : Chosen names ⟨.field f, key⟩
  | call {name : String} {args : List Expr} : name ∈ names → (∀ arg ∈ args, arg.Plain) →
    Chosen names ⟨.call name args, some name⟩

variable {names : List String}

theorem Chosen.mono {more : List String} {s : Selection} (h : Chosen names s)
    (sub : names ⊆ more) : Chosen more s := by
  cases h with
  | field f key => exact .field f key
  | call held plain => exact .call (sub held) plain

theorem Chosen.fault {s : Selection} {group : List Row} {e : QueryError} (h : Chosen names s)
    (fails : s.expr.evalGroup group = .error e) :
    ∃ name args, s = ⟨.call name args, some name⟩ ∧ name ∈ names ∧ CallFault name e := by
  cases h with
  | field f key =>
    obtain ⟨v, value⟩ := Expr.TotalInGroups.field f group
    cases fails.symm.trans value
  | call held plain => exact ⟨_, _, rfl, held, .of_evalGroup plain fails⟩

theorem argument_plain (reference : String) : Yields Expr.Plain (argument reference) := by
  refine .bind (.any (Resolve.resolve reference).outcome) fun o _ => ?_
  cases o with
  | ok r => exact .pure (.field r.field)
  | error e => exact .pure (.literal _)

theorem arguments_plain (references : List String) :
    Yields (fun es => ∀ e ∈ es, e.Plain) (arguments references) := by
  induction references with
  | nil => exact .pure (List.forall_mem_nil _)
  | cons reference rest ih =>
    exact (argument_plain reference).bind fun e first => ih.bind fun es others =>
      .pure (List.forall_mem_cons.mpr ⟨first, others⟩)

theorem ownAttribute_field (name : String) (spec : FunctionSpec) :
    Yields (fun own => ∀ e ∈ own, ∃ f, e = .field f) (ownAttribute name spec) := by
  unfold ownAttribute
  split
  · refine .bind (.any (Resolve.resolve name).outcome) fun o _ => .pure ?_
    cases o with
    | error e => exact nofun
    | ok r =>
      rintro _ ⟨⟩
      exact ⟨r.field, rfl⟩
  · exact .pure nofun

theorem function_chosen (name : String) (spec : FunctionSpec) :
    Yields (Chosen [name]) (function name spec) := by
  refine (ownAttribute_field name spec).bind fun own found => ?_
  cases own with
  | none =>
    exact (arguments_plain spec.references).bind fun args plain =>
      .pure (.call List.mem_cons_self plain)
  | some e =>
    obtain ⟨f, rfl⟩ := found e rfl
    exact .pure (.field f (some name))

theorem functions_chosen (specs : Keyed FunctionSpec) :
    Yields (fun ss => ∀ s ∈ ss, Chosen (Keyed.keys specs) s) (functions specs) := by
  induction specs with
  | nil => exact .pure (List.forall_mem_nil _)
  | cons entry rest ih =>
    obtain ⟨name, spec⟩ := entry
    refine (function_chosen name spec).bind fun s first => ih.bind fun ss others => .pure ?_
    refine List.forall_mem_cons.mpr ⟨first.mono (by simp [Keyed.keys]), fun t held => ?_⟩
    exact (others t held).mono (List.subset_cons_self _ _)

theorem columns_chosen (names paths : List String) :
    Yields (fun ss => ∀ s ∈ ss, Chosen names s) (columns paths) := by
  induction paths with
  | nil => exact .pure (List.forall_mem_nil _)
  | cons path rest ih =>
    refine .bind (.any (Resolve.resolve path).outcome) fun o _ => ih.bind fun ss others =>
      .pure (List.forall_mem_append.mpr ⟨?_, others⟩)
    cases o with
    | error e => exact List.forall_mem_nil _
    | ok r => exact List.forall_mem_singleton.mpr (.field r.field (some path))

theorem projection_chosen (c : Criteria) :
    Yields (fun p => ∀ s ∈ p.selections, Chosen (Keyed.keys c.functions) s) (projection c) := by
  unfold projection
  split
  · exact (functions_chosen c.functions).bind fun ss chosen => .pure chosen
  · refine (columns_chosen (Keyed.keys c.functions) c.columns).bind fun ss chosen => .pure ?_
    cases ss with
    | nil => exact List.forall_mem_nil _
    | cons first rest => exact chosen

end Selecting

namespace Plan

theorem inScope_chosen (settings : CompilerSettings) (c : Criteria) (s : Scope) :
    ∀ x ∈ (inScope settings c s).1.projection.selections,
      Selecting.Chosen (Keyed.keys c.functions) x := by
  rw [inScope_eq]
  exact Selecting.projection_chosen c s

/-- Compiled plans are total, and select what their criteria choose. -/
theorem compiled_total {settings : CompilerSettings} {c : Criteria} {catalog after : Catalog}
    {p : Plan} (compiled : ofCriteria settings c catalog = (.ok p, after) ∨
      countOfCriteria settings c catalog = (.ok p, after)) :
    p.Total ∧ ∀ s ∈ p.projection.selections, Selecting.Chosen (Keyed.keys c.functions) s := by
  rcases compiled with searched | counted
  · obtain ⟨s, loaded, started, rfl⟩ := withScope_ok searched
    exact ⟨(inScope_serves settings c (Scope.start_sound started)).total,
      inScope_chosen settings c s⟩
  · obtain ⟨s, loaded, started, rfl⟩ := withScope_ok counted
    exact ⟨(countInScope_counts settings c (Scope.start_sound started)).total, nofun⟩

theorem compiled_fault {settings : CompilerSettings} {c : Criteria} {catalog after : Catalog}
    {p : Plan} (compiled : ofCriteria settings c catalog = (.ok p, after) ∨
      countOfCriteria settings c catalog = (.ok p, after)) {tables : Tables}
    (sorts : p.Sorts (tables.records p.root)) {e : QueryError}
    (failed : p.execute tables = .error e) :
    ∃ s ∈ p.projection.selections, ∃ name args, s = ⟨.call name args, some name⟩ ∧
      name ∈ Keyed.keys c.functions ∧ CallFault name e := by
  obtain ⟨total, chosen⟩ := compiled_total compiled
  obtain ⟨s, held, group, fails⟩ := execute_fails total sorts failed
  exact ⟨s, held, (chosen s held).fault fails⟩

/-- Running a compiled plan fails by an order that does not rank what it sorts, and otherwise only
by the functions of its criteria. -/
theorem execute_faults {settings : CompilerSettings} {c : Criteria} {catalog after : Catalog}
    {p : Plan} (compiled : ofCriteria settings c catalog = (.ok p, after) ∨
      countOfCriteria settings c catalog = (.ok p, after)) :
    (∀ q ∈ p.restriction, ∀ row, ∃ t, q.eval row = .ok t) ∧
    (∀ e ∈ p.groupBy, ∀ row, ∃ v, e.eval row = .ok v) ∧
    (∀ t ∈ p.orderBy, ∀ group, ∃ v, t.expr.evalGroup group = .ok v) ∧
    ∀ tables : Tables,
      (∀ e, p.execute tables = .error e → e = .execution .unspecifiedOrder ∨
        ∃ s ∈ p.projection.selections, ∃ name args, s = ⟨.call name args, some name⟩ ∧
          name ∈ Keyed.keys c.functions ∧ CallFault name e) ∧
      (p.execute tables = .error (.execution .unspecifiedOrder) ↔
        ¬p.Sorts (tables.records p.root)) ∧
      (∀ name, p.execute tables ≠ .error (.execution (.aggregateOutsideGroup name))) ∧
      (c.functions = [] → ((∃ found, p.execute tables = .ok found) ↔
        p.Sorts (tables.records p.root))) := by
  have total := (compiled_total compiled).1
  have either : ∀ tables e, p.execute tables = .error e → e = .execution .unspecifiedOrder ∨
      ∃ s ∈ p.projection.selections, ∃ name args, s = ⟨.call name args, some name⟩ ∧
        name ∈ Keyed.keys c.functions ∧ CallFault name e := by
    intro tables e failed
    by_cases sorts : p.Sorts (tables.records p.root)
    · exact .inr (compiled_fault compiled sorts failed)
    · exact .inl (Except.error.inj (failed.symm.trans (execute_unsorted total sorts)))
  refine ⟨total.restriction, total.groupBy, total.orderBy,
    fun tables => ⟨either tables, ⟨?_, execute_unsorted total⟩, ?_, ?_⟩⟩
  · intro failed sorts
    obtain ⟨s, -, name, args, -, -, fault⟩ := compiled_fault compiled sorts failed
    cases fault
  · intro name failed
    rcases either tables _ failed with unspecified | ⟨s, -, called, args, -, -, fault⟩
    · cases unspecified
    · cases fault
  · intro uncalled
    refine ⟨fun ⟨found, ran⟩ => sorts_of_execute total ran, fun sorts => ?_⟩
    cases ran : p.execute tables with
    | ok found => exact ⟨found, rfl⟩
    | error e =>
      obtain ⟨s, -, name, args, -, named, -⟩ := compiled_fault compiled sorts ran
      rw [uncalled] at named
      cases named

end Plan

namespace Sample

def largest : Criteria :=
  { everyone with functions := [("max", .single "name"), ("total", .single "name")] }

def largestPlan : Plan where
  root := "Person"
  identifier := "id"
  joins := []
  projection := .columns
    [⟨.call "max" [.field ⟨.root, ["name"], "name"⟩], some "max"⟩,
      ⟨.call "total" [.field ⟨.root, ["name"], "name"⟩], some "total"⟩]
  filters := []
  distinct := true

end Sample

namespace Plan

/-- There is no function of that name, and the search fails by it. -/
theorem execute_faults_largest :
    Sample.largestPlan.execute Sample.tables = .error (.unsupportedFunction "total") ∧
      Sample.largestPlan.Sorts (Sample.tables.records "Person") ∧
      ∃ s ∈ Sample.largestPlan.projection.selections, ∃ name args,
        s = ⟨.call name args, some name⟩ ∧ name ∈ Keyed.keys Sample.largest.functions ∧
          CallFault name (.unsupportedFunction "total") := by
  have compiled : ofCriteria {} Sample.largest Sample.catalog =
      (.ok Sample.largestPlan, Sample.catalog) := rfl
  have failed : Sample.largestPlan.execute Sample.tables = .error (.unsupportedFunction "total") :=
    rfl
  obtain ⟨-, -, -, runs⟩ := execute_faults (.inl compiled)
  obtain ⟨faults, unspecified, -⟩ := runs Sample.tables
  refine ⟨failed, ?_, (faults _ failed).resolve_left nofun⟩
  by_contra unsorted
  cases failed.symm.trans (unspecified.mpr unsorted)

/-- The levels of one sensor have no order, and a search without functions fails by it. -/
theorem execute_faults_unranked :
    ofCriteria {} Sample.byLevel Sample.sensors = (.ok Sample.byLevelPlan, Sample.sensors) ∧
      Sample.byLevel.functions = [] ∧
      Sample.byLevelPlan.execute Sample.sensorTables = .error (.execution .unspecifiedOrder) := by
  have compiled : ofCriteria {} Sample.byLevel Sample.sensors =
      (.ok Sample.byLevelPlan, Sample.sensors) := rfl
  exact ⟨compiled, rfl, execute_unsorted (compiled_total (.inl compiled)).1 Sample.byLevel_unsorted⟩

end Plan

end EntitySearch
