import EntitySearch.Proofs.Distinct

/-! Entries that are dropped.

An entry of the filters or orders that fails to compile is left out of the plan,
but not the relations it crossed before it failed: their joins stay, and records
that they lead nowhere from are lost. A failing entry leaves no trace in any
result exactly when it has crossed no relation.
-/

set_option autoImplicit false

namespace EntitySearch

variable {α : Type} {b : Base}

def attempts {κ : Type} (compile : κ → Resolve α) : List κ → StateM Scope (List α)
  | [] => return []
  | entry :: rest => do
    let first ← (compile entry).outcome
    let others ← attempts compile rest
    return first.toOption.toList ++ others

theorem Filter.all_eq (settings : CompilerSettings) (filters : Keyed Condition) :
    Filter.all settings filters =
      attempts (fun entry => ofCondition settings entry.1 none entry.2) filters := by
  induction filters with
  | nil => rfl
  | cons entry rest ih => simp only [Filter.all, attempts, ih]

theorem Order.terms_eq (orders : Keyed Direction) :
    Order.terms orders = attempts (fun entry => term entry.1 entry.2) orders := by
  induction orders with
  | nil => rfl
  | cons entry rest ih => simp only [Order.terms, attempts, ih]

/-- A computation that fails in every sound scope and crosses nothing new. -/
def Silent (b : Base) (X : Resolve α) : Prop :=
  ∀ s : Scope, s.Sound b → ∃ e t, X s = (.error e, t) ∧ t.Sound b ∧ t.crossed = s.crossed

theorem Same.attempts_drop {κ : Type} {Q : (Numbering → α) → Prop} (compile : κ → Resolve α)
    (each : ∀ k, Uniform b (Even Q) fun _ => compile k) (entry : κ)
    (silent : Silent b (compile entry)) (before after : List κ) :
    Same b (attempts compile (before ++ entry :: after)) (attempts compile (before ++ after)) := by
  have alone : ∀ k, Same b (compile k).outcome (compile k).outcome :=
    fun k => of_uniform (each k).outcome
  have settled : ∀ entries, Same b (attempts compile entries) (attempts compile entries) := by
    intro entries
    induction entries with
    | nil => exact fun _ _ alike => ⟨rfl, alike⟩
    | cons k rest ih => exact (alone k).bind fun _ => ih.bind fun _ => fun _ _ alike => ⟨rfl, alike⟩
  induction before with
  | nil =>
    intro s t alike
    -- The scope that the entry leaves is like the one it came to.
    obtain ⟨e, u, failed, sound, crossed⟩ := silent s alike.left
    have skipped : attempts compile (entry :: after) s = attempts compile after u := by
      exact (state_bind (x := (compile entry).outcome) failed).trans rfl
    rw [List.nil_append, List.nil_append, skipped]
    exact settled after u t ⟨sound, alike.right, crossed.trans alike.crossed⟩
  | cons k rest ih => exact (alone k).bind fun _ => ih.bind fun _ => fun _ _ alike => ⟨rfl, alike⟩

/-- Before it has crossed anything, a failing computation shows whether it ever will. -/
theorem Silent.of_fresh {Q : (Numbering → α) → Prop} {X : Resolve α}
    (h : Uniform b (Even Q) fun _ => X) {s t : Scope} {e : QueryError} (sound : s.Sound b)
    (fresh : s.joins = []) (failed : X s = (.error e, t)) (none : t.joins = []) : Silent b X := by
  obtain ⟨new, crossed, always⟩ := h.fails sound failed
  have nothing : new = [] := by
    simp only [Scope.crossed, fresh, none, List.map_nil] at crossed
    apply List.eq_nil_iff_forall_not_mem.mpr
    intro d held
    have met : d ∈ cross [] new := (mem_cross [] new d).mpr (.inr held)
    simp [← crossed] at met
  subst nothing
  intro u sound'
  obtain ⟨v, failed', rest⟩ := always u sound'
  exact ⟨e, v, failed', rest⟩

namespace Plan

theorem finalOrder_same (grouped : Bool) (requested : List OrderTerm) :
    Same b (finalOrder grouped requested) (finalOrder grouped requested) := by
  have stable : Uniform b (Even fun _ => True) fun _ => Order.stable requested := by
    unfold Order.stable
    refine Uniform.get (fun ν s t same => by simp only [same]) fun s _ => ?_
    dsimp only
    split
    · exact Uniform.ok trivial
    · exact (Uniform.resolve _).andThen fun _ _ => Uniform.ok trivial
  have final : Uniform b (fun _ => True) fun _ => finalOrder grouped requested := by
    unfold finalOrder
    split
    · exact Uniform.pure trivial
    · exact stable.outcome.bind fun _ _ => Uniform.pure trivial
  exact Same.of_uniform final

theorem inScope_same (settings : CompilerSettings) {c d : Criteria}
    (rest : d = { c with filters := d.filters, orders := d.orders })
    (filters : Same b (Filter.all settings d.filters) (Filter.all settings c.filters))
    (orders : Same b (Order.terms d.orders) (Order.terms c.orders)) :
    Same b (inScope settings d) (inScope settings c) := by
  have projecting : Selecting.projection d = Selecting.projection c := by rw [rest]; rfl
  have seeking : Keyset.ofCriteria settings d = Keyset.ofCriteria settings c := by rw [rest]; rfl
  have grouping : d.groupBy = c.groupBy := by rw [rest]
  rw [inScope_eq, inScope_eq, projecting, seeking, grouping]
  apply (Same.of_uniform (Selecting.projection_uniform c)).bind
  intro projection
  apply filters.bind
  intro filters
  apply (Same.of_uniform (Keyset.ofCriteria_uniform settings c)).bind
  intro keyset
  have requested : Same b (requestedOrder d keyset) (requestedOrder c keyset) := by
    cases keyset with
    | none => exact orders
    | some found => exact fun _ _ alike => ⟨rfl, alike⟩
  apply requested.bind
  intro requested
  have grouped : asksForGroups d projection = asksForGroups c projection := by
    rw [asksForGroups, grouping, asksForGroups]
  rw [grouped]
  apply (finalOrder_same _ requested).bind
  intro orderBy
  apply (Same.of_uniform (Selecting.groupBy_uniform c.groupBy)).bind
  intro groupBy s t alike
  have base : s.base = t.base := alike.left.base.trans alike.right.base.symm
  have root : s.root = t.root := congrArg Base.root base
  have identifier : s.identifier = t.identifier := congrArg Base.identifier base
  have joins : s.joins = t.joins := alike.left.joins_eq alike.right alike.crossed
  refine ⟨?_, alike⟩
  show assemble d _ _ _ _ _ s = assemble c _ _ _ _ _ t
  rw [rest]
  simp only [assemble, root, identifier, joins]

end Plan

namespace Criteria

inductive Entry
  | filter (field : String) (condition : Condition)
  | order (key : String) (direction : Direction)

def Entry.compile (settings : CompilerSettings) : Entry → Resolve Unit
  | .filter field condition => do
    let _ ← Filter.ofCondition settings field none condition
    return ()
  | .order key direction => do
    let _ ← Order.term key direction
    return ()

inductive Adds : Entry → Criteria → Criteria → Prop
  | filter {c : Criteria} (before after : Keyed Condition) (field : String)
    (condition : Condition) : c.filters = before ++ after →
    Adds (.filter field condition) c { c with filters := before ++ (field, condition) :: after }
  | order {c : Criteria} (before after : Keyed Direction) (key : String)
    (direction : Direction) : c.orders = before ++ after →
    Adds (.order key direction) c { c with orders := before ++ (key, direction) :: after }

variable {settings : CompilerSettings}

theorem Entry.compile_uniform (entry : Entry) :
    Uniform b (Even fun _ => True) fun _ => entry.compile settings := by
  cases entry with
  | filter field condition =>
    exact (Filter.ofCondition_uniform settings field none condition).andThen fun _ _ =>
      Uniform.ok trivial
  | order key direction =>
    exact (Order.term_uniform key direction).andThen fun _ _ => Uniform.ok trivial

theorem failed_of_discard {X : Resolve α} {s t : Scope} {e : QueryError}
    (h : (do
      let _ ← X
      return () : Resolve Unit) s = (.error e, t)) : X s = (.error e, t) := by
  cases ran : X s with
  | mk outcome u =>
    cases outcome with
    | error e' =>
      rw [run_bind_error ran] at h
      obtain ⟨failure, rfl⟩ := Prod.mk.inj h
      exact Except.error.inj failure ▸ rfl
    | ok a =>
      rw [run_bind_ok ran] at h
      cases h

theorem silent_of_discard {X : Resolve α}
    (h : Silent b (do
      let _ ← X
      return ())) : Silent b X := by
  intro s sound
  obtain ⟨e, t, failed, rest⟩ := h s sound
  exact ⟨e, t, failed_of_discard failed, rest⟩

theorem Adds.same {entry : Entry} {c d : Criteria} (adds : Adds entry c d)
    (silent : Silent b (entry.compile settings)) :
    Same b (Plan.inScope settings d) (Plan.inScope settings c) := by
  have filtering : ∀ filters, Same b (Filter.all settings filters) (Filter.all settings filters) :=
    fun filters => Same.of_uniform (Filter.all_uniform settings filters)
  have ordering : ∀ orders, Same b (Order.terms orders) (Order.terms orders) :=
    fun orders => Same.of_uniform (Order.terms_uniform orders)
  cases adds with
  | filter before after field condition whole =>
    refine Plan.inScope_same settings rfl ?_ (ordering _)
    rw [whole, Filter.all_eq, Filter.all_eq]
    have dropped : Silent b (Filter.ofCondition settings field none condition) :=
      silent_of_discard silent
    exact Same.attempts_drop (fun entry => Filter.ofCondition settings entry.1 none entry.2)
      (fun k => Filter.ofCondition_uniform settings k.1 none k.2) (field, condition) dropped _ _
  | order before after key direction whole =>
    refine Plan.inScope_same settings rfl (filtering _) ?_
    rw [whole, Order.terms_eq, Order.terms_eq]
    have dropped : Silent b (Order.term key direction) := silent_of_discard silent
    exact Same.attempts_drop (fun entry : String × Direction => Order.term entry.1 entry.2)
      (fun k => Order.term_uniform k.1 k.2) (key, direction) dropped _ _

end Criteria

theorem Join.targets_flat (j : Join) (key : String) (i : Int) :
    j.targets ⟨[(key, .int i)], []⟩ = [] := by
  have nothing : ∀ path, (Record.read [(key, .int i)] path).related = [] := by
    intro path
    unfold Record.read
    split
    · rfl
    · next last => by_cases same : key = last <;> simp [Keyed.find?, same, Value.related]
    · next hop rest _ => by_cases same : key = hop <;> simp [Keyed.find?, same, Value.related]
  unfold Join.targets Row.source?
  cases j.parent with
  | root => exact nothing j.path
  | join index => simp

theorem Row.expand_nil (joins : List Join) : Row.expand joins [] = [] := by
  induction joins with
  | nil => rfl
  | cons j rest ih => exact ih

namespace Plan

def bare (root identifier : String) (joins : List Join) : Plan where
  root
  identifier
  joins
  projection := .entity
  filters := []
  distinct := true

theorem bare_total (root identifier : String) (joins : List Join) :
    (bare root identifier joins).Total :=
  ⟨nofun, nofun, nofun, nofun⟩

/-- Of a record that leads nowhere, a bare plan keeps it only without joins. -/
theorem matched_bare (root identifier : String) (joins : List Join) :
    (bare root identifier joins).matched [[(identifier, .int 1)]] =
      if joins.isEmpty then [⟨[(identifier, .int 1)], []⟩] else [] := by
  cases joins with
  | nil => rfl
  | cons j rest =>
    have lost : (bare root identifier (j :: rest)).joinedRows [[(identifier, .int 1)]] = [] := by
      show Row.expand rest (([⟨[(identifier, .int 1)], []⟩] : List Row).flatMap _) = []
      simp only [List.flatMap_cons, Join.targets_flat, List.map_nil, List.flatMap_nil,
        List.append_nil]
      exact Row.expand_nil rest
    rw [matched, lost]
    rfl

theorem execute_bare (root identifier : String) (joins : List Join) :
    (bare root identifier joins).execute [(root, [[(identifier, .int 1)]])] =
      .ok (.entities (if joins.isEmpty then [[(identifier, .int 1)]] else [])) := by
  have stored : Tables.records [(root, [[(identifier, .int 1)]])] root =
      [[(identifier, .int 1)]] := by
    simp [Tables.records, Keyed.find?]
  have sorts : (bare root identifier joins).Sorts [[(identifier, .int 1)]] := by
    refine (sorts_entity_iff rfl rfl _).mpr (.inl ?_)
    rw [matched_bare]
    split <;> simp [insertionLimit]
  have same : (bare root identifier joins).root = root := rfl
  rw [execute_entity (bare_total root identifier joins) rfl rfl _ (stored.symm ▸ sorts), same,
    stored, ranked, matched_bare, page_uncut rfl rfl]
  split <;> rfl

theorem inScope_bare {settings : CompilerSettings} {c : Criteria} {s t u : Scope}
    (whole : c = { entity := c.entity, groupBy := ["."], filters := c.filters, orders := c.orders })
    (filters : Filter.all settings c.filters s = ([], t))
    (orders : Order.terms c.orders t = ([], u)) :
    (inScope settings c s).1 = bare u.root.name u.identifier u.joins := by
  have projecting : Selecting.projection c s = (.entity, s) := by rw [whole]; rfl
  have seeking : Keyset.ofCriteria settings c t = (none, t) := by rw [whole]; rfl
  have grouped : asksForGroups c .entity = true := by rw [whole]; rfl
  have grouping : Selecting.groupBy c.groupBy u = ([], u) := by rw [whole]; rfl
  rw [inScope_eq, state_bind projecting, state_bind filters, state_bind seeking,
    state_bind (x := requestedOrder c none) orders, grouped,
    state_bind (x := finalOrder true []) rfl, state_bind grouping]
  show assemble c _ _ _ _ _ u = _
  rw [whole]
  rfl

end Plan

namespace Criteria

variable {settings : CompilerSettings}

theorem Entry.failed_base (entry : Entry) {s t : Scope} {e : QueryError} (sound : s.Sound b)
    (fails : entry.compile settings s = (.error e, t)) : t.base = b := by
  obtain ⟨_, _, always⟩ := entry.compile_uniform.fails sound fails
  obtain ⟨v, ran, sound', -⟩ := always s sound
  obtain ⟨-, rfl⟩ := Prod.mk.inj (fails.symm.trans ran)
  exact sound'.base

/-- Alone among criteria that resolve nothing, a failing entry leaves the joins it has made. -/
theorem Entry.added_bare (entry : Entry) (entity : String) {s t : Scope} {e : QueryError}
    (fails : entry.compile settings s = (.error e, t)) :
    ∃ d, Adds entry { entity, groupBy := ["."] } d ∧ d.entity = entity ∧
      (Plan.inScope settings d s).1 = Plan.bare t.root.name t.identifier t.joins := by
  cases entry with
  | filter field condition =>
    refine ⟨_, .filter [] [] field condition rfl, rfl, ?_⟩
    apply Plan.inScope_bare rfl _ rfl
    exact state_bind (x := (Filter.ofCondition settings field none condition).outcome)
      (failed_of_discard fails)
  | order key direction =>
    refine ⟨_, .order [] [] key direction rfl, rfl, ?_⟩
    apply Plan.inScope_bare rfl rfl
    exact state_bind (x := (Order.term key direction).outcome) (failed_of_discard fails)

/-- A dropped entry leaves no trace in any result exactly when it has crossed no relation. -/
theorem dropped_entry_traceless {entity : String} {catalog loaded : Catalog} {s t : Scope}
    {e : QueryError} (started : Scope.start entity catalog = (.ok s, loaded)) (entry : Entry)
    (fails : entry.compile settings s = (.error e, t)) :
    (∀ c d : Criteria, c.entity = entity → Adds entry c d → ∀ tables,
      results settings catalog d tables = results settings catalog c tables) ↔ t.joins = [] := by
  obtain ⟨-, -, -, joins, -⟩ := Scope.start_ok started
  have sound := Scope.start_sound started
  constructor
  · intro traceless
    -- One record that leads nowhere tells the bare criteria and those with the entry apart.
    obtain ⟨d, adds, named, withEntry⟩ := entry.added_bare entity fails
    have without : (Plan.inScope settings { entity, groupBy := ["."] } s).1 =
        Plan.bare s.root.name s.identifier s.joins := Plan.inScope_bare rfl rfl rfl
    have same := traceless _ d rfl adds [(s.root.name, [[(s.identifier, .int 1)]])]
    have root : t.root = s.root := congrArg Base.root (entry.failed_base sound fails)
    have identifier : t.identifier = s.identifier :=
      congrArg Base.identifier (entry.failed_base sound fails)
    rw [results_eq _ (by rw [named]; exact started), results_eq _ started, without, withEntry, root,
      identifier, Plan.execute_bare, Plan.execute_bare, joins] at same
    simpa using same
  · intro none c d named adds tables
    have silent : Silent s.base (entry.compile settings) :=
      Silent.of_fresh entry.compile_uniform sound joins fails none
    obtain ⟨same, -⟩ := adds.same silent s s ⟨sound, sound, rfl⟩
    have named' : d.entity = entity := by cases adds <;> exact named
    rw [results_eq tables (by rw [named']; exact started),
      results_eq tables (by rw [named]; exact started), same]

end Criteria

namespace Sample

def called : Condition := .of .eq [.literal (.string "Al")]

def nickname (path : String) : Criteria.Entry := .filter path called

def nicknamed (path : String) : Criteria := { everyone with filters := [(path, called)] }

end Sample

namespace Criteria

theorem dropped_nickname_traceless :
    results {} Sample.catalog (Sample.nicknamed "nickname") Sample.tables =
      results {} Sample.catalog Sample.everyone Sample.tables :=
  have started : Scope.start "Person" Sample.catalog = (.ok Sample.scope, Sample.catalog) := rfl
  have fails : (Sample.nickname "nickname").compile {} Sample.scope =
      (.error (.unknownAttribute "Person" "nickname"), Sample.scope) := rfl
  (dropped_entry_traceless started (Sample.nickname "nickname") fails).mpr rfl Sample.everyone _ rfl
    (.filter [] [] _ _ rfl) Sample.tables

/-- The way to a nickname leads through the city, and who lives in none is lost. -/
theorem dropped_nickname_loses_people :
    (∃ t, (Sample.nickname "city.nickname").compile {} Sample.scope =
      (.error (.unknownAttribute "City" "nickname"), t)) ∧
    ∃ d, Adds (Sample.nickname "city.nickname") Sample.everyone d ∧
      results {} Sample.catalog d Sample.tables ≠
        results {} Sample.catalog Sample.everyone Sample.tables := by
  refine ⟨⟨_, rfl⟩, _, .filter [] [] _ _ rfl, ?_⟩
  intro same
  have sizes := congrArg (fun found => found.toOption.map ResultSet.size) same
  revert sizes
  decide +kernel

end Criteria

end EntitySearch
