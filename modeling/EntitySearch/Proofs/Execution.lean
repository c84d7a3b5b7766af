import EntitySearch.Proofs.Binding
import EntitySearch.Proofs.Compilation
import EntitySearch.Proofs.Ranking

/-! Runs of total plans.

A total plan that selects entities without grouping fails only by an order that
does not rank its rows. Its result are the roots of the rows that match, ranked
by their keys, each entity once and cut to a page.
-/

set_option autoImplicit false

namespace EntitySearch

theorem filterM_ok {α ε : Type} {f : α → Except ε Bool} {g : α → Bool} (xs : List α)
    (h : ∀ x, f x = .ok (g x)) : xs.filterM f = .ok (xs.filter g) := by
  have grows : ∀ done : List α,
      List.filterAuxM f xs done = .ok ((xs.filter g).reverse ++ done) := by
    induction xs with
    | nil => exact fun _ => rfl
    | cons x rest ih =>
      intro done
      simp only [List.filterAuxM, h x, bind, Except.bind, ih]
      cases kept : g x <;> simp [kept]
  simp [List.filterM, grows, bind, Except.bind, pure, Except.pure]

theorem Predicate.and_eval {row : Row} (parts : List Predicate) :
    (Predicate.and parts).eval row = .ok (some true) ↔
      ∀ q ∈ parts, q.eval row = .ok (some true) := by
  rw [Predicate.eval]
  induction parts with
  | nil => simp [Predicate.evalAnd]
  | cons q rest ih =>
    rw [List.forall_mem_cons, ← ih, Predicate.evalAnd]
    cases first : q.eval row with
    | error e => simp [bind, Except.bind]
    | ok t =>
      cases others : Predicate.evalAnd row rest with
      | error e => rcases t with _ | _ | _ <;> simp [bind, Except.bind, pure, Except.pure]
      | ok u =>
        rcases t with _ | _ | _ <;> rcases u with _ | _ | _ <;>
          simp [bind, Except.bind, pure, Except.pure, Truth.and]

namespace Plan

def Accepts (p : Plan) (row : Row) : Prop :=
  ∀ q ∈ p.restriction, q.eval row = .ok (some true)

def accepts (p : Plan) (row : Row) : Bool :=
  match p.keeps row with
  | .ok kept => kept
  | .error _ => false

theorem accepts_iff (p : Plan) (row : Row) : p.accepts row = true ↔ p.Accepts row := by
  unfold accepts Accepts keeps
  cases p.restriction with
  | none => simp
  | some q => cases h : q.eval row <;> simp [h, Except.map]

theorem accepts_each {p : Plan} {row : Row} :
    p.Accepts row ↔ ∀ q ∈ p.filters ++ p.seek.toList, q.eval row = .ok (some true) := by
  unfold Accepts restriction
  generalize p.filters ++ p.seek.toList = parts
  match parts with
  | [] => simp
  | [q] => simp [Predicate.all]
  | q :: r :: rest =>
    simp only [Option.mem_def, Option.some.injEq, forall_eq']
    exact Predicate.and_eval _

/-- Some binding of the joins makes the conditions of the plan true of a record. -/
def Matches (p : Plan) (r : Record) : Prop :=
  ∃ row, Row.Binds p.joins ⟨r, []⟩ row ∧ p.Accepts row

theorem matches_iff (p : Plan) (r : Record) :
    (p.joinedRows [r]).any p.accepts = true ↔ p.Matches r := by
  simp only [List.any_eq_true, joinedRows, Row.mem_expand, List.map_cons, List.map_nil,
    List.mem_singleton, exists_eq_left, accepts_iff]
  rfl

instance (p : Plan) (r : Record) : Decidable (p.Matches r) :=
  decidable_of_iff _ (p.matches_iff r)

def matched (p : Plan) (roots : List Record) : List Row :=
  (p.joinedRows roots).filter p.accepts

theorem mem_matched {p : Plan} {roots : List Record} {row : Row} :
    row ∈ p.matched roots ↔
      row.root ∈ roots ∧ Row.Binds p.joins ⟨row.root, []⟩ row ∧ p.Accepts row := by
  simp only [matched, List.mem_filter, accepts_iff, joinedRows, Row.mem_expand, List.mem_map]
  constructor
  · rintro ⟨⟨_, ⟨r, held, rfl⟩, bound⟩, accepted⟩
    obtain rfl : row.root = r := bound.root
    exact ⟨held, bound, accepted⟩
  · rintro ⟨held, bound, accepted⟩
    exact ⟨⟨_, ⟨row.root, held, rfl⟩, bound⟩, accepted⟩

theorem root_mem {p : Plan} {roots : List Record} {row : Row} (held : row ∈ p.joinedRows roots) :
    row.root ∈ roots := by
  obtain ⟨start, begun, bound⟩ := Row.mem_expand.mp held
  obtain ⟨r, there, rfl⟩ := List.mem_map.mp begun
  rw [bound.root]
  exact there

theorem matched_flatMap (p : Plan) (roots : List Record) :
    p.matched roots = roots.flatMap fun r => p.matched [r] := by
  unfold matched joinedRows
  rw [Row.expand_flatMap, List.flatMap_map, List.filter_flatMap]
  rfl

/-- The roots of the rows that are kept are the records that match. -/
theorem mem_roots {p : Plan} {roots : List Record} {r : Record} :
    r ∈ (p.matched roots).map Row.root ↔ r ∈ roots ∧ p.Matches r := by
  simp only [List.mem_map, mem_matched, Matches]
  constructor
  · rintro ⟨row, ⟨held, bound, accepted⟩, rfl⟩
    exact ⟨held, row, bound, accepted⟩
  · rintro ⟨held, row, bound, accepted⟩
    obtain rfl : row.root = r := bound.root
    exact ⟨row, ⟨held, bound, accepted⟩, rfl⟩

theorem matchedRows_ok {p : Plan} (total : p.Total) (roots : List Record) :
    p.matchedRows roots = .ok (p.matched roots) := by
  apply filterM_ok _
  intro row
  unfold accepts keeps
  cases restricted : p.restriction with
  | none => rfl
  | some q =>
    obtain ⟨t, value⟩ := total.restriction q restricted row
    simp [value, Except.map]

def groupKey (p : Plan) (unit : List Row) : List Value :=
  match p.sortKey unit with
  | .ok key => key
  | .error _ => []

def keyOf (p : Plan) (row : Row) : List Value :=
  match p.sortKey [row] with
  | .ok key => key
  | .error _ => []

theorem groupKey_ok {p : Plan} (total : p.Total) (unit : List Row) :
    p.sortKey unit = .ok (p.groupKey unit) := by
  obtain ⟨key, value⟩ : ∃ key, p.sortKey unit = .ok key := by
    apply Expr.evalGroupAll_ok
    intro e held
    obtain ⟨t, ordered, rfl⟩ := List.mem_map.mp held
    exact total.orderBy t ordered
  simp [groupKey, value]

theorem sortKey_ok {p : Plan} (total : p.Total) (row : Row) :
    p.sortKey [row] = .ok (p.keyOf row) := groupKey_ok total [row]

def leads (p : Plan) (a b : List Row) : Bool :=
  compareKeys p.orderBy (p.groupKey a) (p.groupKey b) == .lt

def precedes (p : Plan) (a b : Row) : Bool :=
  compareKeys p.orderBy (p.keyOf a) (p.keyOf b) == .lt

def ranked (p : Plan) (roots : List Record) : List Row :=
  stableSort p.precedes (p.matched roots)

/-- The plan has nothing to sort, or groups that can be sorted by their keys. -/
def Sorts (p : Plan) (roots : List Record) : Prop :=
  (∃ distinct, p.projection = .count distinct) ∨
    ∀ units, p.units (p.matched roots) = .ok units → Sortable p.leads units

theorem sortUnits_eq {p : Plan} (total : p.Total) (units : List (List Row)) :
    p.sortUnits units = sortBy p.leads units := by
  have keyed : units.mapM (fun unit => do return (← p.sortKey unit, unit)) =
      (.ok (units.map fun unit => (p.groupKey unit, unit)) :
        Except QueryError (List (List Value × List Row))) := by
    apply mapM_ok units
    intro unit _
    simp only [groupKey_ok total, bind, Except.bind, pure, Except.pure]
  simp only [sortUnits]
  rw [keyed, ok_bind]
  -- Groups are sorted by keys that were taken before.
  rw [sortBy_map fun unit => (p.groupKey unit, unit)]
  show (sortBy p.leads units).map _ >>= _ = _
  cases sortBy p.leads units with
  | error e => rfl
  | ok sorted =>
    show Except.ok (List.map _ (List.map _ sorted)) = Except.ok sorted
    rw [List.map_map]
    exact congrArg Except.ok (List.map_id sorted)

theorem sortUnits_singles {p : Plan} (total : p.Total) (rows : List Row) :
    p.sortUnits (rows.map ([·])) = (sortBy p.precedes rows).map (List.map ([·])) := by
  rw [sortUnits_eq total, sortBy_map]
  rfl

theorem exists_groups {keys : List Expr} (total : ∀ e ∈ keys, e.Total) (rows : List Row) :
    ∃ found, groups keys rows = .ok found := by
  have grouped : ∀ done : List Group, ∃ found, rows.foldlM (fun done row => do
      return addToGroups (← Expr.evalAll row keys) row done) done =
        (.ok found : Except QueryError (List Group)) := by
    induction rows with
    | nil => exact fun done => ⟨done, rfl⟩
    | cons row rest ih =>
      intro done
      obtain ⟨key, value⟩ := Expr.evalAll_ok total row
      obtain ⟨found, others⟩ := ih (addToGroups key row done)
      exact ⟨found, by rw [List.foldlM_cons, value]; exact others⟩
  exact grouped []

theorem exists_units {p : Plan} (total : p.Total) (rows : List Row) :
    ∃ units, p.units rows = .ok units := by
  unfold units
  split
  · exact ⟨_, rfl⟩
  · split
    · exact ⟨_, rfl⟩
    · obtain ⟨found, grouped⟩ := exists_groups total.groupBy rows
      exact ⟨found.map Group.rows, by rw [grouped]; rfl⟩

theorem selectValues_fails {unit : List Row} {ss : List Selection} {position : Nat}
    {e : QueryError} (h : selectValues unit position ss = .error e) :
    ∃ s ∈ ss, s.expr.evalGroup unit = .error e := by
  induction ss generalizing position with
  | nil => cases h
  | cons s rest ih =>
    rw [selectValues] at h
    cases first : s.expr.evalGroup unit with
    | error fault =>
      rw [first] at h
      obtain rfl := Except.error.inj h
      exact ⟨s, List.mem_cons_self, first⟩
    | ok v =>
      cases others : selectValues unit (position + 1) rest with
      | error fault =>
        rw [first, others] at h
        obtain rfl := Except.error.inj h
        obtain ⟨t, held, fails⟩ := ih others
        exact ⟨t, List.mem_cons_of_mem s held, fails⟩
      | ok vs =>
        rw [first, others] at h
        cases h

theorem project_fails {p : Plan} {unit : List Row} {e : QueryError}
    (h : p.project unit = .error e) :
    ∃ s ∈ p.projection.selections, s.expr.evalGroup unit = .error e := by
  unfold project at h
  cases selected : p.projection with
  | columns ss =>
    simp only [selected] at h
    cases values : selectValues unit 0 ss with
    | error fault =>
      rw [values] at h
      obtain rfl := Except.error.inj h
      exact selectValues_fails values
    | ok found =>
      rw [values] at h
      cases h
  | entity | count =>
    simp only [selected] at h
    cases h

theorem fetch_fails {p : Plan} (total : p.Total) {rows : List Row} {units : List (List Row)}
    (grouped : p.units rows = .ok units) (sortable : Sortable p.leads units) {e : QueryError}
    (h : p.fetch rows = .error e) :
    ∃ s ∈ p.projection.selections, ∃ unit, s.expr.evalGroup unit = .error e := by
  rw [fetch, grouped, ok_bind, sortUnits_eq total, sortBy_ok sortable, ok_bind] at h
  cases projected : (stableSort p.leads units).mapM p.project with
  | error fault =>
    rw [projected] at h
    obtain rfl := Except.error.inj h
    obtain ⟨unit, -, fails⟩ := mapM_fails projected
    obtain ⟨s, held, value⟩ := project_fails fails
    exact ⟨s, held, unit, value⟩
  | ok records =>
    rw [projected] at h
    cases h

theorem fetch_unsorted {p : Plan} (total : p.Total) {rows : List Row} {units : List (List Row)}
    (grouped : p.units rows = .ok units) (unsortable : ¬Sortable p.leads units) :
    p.fetch rows = .error (.execution .unspecifiedOrder) := by
  rw [fetch, grouped, ok_bind, sortUnits_eq total, sortBy_fails unsortable]
  rfl

/-- Running a total plan that can sort fails only by a value that is selected. -/
theorem execute_fails {p : Plan} (total : p.Total) {tables : Tables} {e : QueryError}
    (sorts : p.Sorts (tables.records p.root)) (h : p.execute tables = .error e) :
    ∃ s ∈ p.projection.selections, ∃ unit, s.expr.evalGroup unit = .error e := by
  simp only [execute, matchedRows_ok total] at h
  obtain ⟨units, grouped⟩ := exists_units total (p.matched (tables.records p.root))
  cases selected : p.projection with
  | count distinct =>
    rw [selected] at h
    cases h
  | entity | columns =>
    have sortable : Sortable p.leads units := by
      rcases sorts with ⟨distinct, counts⟩ | sortable
      · cases selected.symm.trans counts
      · exact sortable units grouped
    rw [selected] at h
    cases fetched : p.fetch (p.matched (tables.records p.root)) with
    | error fault =>
      simp only [fetched, bind, Except.bind] at h
      obtain rfl := Except.error.inj h
      rw [← selected]
      exact fetch_fails total grouped sortable fetched
    | ok records =>
      simp only [fetched, bind, Except.bind] at h
      cases h

theorem execute_unsorted {p : Plan} (total : p.Total) {tables : Tables}
    (unsorted : ¬p.Sorts (tables.records p.root)) :
    p.execute tables = .error (.execution .unspecifiedOrder) := by
  obtain ⟨fetches, stuck⟩ := not_or.mp unsorted
  obtain ⟨units, rest⟩ := not_forall.mp stuck
  obtain ⟨grouped, unsortable⟩ := Classical.not_imp.mp rest
  have fetched := fetch_unsorted total grouped unsortable
  simp only [execute, matchedRows_ok total]
  cases selected : p.projection with
  | count distinct => exact absurd ⟨distinct, selected⟩ fetches
  | entity | columns => simp only [fetched, bind, Except.bind]

theorem isGrouped_eq_false {p : Plan} : p.isGrouped = false ↔
    p.groupBy = [] ∧ p.projection.hasAggregate = false := by
  simp [isGrouped]

theorem units_ungrouped {p : Plan} (ungrouped : p.isGrouped = false) (rows : List Row) :
    p.units rows = .ok (rows.map ([·])) := by
  simp [units, ungrouped]

theorem sorts_iff {p : Plan} (ungrouped : p.isGrouped = false)
    (fetches : ∀ distinct, p.projection ≠ .count distinct) (roots : List Record) :
    p.Sorts roots ↔ Sortable p.precedes (p.matched roots) := by
  have apart : ¬∃ distinct, p.projection = .count distinct := fun ⟨d, counts⟩ => fetches d counts
  simp only [Sorts, apart, false_or, units_ungrouped ungrouped, Except.ok.injEq, forall_eq']
  exact Sortable.map_iff _ _

theorem fetch_ungrouped {p : Plan} (total : p.Total) (ungrouped : p.isGrouped = false)
    (rows : List Row) : p.fetch rows = do
      let sorted ← sortBy p.precedes rows
      let records ← (sorted.map ([·])).mapM p.project
      return p.page (p.dedupe records) := by
  rw [fetch, units_ungrouped ungrouped, ok_bind, sortUnits_singles total]
  cases sortBy p.precedes rows <;> rfl

theorem page_uncut {p : Plan} (offset : p.offset = none) (limit : p.limit = none)
    (records : List Record) : p.page records = records := by
  simp [page, offset, limit]

theorem isGrouped_entity {p : Plan} (entity : p.projection = .entity) (ungrouped : p.groupBy = []) :
    p.isGrouped = false := by
  simp [isGrouped, entity, ungrouped, Projection.hasAggregate, Projection.selections]

theorem sorts_entity_iff {p : Plan} (entity : p.projection = .entity) (ungrouped : p.groupBy = [])
    (roots : List Record) : p.Sorts roots ↔ Sortable p.precedes (p.matched roots) :=
  sorts_iff (isGrouped_entity entity ungrouped) (by simp [entity]) roots

theorem execute_entity {p : Plan} (total : p.Total) (entity : p.projection = .entity)
    (ungrouped : p.groupBy = []) (tables : Tables)
    (sorts : p.Sorts (tables.records p.root)) :
    p.execute tables =
      .ok (.entities (p.page (p.dedupe ((p.ranked (tables.records p.root)).map Row.root)))) := by
  have grouped := isGrouped_entity entity ungrouped
  have sorted := sortBy_ok ((sorts_entity_iff entity ungrouped _).mp sorts)
  have projected : ∀ rows : List Row,
      (rows.map ([·])).mapM p.project = .ok (rows.map Row.root) := by
    intro rows
    rw [List.mapM_map]
    apply mapM_ok
    intro row _
    simp [project, entity]
  simp only [execute, matchedRows_ok total, entity, fetch_ungrouped total grouped, sorted,
    projected, ranked, bind, Except.bind, pure, Except.pure]

theorem sorts_of_execute {p : Plan} (total : p.Total) {tables : Tables} {found : ResultSet}
    (ran : p.execute tables = .ok found) : p.Sorts (tables.records p.root) := by
  by_contra unsorted
  rw [execute_unsorted total unsorted] at ran
  cases ran

theorem count_ok {q : Plan} (total : q.Total) {distinct : Bool}
    (counting : q.projection = .count distinct) (tables : Tables) :
    q.count tables = .ok (q.countRows distinct (q.matched (tables.records q.root))) := by
  simp only [count, execute, matchedRows_ok total, counting, bind, Except.bind, pure, Except.pure]
  rfl

end Plan

namespace Criteria

def results (settings : CompilerSettings) (catalog : Catalog) (c : Criteria) (tables : Tables) :
    Except QueryError ResultSet := do
  let p ← (Plan.ofCriteria settings c catalog).1
  p.execute tables

theorem results_eq {settings : CompilerSettings} {c : Criteria} {catalog loaded : Catalog}
    {s : Scope} (tables : Tables) (started : Scope.start c.entity catalog = (.ok s, loaded)) :
    results settings catalog c tables = (Plan.inScope settings c s).1.execute tables := by
  simp only [results, Plan.ofCriteria, Plan.withScope_start started]
  rfl

end Criteria

end EntitySearch
