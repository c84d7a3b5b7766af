import EntitySearch.Proofs.Dropped

/-! Values on groups and on rows.

Without an aggregate outside of conditions, an expression has on a group the
value that it has on the first row, or fails as it does there: an aggregate
within a condition is refused on both. No order that compiles calls an
aggregate, so compiled plans that are not grouped sort and select row by row.
-/

set_option autoImplicit false

namespace EntitySearch

mutual

/-- What calls no aggregate is evaluated on a group as on its first row. -/
theorem Expr.evalGroup_first (row : Row) (others : List Row) :
    ∀ e : Expr, e.hasAggregate = false → e.evalGroup (row :: others) = e.eval row
  -- Conditions are left to the first row as a whole, with the aggregates in them.
  | .field _, _ | .literal _, _ | .truth _, _ | .case _ _ _, _ => by
    simp only [Expr.evalGroup, Expr.evalFirst]
  | .upper e, plain | .trim e, plain | .length e, plain => by
    simp only [Expr.hasAggregate] at plain
    simp only [Expr.evalGroup, Expr.eval, Expr.evalGroup_first row others e plain]
  | .call name args, plain => by
    simp only [Expr.hasAggregate, Bool.or_eq_false_iff] at plain
    obtain ⟨scalar, parts⟩ := plain
    have named : Aggregate.ofName? name = none := by simpa [isAggregate] using scalar
    simp only [Expr.evalGroup, Expr.eval, named, scalar, Bool.false_eq_true, if_false,
      Expr.evalGroupAll_first row others args parts]

theorem Expr.evalGroupAll_first (row : Row) (others : List Row) :
    ∀ es : List Expr, Expr.anyAggregate es = false →
      Expr.evalGroupAll (row :: others) es = Expr.evalAll row es
  | [], _ => by rw [Expr.evalGroupAll, Expr.evalAll]
  | e :: rest, plain => by
    simp only [Expr.anyAggregate, Bool.or_eq_false_iff] at plain
    simp only [Expr.evalGroupAll, Expr.evalAll, Expr.evalGroup_first row others e plain.1,
      Expr.evalGroupAll_first row others rest plain.2]

end

theorem Expr.anyAggregate_eq_false {es : List Expr} :
    anyAggregate es = false ↔ ∀ e ∈ es, e.hasAggregate = false := by
  induction es with
  | nil => simp [anyAggregate]
  | cons e rest ih => simp [anyAggregate, ih]

def OrderTerm.Rowwise (t : OrderTerm) : Prop := t.expr.hasAggregate = false

abbrev AllRowwise (terms : List OrderTerm) : Prop := ∀ t ∈ terms, t.Rowwise

namespace Plan

/-! Plans run on rows, without groups. -/

def sortRows (p : Plan) (rows : List Row) : Except QueryError (List Row) := do
  let keyed ← rows.mapM fun row => do
    return (← Expr.evalAll row (p.orderBy.map OrderTerm.expr), row)
  let before := fun (a b : List Value × Row) => compareKeys p.orderBy a.1 b.1 == .lt
  return (← sortBy before keyed).map (·.2)

def selectRow (p : Plan) (row : Row) : Except QueryError Record :=
  match p.projection with
  | .columns selections => do
    let values ← selections.zipIdx.mapM fun (s, i) => do return (s.key i, ← s.expr.eval row)
    return Keyed.ofEntries values
  | _ => .ok row.root

def executeRows (p : Plan) (tables : Tables) : Except QueryError ResultSet := do
  let rows ← p.matchedRows (tables.records p.root)
  match p.projection with
  | .count distinct => return .count (p.countRows distinct rows)
  | _ =>
    let sorted ← p.sortRows rows
    let records ← sorted.mapM p.selectRow
    let found := p.page (p.dedupe records)
    return if p.projection.isTuple then .rows found else .entities found

variable {p : Plan}

theorem sortKey_row (ordered : AllRowwise p.orderBy) (row : Row) :
    p.sortKey [row] = Expr.evalAll row (p.orderBy.map OrderTerm.expr) := by
  apply Expr.evalGroupAll_first
  apply Expr.anyAggregate_eq_false.mpr
  intro e held
  obtain ⟨t, there, rfl⟩ := List.mem_map.mp held
  exact ordered t there

theorem sortUnits_rows (ordered : AllRowwise p.orderBy) (rows : List Row) :
    p.sortUnits (rows.map ([·])) = (p.sortRows rows).map (List.map ([·])) := by
  have keyed : (rows.map ([·])).mapM (fun unit => do return (← p.sortKey unit, unit)) =
      (rows.mapM fun row => do
        return (← Expr.evalAll row (p.orderBy.map OrderTerm.expr), row)).map
          (List.map fun entry : List Value × Row => (entry.1, [entry.2])) := by
    rw [List.mapM_map]
    apply mapM_map_outcome
    intro row
    simp only [Function.comp, sortKey_row ordered]
    cases Expr.evalAll row (p.orderBy.map OrderTerm.expr) <;> rfl
  simp only [sortUnits, sortRows]
  rw [keyed]
  cases rows.mapM fun row => do
    return (← Expr.evalAll row (p.orderBy.map OrderTerm.expr), row) with
  | error e => rfl
  | ok entries =>
    show (sortBy _ (entries.map _) >>= _) = (sortBy _ entries >>= _).map _
    rw [sortBy_map fun entry : List Value × Row => (entry.1, [entry.2])]
    cases sortBy (fun a b : List Value × Row => compareKeys p.orderBy a.1 b.1 == .lt) entries with
    | error e => rfl
    | ok sorted =>
      show Except.ok _ = Except.ok _
      simp only [List.map_map]
      rfl

theorem selectValues_row {ss : List Selection} (plain : ∀ s ∈ ss, s.expr.hasAggregate = false)
    (row : Row) (position : Nat) : selectValues [row] position ss =
      (ss.zipIdx position).mapM fun (s, i) => do return (s.key i, ← s.expr.eval row) := by
  induction ss generalizing position with
  | nil => rfl
  | cons s rest ih =>
    obtain ⟨first, others⟩ := List.forall_mem_cons.mp plain
    rw [selectValues, ih others, Expr.evalGroup_first row [] s.expr first, List.zipIdx_cons,
      List.mapM_cons]
    simp only [bind_assoc, pure_bind]

theorem project_row (plain : p.projection.hasAggregate = false) (row : Row) :
    p.project [row] = p.selectRow row := by
  unfold project selectRow
  cases selected : p.projection with
  | entity | count => rfl
  | columns ss =>
    rw [selected] at plain
    have each : ∀ s ∈ ss, s.expr.hasAggregate = false := by
      intro s held
      simpa using List.any_eq_false.mp plain s held
    dsimp only
    rw [selectValues_row each]

theorem fetch_rows (ungrouped : p.isGrouped = false) (ordered : AllRowwise p.orderBy)
    (rows : List Row) : p.fetch rows = do
      let sorted ← p.sortRows rows
      let records ← sorted.mapM p.selectRow
      return p.page (p.dedupe records) := by
  have selecting : p.project ∘ ([·]) = p.selectRow :=
    funext (project_row (isGrouped_eq_false.mp ungrouped).2)
  unfold fetch
  rw [units_ungrouped ungrouped, ok_bind, sortUnits_rows ordered]
  cases p.sortRows rows with
  | error e => rfl
  | ok sorted =>
    show (List.mapM p.project (sorted.map ([·])) >>= _) = (sorted.mapM p.selectRow >>= _)
    rw [List.mapM_map, selecting]

/-- Keys are taken from all rows before a row is selected, on rows as on groups of one row. -/
theorem execute_ungrouped_rows (ungrouped : p.isGrouped = false)
    (ordered : AllRowwise p.orderBy) (tables : Tables) :
    p.execute tables = p.executeRows tables := by
  unfold execute executeRows
  congr 1
  funext rows
  cases selected : p.projection with
  | count distinct => rfl
  | entity | columns =>
    dsimp only
    rw [fetch_rows ungrouped ordered]
    simp only [bind_assoc, pure_bind]
    rfl

end Plan

/-! Orders that compile: attributes, trimmed and measured at most. -/

theorem attempts_yield {α κ : Type} {P : α → Prop} {compile : κ → Resolve α}
    (each : ∀ k, Gives P (compile k)) (entries : List κ) :
    Yields (fun as => ∀ a ∈ as, P a) (attempts compile entries) := by
  induction entries with
  | nil => exact .pure (List.forall_mem_nil P)
  | cons k rest ih =>
    refine Yields.bind (each k) fun o first => ih.bind fun as others =>
      .pure (List.forall_mem_append.mpr ⟨fun a held => ?_, others⟩)
    exact first a (Option.mem_toList.mp held)

namespace Order

theorem applyFunctions_hasAggregate (functions : String) (e : Expr) :
    (applyFunctions functions e).hasAggregate = e.hasAggregate := by
  unfold applyFunctions
  dsimp only
  split <;> split <;> simp only [Expr.hasAggregate]

theorem term_rowwise (key : String) (direction : Direction) :
    Gives OrderTerm.Rowwise (term key direction) := by
  unfold term
  obtain ⟨path, functions⟩ := splitKey key
  refine .bind (.any (Resolve.resolve path)) fun r _ => .pure ?_
  cases functions with
  | none => rfl
  | some words => exact applyFunctions_hasAggregate words r.expr

theorem terms_rowwise (orders : Keyed Direction) : Yields AllRowwise (terms orders) := by
  have each : ∀ entry : String × Direction, Gives OrderTerm.Rowwise (term entry.1 entry.2) :=
    fun entry => term_rowwise entry.1 entry.2
  rw [terms_eq]
  exact attempts_yield each orders

theorem stable_rowwise {requested : List OrderTerm} (rowwise : AllRowwise requested) :
    Gives AllRowwise (stable requested) := by
  refine .bind (.any get) fun s _ => ?_
  dsimp only
  split
  · exact .pure rowwise
  · refine .bind (.any (Resolve.resolve s.identifier)) fun id _ => .pure ?_
    exact List.forall_mem_append.mpr ⟨rowwise, List.forall_mem_singleton.mpr rfl⟩

theorem stableOr_rowwise {requested : List OrderTerm} (rowwise : AllRowwise requested) :
    Yields AllRowwise (stableOr requested) := by
  refine Yields.bind (stable_rowwise rowwise) fun o completed => .pure ?_
  cases found : o.toOption with
  | none => exact rowwise
  | some terms => exact completed terms found

end Order

namespace Keyset

theorem order_rowwise (cursor : Cursor) : Gives AllRowwise (order cursor) := by
  refine .bind (.any (Resolve.resolve cursor.field)) fun field _ => ?_
  refine .bind (.any get) fun s _ => .bind (.any (Resolve.resolve s.identifier)) fun id _ => ?_
  dsimp only
  split
  · exact .pure (List.forall_mem_singleton.mpr rfl)
  · exact .pure (List.forall_mem_cons.mpr ⟨rfl, List.forall_mem_singleton.mpr rfl⟩)

theorem both_rowwise (settings : CompilerSettings) (cursor : Cursor) :
    Gives (fun part => AllRowwise part.2) (both settings cursor) :=
  .bind (.any (predicate settings cursor)) fun _ _ => (order_rowwise cursor).bind fun _ rowwise =>
    .pure rowwise

theorem ofCriteria_rowwise (settings : CompilerSettings) (c : Criteria) :
    Yields (fun keyset => ∀ part ∈ keyset, AllRowwise part.2) (ofCriteria settings c) := by
  unfold ofCriteria
  split
  · next cursor _ => exact Yields.bind (both_rowwise settings cursor) fun o rowwise => .pure rowwise
  · exact .pure nofun

end Keyset

namespace Plan

theorem requestedOrder_rowwise (c : Criteria) {keyset : Option (Predicate × List OrderTerm)}
    (rowwise : ∀ part ∈ keyset, AllRowwise part.2) : Yields AllRowwise (requestedOrder c keyset) := by
  cases keyset with
  | none => exact Order.terms_rowwise c.orders
  | some part => exact .pure (rowwise part rfl)

theorem finalOrder_rowwise (grouped : Bool) {requested : List OrderTerm}
    (rowwise : AllRowwise requested) : Yields AllRowwise (finalOrder grouped requested) := by
  unfold finalOrder
  split
  · exact .pure rowwise
  · exact Order.stableOr_rowwise rowwise

theorem inScope_rowwise (settings : CompilerSettings) (c : Criteria) :
    Yields (fun p => AllRowwise p.orderBy) (inScope settings c) := by
  rw [inScope_eq]
  refine .bind (.any (Selecting.projection c)) fun projection _ => ?_
  refine .bind (.any (Filter.all settings c.filters)) fun filters _ => ?_
  refine (Keyset.ofCriteria_rowwise settings c).bind fun keyset behind => ?_
  refine (requestedOrder_rowwise c behind).bind fun requested asked => ?_
  refine (finalOrder_rowwise _ asked).bind fun orderBy ordered => ?_
  refine .bind (.any (Selecting.groupBy c.groupBy)) fun groupBy _ => ?_
  exact .bind (.any get) fun scope _ => .pure ordered

theorem compiled_rowwise {settings : CompilerSettings} {c : Criteria} {catalog after : Catalog}
    {p : Plan} (compiled : ofCriteria settings c catalog = (.ok p, after) ∨
      countOfCriteria settings c catalog = (.ok p, after)) : AllRowwise p.orderBy := by
  rcases compiled with searched | counted
  · obtain ⟨s, loaded, started, rfl⟩ := withScope_ok searched
    exact inScope_rowwise settings c s
  · obtain ⟨s, loaded, started, rfl⟩ := withScope_ok counted
    exact nofun

/-- What calls no aggregate has on a group the outcome that it has on the first row, and plans
that are not grouped run row by row. -/
theorem row_semantics :
    (∀ (e : Expr) (row : Row) (others : List Row), e.hasAggregate = false →
      e.evalGroup (row :: others) = e.eval row) ∧
    (∀ p : Plan, p.isGrouped = false →
      (∀ rows, p.units rows = .ok (rows.map ([·]))) ∧
      (∀ row, p.project [row] = p.selectRow row) ∧
      ((∀ t ∈ p.orderBy, t.expr.hasAggregate = false) →
        ∀ tables, p.execute tables = p.executeRows tables)) ∧
    ∀ (settings : CompilerSettings) (c : Criteria) (catalog after : Catalog) (p : Plan),
      ofCriteria settings c catalog = (.ok p, after) ∨
        countOfCriteria settings c catalog = (.ok p, after) →
      (∀ t ∈ p.orderBy, t.expr.hasAggregate = false) ∧
      (p.isGrouped = false → ∀ tables, p.execute tables = p.executeRows tables) := by
  refine ⟨fun e row others plain => Expr.evalGroup_first row others e plain, ?_, ?_⟩
  · intro p ungrouped
    exact ⟨units_ungrouped ungrouped, project_row (isGrouped_eq_false.mp ungrouped).2,
      execute_ungrouped_rows ungrouped⟩
  · intro settings c catalog after p compiled
    have ordered := compiled_rowwise compiled
    exact ⟨ordered, fun ungrouped => execute_ungrouped_rows ungrouped ordered⟩

end Plan

namespace Sample

def ann : Row := ⟨[("id", .int 1), ("name", .string "Ann")], []⟩

def bob : Row := ⟨[("id", .int 2), ("name", .string "Bob")], []⟩

/-- A nickname, or else the name if a sum is positive. The sum stands in a condition. -/
def guarded : Expr :=
  .call "coalesce" [.field ⟨.root, ["nickname"], "nickname"⟩,
    .upper (.case (.compare .gt (.call "sum" [.field ⟨.root, ["id"], "id"⟩]) (.literal (.int 0)))
      (.field ⟨.root, ["name"], "name"⟩) none)]

def shouted : Criteria :=
  { everyone with
    functions := [("upper", .single "name")], orders := [("name:trim,length", .desc)] }

def shoutedPlan : Plan where
  root := "Person"
  identifier := "id"
  joins := []
  projection := .columns [⟨.call "upper" [.field ⟨.root, ["name"], "name"⟩], some "upper"⟩]
  filters := []
  orderBy := [⟨.length (.trim (.field ⟨.root, ["name"], "name"⟩)), .desc⟩,
    ⟨.field ⟨.root, ["id"], "id"⟩, .desc⟩]
  distinct := true

def guardedPlan : Plan :=
  { shoutedPlan with projection := .columns [⟨guarded, none⟩], orderBy := [⟨guarded, .asc⟩] }

end Sample

-- An aggregate outside of conditions sees the other rows of its group.
example : (Expr.call "count" []).evalGroup [Sample.ann, Sample.bob] = .ok (.int 2) ∧
    (Expr.call "count" []).eval Sample.ann = .error (.execution (.aggregateOutsideGroup "count")) :=
  ⟨rfl, rfl⟩

namespace Plan

/-- A sum within a condition is refused on groups too, and fails the plan that selects it. Names
are shown row by row. -/
theorem row_semantics_shouted :
    (Sample.guarded.hasAggregate = false ∧
      Sample.guarded.evalGroup [Sample.ann, Sample.bob] =
        .error (.execution (.aggregateOutsideGroup "sum"))) ∧
    (Sample.guardedPlan.isGrouped = false ∧
      (∀ t ∈ Sample.guardedPlan.orderBy, t.expr.hasAggregate = false) ∧
      Sample.guardedPlan.execute Sample.tables =
        .error (.execution (.aggregateOutsideGroup "sum"))) ∧
    ofCriteria {} Sample.shouted Sample.catalog = (.ok Sample.shoutedPlan, Sample.catalog) ∧
      Sample.shoutedPlan.isGrouped = false ∧
      Sample.shoutedPlan.execute Sample.tables =
        .ok (.rows [[("upper", .string "ANN")], [("upper", .string "BOB")]]) := by
  obtain ⟨values, ungrouped, compiled⟩ := row_semantics
  have ordered : ∀ t ∈ Sample.guardedPlan.orderBy, t.expr.hasAggregate = false :=
    List.forall_mem_singleton.mpr rfl
  have refused : Sample.guardedPlan.executeRows Sample.tables =
      .error (.execution (.aggregateOutsideGroup "sum")) := rfl
  have searched : ofCriteria {} Sample.shouted Sample.catalog =
      (.ok Sample.shoutedPlan, Sample.catalog) := rfl
  have shown : Sample.shoutedPlan.executeRows Sample.tables =
      .ok (.rows [[("upper", .string "ANN")], [("upper", .string "BOB")]]) := rfl
  refine ⟨⟨rfl, ?_⟩, ⟨rfl, ordered, ?_⟩, searched, rfl, ?_⟩
  · exact values Sample.guarded Sample.ann [Sample.bob] rfl
  · exact ((ungrouped Sample.guardedPlan rfl).2.2 ordered Sample.tables).trans refused
  · exact ((compiled _ _ _ _ _ (.inl searched)).2 rfl Sample.tables).trans shown

end Plan

end EntitySearch
