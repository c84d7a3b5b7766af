import EntitySearch.Proofs.Distinct
import EntitySearch.Proofs.Listing
import EntitySearch.Proofs.Ties

/-! Results and the order of the table.

Orders end in the identifier of the root, so that only rows of one record tie.
The rows of a record are the same wherever it is stored, and the sorted rows are
those of the records that match.
-/

set_option autoImplicit false

namespace EntitySearch

open Std (TransCmp)

variable {b : Base}

theorem flatMap_of_unique {α β : Type} {xs : List α} {F : α → List β} {a : α} (nodup : xs.Nodup)
    (held : a ∈ xs) (others : ∀ x ∈ xs, x ≠ a → F x = []) : xs.flatMap F = F a := by
  obtain ⟨front, rest, rfl⟩ := List.append_of_mem held
  have apart := List.nodup_append.mp nodup
  have before : ∀ x ∈ front, F x = [] := by
    intro x there
    exact others x (List.mem_append_left _ there) (apart.2.2 x there a List.mem_cons_self)
  have behind : ∀ x ∈ rest, F x = [] := by
    intro x there
    apply others x (List.mem_append_right _ (List.mem_cons_of_mem a there))
    rintro rfl
    exact (List.nodup_cons.mp apart.2.1).1 there
  rw [List.flatMap_append, List.flatMap_cons, List.flatMap_eq_nil_iff.mpr before,
    List.flatMap_eq_nil_iff.mpr behind, List.nil_append, List.append_nil]

namespace Order

theorem stableOr_identified {type : FieldType} {s : Scope}
    (finds : Finds b b.identifier (.ofRoot b.identifier type)) (sound : s.Sound b)
    (terms : List OrderTerm) :
    ((stableOr terms s).1.any fun t => isIdentifier b.identifier t.expr) = true := by
  have named : s.identifier = b.identifier := congrArg Base.identifier sound.base
  cases stands : terms.any fun t => isIdentifier s.identifier t.expr with
  | true =>
    rw [stableOr_stable stands, ← named]
    exact stands
  | false =>
    obtain ⟨t, found, -⟩ := finds s sound
    have added : stable terms s = (.ok (terms ++ [⟨(Resolved.ofRoot b.identifier type).expr,
        (terms.head?.map (·.direction)).getD .asc⟩]), t) := by
      unfold stable
      rw [run_get_bind]
      simp only [stands, Bool.false_eq_true, if_false]
      rw [named]
      exact run_bind_ok found
    have completed : (stableOr terms s).1 = terms ++ [⟨(Resolved.ofRoot b.identifier type).expr,
        (terms.head?.map (·.direction)).getD .asc⟩] :=
      congrArg Prod.fst (state_bind (x := (stable terms).outcome) added)
    rw [completed, List.any_append, List.any_cons, isIdentifier_ofRoot]
    simp

end Order

namespace Plan

theorem requestedOrder_sound (c : Criteria) (keyset : Option (Predicate × List OrderTerm))
    {s : Scope} (sound : s.Sound b) : (requestedOrder c keyset s).2.Sound b := by
  cases keyset with
  | some part => exact sound
  | none =>
    obtain ⟨_, _, _, -, ran, sound'⟩ := (Order.terms_uniform c.orders).run sound
    show (Order.terms c.orders s).2.Sound b
    rw [ran]
    exact sound'

/-- Without groups, the identifier stands in the order of every plan. -/
theorem inScope_identified (settings : CompilerSettings) {c : Criteria} {type : FieldType}
    {s : Scope} (finds : Finds b b.identifier (.ofRoot b.identifier type)) (sound : s.Sound b)
    (ungrouped : asksForGroups c (inScope settings c s).1.projection = false) :
    ((inScope settings c s).1.orderBy.any fun t =>
      Order.isIdentifier b.identifier t.expr) = true := by
  rw [inScope_eq] at ungrouped ⊢
  obtain ⟨projection, ν₁, s₁, -, ran, sound⟩ := (Selecting.projection_uniform c).run sound
  rw [state_bind ran] at ungrouped ⊢
  obtain ⟨filters, ν₂, s₂, -, ran, sound⟩ := (Filter.all_uniform settings c.filters).run sound
  rw [state_bind ran] at ungrouped ⊢
  obtain ⟨keyset, ν₃, s₃, -, ran, sound⟩ := (Keyset.ofCriteria_uniform settings c).run sound
  rw [state_bind ran] at ungrouped ⊢
  have asked : asksForGroups c (projection ν₁) = false := ungrouped
  have completed := Order.stableOr_identified finds (requestedOrder_sound c (keyset ν₃) sound)
    (requestedOrder c (keyset ν₃) s₃).1
  rw [asked]
  exact completed

variable {p : Plan} {stored : List Record}

def compareRows (p : Plan) (a b : Row) : Ordering :=
  compareKeys p.orderBy (p.keyOf a) (p.keyOf b)

theorem evalGroupAll_tie {terms : List OrderTerm} {row other : Row} {a b : List Value}
    (first : Expr.evalGroupAll [row] (terms.map OrderTerm.expr) = .ok a)
    (second : Expr.evalGroupAll [other] (terms.map OrderTerm.expr) = .ok b)
    (tie : compareKeys terms a b = .eq) {t : OrderTerm} (held : t ∈ terms) :
    ∃ v w, t.expr.evalGroup [row] = .ok v ∧ t.expr.evalGroup [other] = .ok w ∧
      v.sortOrder w = .eq := by
  induction terms generalizing a b with
  | nil => cases held
  | cons u rest ih =>
    obtain ⟨v, vs, value, values, rfl⟩ := Expr.evalGroupAll_cons first
    obtain ⟨w, ws, value', values', rfl⟩ := Expr.evalGroupAll_cons second
    rw [compareKeys_cons, Ordering.then_eq_eq] at tie
    rcases List.mem_cons.mp held with rfl | held
    · refine ⟨v, w, value, value', ?_⟩
      have oriented := tie.1
      revert oriented
      cases t.direction <;> cases v.sortOrder w <;> simp [Direction.orient, Ordering.swap]
    · exact ih values values' tie.2 held

theorem root_of_tie (total : p.Total)
    (stable : (p.orderBy.any fun t => Order.isIdentifier p.identifier t.expr) = true)
    (identified : Identified Value.int p.identifier stored) {row other : Row}
    (left : row.root ∈ stored) (right : other.root ∈ stored)
    (tie : p.compareRows row other = .eq) : row.root = other.root := by
  obtain ⟨t, held, stands⟩ := List.any_eq_true.mp stable
  obtain ⟨qualified, named⟩ := Order.isIdentifier_iff.mp stands
  obtain ⟨v, w, value, value', met⟩ :=
    evalGroupAll_tie (sortKey_ok total row) (sortKey_ok total other) tie held
  obtain ⟨i, first⟩ := identified.find left
  obtain ⟨j, second⟩ := identified.find right
  rw [named, Order.evalGroup_identifier first] at value
  rw [named, Order.evalGroup_identifier second] at value'
  obtain rfl := Except.ok.inj value
  obtain rfl := Except.ok.inj value'
  have equal := (Value.equals_of_kind (k := .int) rfl rfl).mpr met
  obtain rfl := (Value.exact_int.equals i j).mp equal
  exact identified.inj Value.exact_int.inj left right (first.trans second.symm)

theorem transCmp_rows (total : p.Total) (comparable : p.Comparable stored) :
    TransCmp fun a b : { row // row ∈ p.joinedRows stored } => p.compareRows a.1 b.1 := by
  obtain ⟨kinds, sorts⟩ := comparable.keys total
  have := transCmp_keys p.orderBy kinds
  exact transCmp_on (fun a b : KeysOf kinds => compareKeys p.orderBy a.1 b.1)
    fun row : { row // row ∈ p.joinedRows stored } => ⟨p.keyOf row.1, sorts row.1 row.2⟩

theorem ranked_perm (total : p.Total)
    (stable : (p.orderBy.any fun t => Order.isIdentifier p.identifier t.expr) = true)
    (identified : Identified Value.int p.identifier stored) (comparable : p.Comparable stored)
    {moved : List Record} (permuted : stored.Perm moved) : p.ranked stored = p.ranked moved := by
  have once : stored.Nodup := (identified.nodup Value.exact_int.inj).of_map
  have joined : ∀ {roots : List Record} {row : Row}, row ∈ p.matched roots →
      row ∈ p.joinedRows roots := fun held => List.mem_of_mem_filter held
  have within : ∀ row ∈ p.matched moved, row ∈ p.joinedRows stored := by
    intro row held
    obtain ⟨start, begun, bound⟩ := Row.mem_expand.mp (joined held)
    have known := (permuted.map fun root => (⟨root, []⟩ : Row)).mem_iff (a := start)
    exact Row.mem_expand.mpr ⟨start, known.mpr begun, bound⟩
  -- A class of rows that tie stands with one record, in both tables.
  have classes : ∀ x ∈ p.joinedRows stored, ∀ roots : List Record, stored.Perm roots →
      (p.matched roots).filter (ties p.compareRows x) =
        (p.matched [x.root]).filter (ties p.compareRows x) := by
    intro x held roots same
    rw [matched_flatMap, List.filter_flatMap]
    apply flatMap_of_unique (same.nodup_iff.mp once) (same.mem_iff.mp (root_mem held))
    intro r there different
    apply List.filter_eq_nil_iff.mpr
    intro row kept tie
    obtain rfl : row.root = r := List.mem_singleton.mp (root_mem (joined kept))
    exact different (root_of_tie total stable identified (root_mem held)
      (same.mem_iff.mpr there) (beq_iff_eq.mp tie)).symm
  have sorted := stableSort_map_eq_of p.compareRows (f := id) (transCmp_rows total comparable)
    (fun row held => joined held) within fun x held => by
      rw [classes x held stored (.refl _), classes x held moved permuted]
  rw [List.map_id, List.map_id] at sorted
  exact sorted

def present (p : Plan) (rows : List Row) : Except QueryError ResultSet := do
  let records ← (rows.map ([·])).mapM p.project
  let found := p.page (p.dedupe records)
  return if p.projection.isTuple then .rows found else .entities found

theorem matched_perm {moved : List Record} (permuted : stored.Perm moved) :
    (p.matched stored).Perm (p.matched moved) := by
  rw [matched_flatMap p stored, matched_flatMap p moved]
  exact permuted.flatMap_right _

theorem execute_ungrouped (total : p.Total) (ungrouped : p.isGrouped = false)
    (fetches : ∀ distinct, p.projection ≠ .count distinct) (tables : Tables)
    (sortable : Sortable p.precedes (p.matched (tables.records p.root))) :
    p.execute tables = p.present (p.ranked (tables.records p.root)) := by
  simp only [execute, matchedRows_ok total, ok_bind, present, ranked,
    fetch_ungrouped total ungrouped, sortBy_ok sortable]
  cases selected : p.projection with
  | count distinct => exact absurd selected (fetches distinct)
  | entity | columns =>
    show (_ >>= _ : Except QueryError ResultSet) = _
    simp only [bind_assoc, pure_bind]
    rfl

theorem present_ok {c : Criteria} (selects : Selecting.Selects c p.projection)
    (uncalled : c.functions = []) (rows : List Row) : ∃ found, p.present rows = .ok found := by
  have projected : ∀ unit ∈ rows.map ([·]), ∃ r, p.project unit = .ok r := by
    intro unit _
    cases made : p.project unit with
    | ok r => exact ⟨r, rfl⟩
    | error e =>
      obtain ⟨s, held, fails⟩ := project_fails made
      obtain ⟨v, value⟩ := selects.total uncalled s held unit
      cases fails.symm.trans value
  obtain ⟨records, found⟩ := exists_mapM projected
  rw [present, found]
  exact ⟨_, rfl⟩

/-- The result of a search without groups does not depend on the order of the table. -/
theorem storage_order {settings : CompilerSettings} {c : Criteria} {catalog after : Catalog}
    {root : Entity} {identifier : String}
    (compiled : ofCriteria settings c catalog = (.ok p, after))
    (defined : catalog.definition c.entity = .ok root) (identity : root.identity = some identifier)
    (valid : Schema.validateIdentity root = .ok ()) (plain : Text.Plain identifier)
    (ungrouped : c.groupBy = []) (unaggregated : p.projection.hasAggregate = false)
    {tables moved : Tables} (permuted : (tables.records p.root).Perm (moved.records p.root))
    (identified : Identified Value.int identifier (tables.records p.root))
    (comparable : p.Comparable (tables.records p.root)) :
    p.execute tables = p.execute moved ∧
      (c.functions = [] → ∃ found, p.execute tables = .ok found) := by
  obtain ⟨s, loaded, started, rfl⟩ := withScope_ok compiled
  have serves := inScope_serves settings c (Scope.start_sound started)
  obtain ⟨defined', identity', types, -, -⟩ := Scope.start_ok started
  obtain rfl : s.root = root := Except.ok.inj (defined'.symm.trans defined)
  obtain rfl : s.identifier = identifier := Option.some.inj (identity'.symm.trans identity)
  have own : s.base.definition s.base.root.name = .ok s.base.root := by
    simp [Scope.base, Scope.definition, types, Keyed.find?]
  obtain ⟨a, declared⟩ : ∃ a, s.root.field? s.identifier = some a := by
    simp only [Schema.validateIdentity, identity'] at valid
    split at valid
    · next found => exact Option.isSome_iff_exists.mp found
    · cases valid
  have finds : Finds s.base s.base.identifier (.ofRoot s.base.identifier a.type) :=
    finds_plain plain own (by
      show (s.root.field? s.identifier).map Attribute.type = _
      rw [declared]
      rfl)
  have asked : asksForGroups c (inScope settings c s).1.projection = false := by
    simp [asksForGroups, ungrouped, unaggregated]
  have stable := inScope_identified settings finds (Scope.start_sound started) asked
  have apart : (inScope settings c s).1.isGrouped = false := by
    simp [isGrouped, unaggregated, inScope_ungrouped settings ungrouped]
  generalize (inScope settings c s).1 = p at *
  rw [show s.base.identifier = p.identifier from serves.identifier.symm] at stable
  rw [show s.identifier = p.identifier from serves.identifier.symm] at identified
  have sortable := comparable.sortable serves.total
  rw [execute_ungrouped serves.total apart serves.selects.fetches tables sortable,
    execute_ungrouped serves.total apart serves.selects.fetches moved
      (sortable.perm (matched_perm permuted)),
    ranked_perm serves.total stable identified comparable permuted]
  exact ⟨rfl, fun uncalled => present_ok serves.selects uncalled _⟩

end Plan

namespace Sample

def reversed : Tables := [("Person", (tables.records "Person").reverse)]

theorem comparable : taggedPlan.Comparable (tables.records "Person") :=
  Plan.comparable_of_identified identified (by decide)

def memo : Entity := ⟨"Memo", some "", [⟨"", .scalar .int64⟩]⟩

def memos : Catalog where
  entities := [("Memo", memo)]

def everyMemo : Criteria where
  entity := "Memo"

def memoPlan : Plan where
  root := "Memo"
  identifier := ""
  joins := []
  projection := .entity
  filters := []
  distinct := true

def memoTables (ids : List Int) : Tables := [("Memo", ids.map fun id => [("", .int id)])]

end Sample

namespace Plan

theorem storage_order_tagged :
    Sample.taggedPlan.execute Sample.tables = Sample.taggedPlan.execute Sample.reversed ∧
      (Sample.tagged.functions = [] →
        ∃ found, Sample.taggedPlan.execute Sample.tables = .ok found) :=
  have compiled : ofCriteria {} Sample.tagged Sample.catalog =
      (.ok Sample.taggedPlan, Sample.catalog) := rfl
  have defined : Sample.catalog.definition Sample.tagged.entity = .ok Sample.person := rfl
  have plain : Text.Plain "id" := ⟨by decide, by decide, by decide⟩
  storage_order compiled defined rfl rfl plain rfl rfl
    (List.reverse_perm (Sample.tables.records "Person")).symm Sample.identified Sample.comparable

/-- An identifier without a name ends no order, and the order of the table shows. -/
theorem storage_order_nameless :
    ofCriteria {} Sample.everyMemo Sample.memos = (.ok Sample.memoPlan, Sample.memos) ∧
      Sample.memos.definition Sample.everyMemo.entity = .ok Sample.memo ∧
      Sample.memo.identity = some "" ∧ Schema.validateIdentity Sample.memo = .ok () ∧
      Text.trim "" = "" ∧ '.' ∉ "".toList ∧ Sample.everyMemo.groupBy = [] ∧
      Sample.memoPlan.projection.hasAggregate = false ∧
      ((Sample.memoTables [1, 2]).records "Memo").Perm ((Sample.memoTables [2, 1]).records "Memo") ∧
      Identified Value.int "" ((Sample.memoTables [1, 2]).records "Memo") ∧
      Sample.memoPlan.Comparable ((Sample.memoTables [1, 2]).records "Memo") ∧
      Sample.memoPlan.execute (Sample.memoTables [1, 2]) ≠
        Sample.memoPlan.execute (Sample.memoTables [2, 1]) := by
  have first : Sample.memoPlan.execute (Sample.memoTables [1, 2]) =
      .ok (.entities [[("", .int 1)], [("", .int 2)]]) := rfl
  have second : Sample.memoPlan.execute (Sample.memoTables [2, 1]) =
      .ok (.entities [[("", .int 2)], [("", .int 1)]]) := rfl
  refine ⟨rfl, rfl, rfl, rfl, by decide, by decide, rfl, rfl, .swap _ _ _, ⟨[1, 2], by decide, rfl⟩,
    nofun, ?_⟩
  rw [first, second]
  simp

end Plan

end EntitySearch
