import EntitySearch.Proofs.StorageOrder

/-! Orders that no two records tie in.

Whether the identifier ends an order is settled by the groups that are asked
for, and whether rows are grouped by the paths among them that resolve. Where
both agree, every order of rows that are not grouped has the identifier.
-/

set_option autoImplicit false

namespace EntitySearch

namespace Plan

variable {p : Plan}

/-- One of the orders reads the identifier of the root itself. -/
def OrdersBy (p : Plan) (identifier : String) : Prop :=
  ∃ t ∈ p.orderBy, ∃ qualified, t.expr = .field ⟨.root, [identifier], qualified⟩

theorem ordersBy_iff {identifier : String} : p.OrdersBy identifier ↔
    (p.orderBy.any fun t => Order.isIdentifier identifier t.expr) = true := by
  simp only [OrdersBy, List.any_eq_true, Order.isIdentifier_iff]

/-- Unless only groups are asked for that do not resolve, rows that are not grouped come in an
order with their identifier. -/
theorem stable_order {settings : CompilerSettings} {c : Criteria} {catalog after : Catalog}
    {root : Entity} {identifier : String}
    (compiled : ofCriteria settings c catalog = (.ok p, after))
    (defined : catalog.definition c.entity = .ok root) (identity : root.identity = some identifier)
    (valid : Schema.validateIdentity root = .ok ()) (plain : Text.Plain identifier)
    (answered : (∃ path ∈ c.groupBy, Text.isBlankText path = false) → p.groupBy ≠ [])
    (ungrouped : p.isGrouped = false) : p.OrdersBy identifier := by
  obtain ⟨s, loaded, started, rfl⟩ := withScope_ok compiled
  obtain ⟨defined', identity', -⟩ := Scope.start_ok started
  obtain rfl : s.root = root := Except.ok.inj (defined'.symm.trans defined)
  obtain rfl : s.identifier = identifier := Option.some.inj (identity'.symm.trans identity)
  obtain ⟨keyless, unaggregated⟩ := isGrouped_eq_false.mp ungrouped
  have blank : (c.groupBy.any fun path => !Text.isBlankText path) = false := by
    apply List.any_eq_false.mpr
    intro path held solid
    exact answered ⟨path, held, by simpa using solid⟩ keyless
  have asked : asksForGroups c (inScope settings c s).1.projection = false := by
    rw [asksForGroups, blank, unaggregated]
    rfl
  obtain ⟨type, finds⟩ := Scope.finds_identifier started valid plain
  exact ordersBy_iff.mpr (inScope_identified settings finds (Scope.start_sound started) asked)

end Plan

namespace Sample

def blankGroup : Criteria := { tagged with groupBy := ["  "] }

def byNickname : Criteria := { everyone with groupBy := ["nickname"] }

def unordered : Plan where
  root := "Person"
  identifier := "id"
  joins := []
  projection := .entity
  filters := []
  distinct := true

end Sample

namespace Plan

theorem stable_order_blank : Sample.taggedPlan.OrdersBy "id" :=
  have compiled : ofCriteria {} Sample.blankGroup Sample.catalog =
      (.ok Sample.taggedPlan, Sample.catalog) := rfl
  have defined : Sample.catalog.definition Sample.blankGroup.entity = .ok Sample.person := rfl
  have plain : Text.Plain "id" := ⟨by decide, by decide, by decide⟩
  stable_order compiled defined rfl rfl plain (by decide) rfl

/-- An identifier without a name ends no order, and behind groups that do not resolve none does. -/
theorem stable_order_fails :
    (Catalog.ofSchema ⟨1, Sample.memos.entities⟩ = .ok Sample.memos ∧
      ofCriteria {} Sample.everyMemo Sample.memos = (.ok Sample.memoPlan, Sample.memos) ∧
      Sample.memo.identity = some "" ∧ Text.trim "" = "" ∧ '.' ∉ "".toList ∧
      Sample.memoPlan.isGrouped = false ∧ ¬ Sample.memoPlan.OrdersBy "") ∧
    Catalog.ofSchema ⟨1, Sample.catalog.entities⟩ = .ok Sample.catalog ∧
      ofCriteria {} Sample.byNickname Sample.catalog = (.ok Sample.unordered, Sample.catalog) ∧
      Sample.person.identity = some "id" ∧ Text.trim "id" = "id" ∧ '.' ∉ "id".toList ∧
      Sample.unordered.isGrouped = false ∧ ¬ Sample.unordered.OrdersBy "id" := by
  have none : ∀ (p : Plan) (identifier : String), p.orderBy = [] → ¬ p.OrdersBy identifier := by
    rintro p identifier empty ⟨t, held, -⟩
    rw [empty] at held
    cases held
  exact ⟨⟨rfl, rfl, rfl, by decide, by decide, rfl, none _ _ rfl⟩, rfl, rfl, rfl, by decide,
    by decide, rfl, none _ _ rfl⟩

end Plan

end EntitySearch
