import EntitySearch.Compile.Filter
import EntitySearch.Compile.Keyset
import EntitySearch.Compile.Order
import EntitySearch.Compile.Selecting

/-! Criteria as plans.

Only an unknown entity fails. Any other entry of the criteria that does not
compile is left out, as is a cursor.
-/

set_option autoImplicit false

namespace EntitySearch

def Filter.all (settings : CompilerSettings) :
    Keyed Condition → StateM Scope (List Predicate)
  | [] => return []
  | (field, c) :: rest => do
    let first ← (Filter.ofCondition settings field none c).outcome
    let others ← Filter.all settings rest
    return first.toOption.toList ++ others

def Keyset.ofCriteria (settings : CompilerSettings) (c : Criteria) :
    StateM Scope (Option (Predicate × List OrderTerm)) := do
  match c.cursor with
  | .ok (some cursor) => return (← (Keyset.both settings cursor).outcome).toOption
  | _ => return none

namespace Plan

def inScope (settings : CompilerSettings) (c : Criteria) : StateM Scope Plan := do
  -- Joins are numbered as paths first meet them, so the order of these steps shows in the plan.
  let projection ← Selecting.projection c
  let filters ← Filter.all settings c.filters
  let keyset ← Keyset.ofCriteria settings c
  let requested ← match keyset with
    | some (_, terms) => pure terms
    | none => Order.terms c.orders
  let grouped := c.groupBy.any (fun path => !Text.isBlankText path) || projection.hasAggregate
  let orderBy ← if grouped then pure requested else Order.stableOr requested
  let groupBy ← Selecting.groupBy c.groupBy
  let scope ← get
  return {
    root := scope.root.name
    identifier := scope.identifier
    joins := scope.joins
    projection
    filters
    seek := keyset.map (·.1)
    groupBy
    orderBy
    distinct := c.distinct
    offset := if keyset.isSome then none else c.first
    limit := c.pageSize
    single := c.singleResult }

def countInScope (settings : CompilerSettings) (c : Criteria) : StateM Scope Plan := do
  let filters ← Filter.all settings c.filters
  let scope ← get
  return {
    root := scope.root.name
    identifier := scope.identifier
    joins := scope.joins
    projection := .count c.distinct
    filters
    distinct := c.distinct }

/-- Run a computation in the scope of an entity. What it loads stays in the catalog. -/
def withScope {α : Type} (entity : String) (computation : StateM Scope α) : Catalog.Lookup α := do
  let scope ← Scope.start entity
  let (result, scope) := computation scope
  set scope.catalog
  return result

def ofCriteria (settings : CompilerSettings) (c : Criteria) : Catalog.Lookup Plan :=
  withScope c.entity (inScope settings c)

/-- The plan that counts what criteria match, without grouping, cursor and page. -/
def countOfCriteria (settings : CompilerSettings) (c : Criteria) : Catalog.Lookup Plan :=
  withScope c.entity (countInScope settings c)

end Plan

end EntitySearch
