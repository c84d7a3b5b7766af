import EntitySearch.Plan.Expr

/-! Query plans. -/

set_option autoImplicit false

namespace EntitySearch

/-- An inner join along a relation. Its index is its position in the plan. -/
structure Join where
  index : Nat
  /-- The record that the relation is read from. -/
  parent : RowSource
  /-- Attributes to pass through, and the relation. -/
  path : List String
  entity : String
  /-- The dotted path from the root. -/
  dotted : String
  deriving DecidableEq, Repr

inductive Projection
  | entity
  | columns (selections : List Selection)
  /-- The number of matching roots, or of matching rows. -/
  | count (distinct : Bool)

namespace Projection

def isTuple : Projection → Bool
  | .columns _ => true
  | _ => false

def selections : Projection → List Selection
  | .columns selections => selections
  | _ => []

def hasAggregate (p : Projection) : Bool :=
  p.selections.any fun s => s.expr.hasAggregate

end Projection

inductive RowShape
  | entity
  | tuple
  | count
  deriving DecidableEq, Repr

structure Plan where
  root : String
  identifier : String
  joins : List Join
  projection : Projection
  /-- One predicate for each filter that compiled; all have to hold. -/
  filters : List Predicate
  /-- The rows behind a cursor. -/
  seek : Option Predicate := none
  groupBy : List Expr := []
  orderBy : List OrderTerm := []
  distinct : Bool
  offset : Option Nat := none
  limit : Option Nat := none
  single : Bool := false

namespace Plan

def restriction (p : Plan) : Option Predicate :=
  match p.filters ++ p.seek.toList with
  | [] => none
  | parts => some (.all parts)

def shape (p : Plan) : RowShape :=
  match p.projection with
  | .entity => .entity
  | .columns _ => .tuple
  | .count _ => .count

/-- Whether rows are grouped, by keys or because an aggregate is projected. -/
def isGrouped (p : Plan) : Bool :=
  !p.groupBy.isEmpty || p.projection.hasAggregate

end Plan

end EntitySearch
