import EntitySearch.Run.Function
import EntitySearch.Run.Row
import EntitySearch.Run.Truth
import EntitySearch.Text.Pattern

/-! The values of expressions and the truth of predicates.

Parts are evaluated from left to right. A conjunction stops at a false part and
a disjunction at a true one, so that errors behind it do not show.
-/

set_option autoImplicit false

namespace EntitySearch

namespace CompareOp

def holds (op : CompareOp) (a b : Value) : Truth :=
  match op with
  | .eq => some (a.equals b)
  | .ne => some (!a.equals b)
  | .lt => (a.compare? b).map Ordering.isLT
  | .le => (a.compare? b).map Ordering.isLE
  | .gt => (a.compare? b).map Ordering.isGT
  | .ge => (a.compare? b).map Ordering.isGE

def truth (op : CompareOp) (a b : Value) : Truth :=
  if a.isNull || b.isNull then none else op.holds a b

end CompareOp

namespace Value

def isWithin (low high v : Value) : Truth :=
  if v.isNull then none
  else Truth.and ((v.compare? low).map Ordering.isGE) ((v.compare? high).map Ordering.isLE)

def isAmong (values : List Value) (negated : Bool) (v : Value) : Truth :=
  if v.isNull then none else some (values.any v.equals != negated)

def isLike (pattern : String) (escape : Char) : Value → Truth
  | .null => none
  | .string s => some (Text.matchesPattern s pattern escape)
  | _ => some false

def isEmptyList : Value → Bool
  | .null => true
  | .list items => items.isEmpty
  | _ => false

def isTrue : Value → Bool
  | .bool b => b
  | _ => false

def ofTruth : Truth → Value
  | some b => .bool b
  | none => .null

end Value

mutual

/-- The value of an expression on a row, where aggregates cannot be called. -/
def Expr.eval (row : Row) : Expr → Except QueryError Value
  | .field f => .ok (row.field f)
  | .literal v => .ok v
  | .upper e => (e.eval row).map Value.upper
  | .trim e => (e.eval row).map Value.trim
  | .length e => (e.eval row).map Value.length
  | .call name args =>
    if isAggregate name then .error (.execution (.aggregateOutsideGroup name))
    else do ScalarFunction.call name (← Expr.evalAll row args)
  | .case condition result otherwise => do
    if (← condition.eval row) = some true then result.eval row
    else
      match otherwise with
      | some e => e.eval row
      | none => .ok .null
  | .truth p => (p.eval row).map Value.ofTruth

def Expr.evalAll (row : Row) : List Expr → Except QueryError (List Value)
  | [] => .ok []
  | e :: rest => do
    let v ← e.eval row
    let values ← Expr.evalAll row rest
    return v :: values

def Predicate.eval (row : Row) : Predicate → Except QueryError Truth
  | .compare op left right => do
    let a ← left.eval row
    let b ← right.eval row
    return op.truth a b
  | .isIn e values negated => (e.eval row).map (Value.isAmong values negated)
  | .between e low high => (e.eval row).map (Value.isWithin low high)
  | .like e pattern escape => (e.eval row).map (Value.isLike pattern escape)
  | .isNull e => (e.eval row).map fun v => some v.isNull
  | .isNotNull e => (e.eval row).map fun v => some (!v.isNull)
  | .isEmpty e => (e.eval row).map fun v => some v.isEmptyList
  | .isNotEmpty e => (e.eval row).map fun v => some (!v.isEmptyList)
  | .isTrue e => (e.eval row).map fun v => some v.isTrue
  | .and parts => Predicate.evalAnd row parts
  | .or parts => Predicate.evalOr row parts
  | .not p => (p.eval row).map Truth.not

def Predicate.evalAnd (row : Row) : List Predicate → Except QueryError Truth
  | [] => .ok (some true)
  | p :: rest => do
    let first ← p.eval row
    -- An unknown part decides nothing: a part behind it may still be false or fail.
    if first = some false then return some false
    return Truth.and first (← Predicate.evalAnd row rest)

def Predicate.evalOr (row : Row) : List Predicate → Except QueryError Truth
  | [] => .ok (some false)
  | p :: rest => do
    let first ← p.eval row
    if first = some true then return some true
    return Truth.or first (← Predicate.evalOr row rest)

end

/-- What an aggregate sees of a row: its first argument, or something that is not null. -/
def Expr.aggregated (args : List Expr) (row : Row) : Except QueryError Value :=
  match args with
  | [] => .ok (.bool true)
  | e :: _ => e.eval row

def Expr.evalFirst (group : List Row) (e : Expr) : Except QueryError Value :=
  match group with
  | [] => .ok .null
  | row :: _ => e.eval row

mutual

/-- The value of an expression on a group of rows. What is no aggregate is read from the first. -/
def Expr.evalGroup (group : List Row) : Expr → Except QueryError Value
  | .upper e => (e.evalGroup group).map Value.upper
  | .trim e => (e.evalGroup group).map Value.trim
  | .length e => (e.evalGroup group).map Value.length
  | .call name args =>
    match Aggregate.ofName? name with
    | some a => do a.apply (← group.mapM (Expr.aggregated args))
    | none => do ScalarFunction.call name (← Expr.evalGroupAll group args)
  | e => e.evalFirst group

def Expr.evalGroupAll (group : List Row) : List Expr → Except QueryError (List Value)
  | [] => .ok []
  | e :: rest => do
    let v ← e.evalGroup group
    let values ← Expr.evalGroupAll group rest
    return v :: values

end

end EntitySearch
