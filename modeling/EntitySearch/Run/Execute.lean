import EntitySearch.Run.Evaluate
import EntitySearch.Run.Result

/-! Running plans on tables of records.

Rows are joined, restricted, grouped, sorted, projected, freed of repetitions
and cut to a page, in this order.
-/

set_option autoImplicit false

namespace EntitySearch

abbrev Tables : Type := Keyed (List Record)

namespace Tables

def records (tables : Tables) (entity : String) : List Record :=
  (Keyed.find? tables entity).getD []

def insert (tables : Tables) (entity : String) (r : Record) : Tables :=
  Keyed.put tables entity (tables.records entity ++ [r])

end Tables

/-- Put an element behind all that are not after it. The list is sorted from the last to the
first. -/
def insertSorted {α : Type} (before : α → α → Bool) (x : α) : List α → List α
  | [] => [x]
  | y :: rest => if before x y then y :: insertSorted before x rest else x :: y :: rest

/-- Sort by insertion; elements that tie keep their order. Runs of plans sort by `sortBy`, which does
so only where the outcome is sure. -/
def stableSort {α : Type} (before : α → α → Bool) (xs : List α) : List α :=
  (xs.foldl (fun done x => insertSorted before x done) []).reverse

/-- Whether elements compare as the numbers of elements before them do. -/
def isRanked {α : Type} (before : α → α → Bool) (xs : List α) : Bool :=
  let ranked := xs.map fun x => (x, xs.countP fun y => before y x)
  ranked.all fun a => ranked.all fun b => before a.1 b.1 == decide (a.2 < b.2)

/-- Up to this length a list is sorted by insertion, whatever the comparison. -/
def insertionLimit : Nat := 20

/-- Sort. For a longer list the comparison has to rank the elements: otherwise sorting may stop the
program or leave them in any order, and there is no result to rely on. -/
def sortBy {α : Type} (before : α → α → Bool) (xs : List α) : Except QueryError (List α) :=
  if xs.length ≤ insertionLimit || isRanked before xs then .ok (stableSort before xs)
  else .error (.execution .unspecifiedOrder)

def keepFirst {α : Type} (repeats : α → α → Bool) : List α → List α → List α
  | kept, [] => kept
  | kept, x :: rest =>
    if kept.any fun k => repeats k x then keepFirst repeats kept rest
    else keepFirst repeats (kept ++ [x]) rest

def Direction.orient (d : Direction) (o : Ordering) : Ordering :=
  match d with
  | .asc => o
  | .desc => o.swap

namespace Plan

def keeps (p : Plan) (row : Row) : Except QueryError Bool :=
  match p.restriction with
  | none => .ok true
  | some r => (r.eval row).map (· == some true)

def joinedRows (p : Plan) (roots : List Record) : List Row :=
  Row.expand p.joins (roots.map fun root => ⟨root, []⟩)

def matchedRows (p : Plan) (roots : List Record) : Except QueryError (List Row) :=
  (p.joinedRows roots).filterM p.keeps

def idOf (p : Plan) (r : Record) : Value :=
  (Keyed.find? r p.identifier).getD .null

def countRows (p : Plan) (distinct : Bool) (rows : List Row) : Nat :=
  if distinct then (keepFirst Value.equals [] (rows.map fun row => p.idOf row.root)).length
  else rows.length

structure Group where
  key : List Value
  rows : List Row

def sameKey (a b : List Value) : Bool :=
  a.length == b.length && (a.zip b).all fun (x, y) => x.equals y

/-- Put a row into the first group with its key, or into a new one behind all others. -/
def addToGroups (key : List Value) (row : Row) : List Group → List Group
  | [] => [⟨key, [row]⟩]
  | g :: rest =>
    if sameKey g.key key then { g with rows := g.rows ++ [row] } :: rest
    else g :: addToGroups key row rest

def groups (keys : List Expr) (rows : List Row) : Except QueryError (List Group) :=
  rows.foldlM (fun done row => do return addToGroups (← Expr.evalAll row keys) row done) []

/-- The groups that make up the result: one row each, or by the keys of grouping, or all rows
together. -/
def units (p : Plan) (rows : List Row) : Except QueryError (List (List Row)) :=
  if !p.isGrouped then .ok (rows.map ([·]))
  else if p.groupBy.isEmpty then .ok [rows]
  else do return (← groups p.groupBy rows).map Group.rows

/-- The order of two keys; the first term that tells them apart decides. -/
def compareKeys : List OrderTerm → List Value → List Value → Ordering
  | t :: terms, a :: as, b :: bs =>
    match t.direction.orient (a.sortOrder b) with
    | .eq => compareKeys terms as bs
    | o => o
  | _, _, _ => .eq

def sortKey (p : Plan) (unit : List Row) : Except QueryError (List Value) :=
  Expr.evalGroupAll unit (p.orderBy.map OrderTerm.expr)

def sortUnits (p : Plan) (units : List (List Row)) : Except QueryError (List (List Row)) := do
  let keyed ← units.mapM fun unit => do return (← p.sortKey unit, unit)
  let before := fun (a b : List Value × List Row) => compareKeys p.orderBy a.1 b.1 == .lt
  return (← sortBy before keyed).map (·.2)

def selectValues (unit : List Row) : Nat → List Selection → Except QueryError (Keyed Value)
  | _, [] => .ok []
  | position, s :: rest => do
    let v ← s.expr.evalGroup unit
    let others ← selectValues unit (position + 1) rest
    return (s.key position, v) :: others

def project (p : Plan) (unit : List Row) : Except QueryError Record :=
  match p.projection with
  | .columns selections => do return Keyed.ofEntries (← selectValues unit 0 selections)
  | _ => .ok (unit.head?.elim [] Row.root)

/-- Records are the same entity by their identifiers, if both have one. -/
def sameEntity (p : Plan) (a b : Record) : Bool :=
  match Keyed.find? a p.identifier, Keyed.find? b p.identifier with
  | some a, some b => a.equals b
  | _, _ => Value.sameRecord a b

def repeats (p : Plan) (a b : Record) : Bool :=
  if p.projection.isTuple then Value.sameRecord a b else p.sameEntity a b

def dedupe (p : Plan) (records : List Record) : List Record :=
  if p.distinct then keepFirst p.repeats [] records else records

def page (p : Plan) (records : List Record) : List Record :=
  let rest := records.drop (p.offset.getD 0)
  match p.limit with
  | some n => rest.take n
  | none => rest

def fetch (p : Plan) (rows : List Row) : Except QueryError (List Record) := do
  let units ← p.units rows
  let sorted ← p.sortUnits units
  let records ← sorted.mapM p.project
  return p.page (p.dedupe records)

def execute (p : Plan) (tables : Tables) : Except QueryError ResultSet := do
  let rows ← p.matchedRows (tables.records p.root)
  match p.projection with
  | .count distinct => return .count (p.countRows distinct rows)
  | .columns _ => return .rows (← p.fetch rows)
  | .entity => return .entities (← p.fetch rows)

def count (p : Plan) (tables : Tables) : Except QueryError Nat := do
  return (← p.execute tables).size

end Plan

end EntitySearch
