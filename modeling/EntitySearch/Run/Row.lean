import EntitySearch.Plan.Basic

/-! Rows of joined records.

A relation to one record is an object within the record; a relation to many is
a list of objects.
-/

set_option autoImplicit false

namespace EntitySearch

structure Row where
  root : Record
  /-- The records bound by the joins, in the order of the plan. -/
  joined : List Record := []

/-- The attribute at the end of a path through embedded objects; null where there is none. -/
def Record.read (r : Record) : List String → Value
  | [] => .null
  | [last] => (Keyed.find? r last).getD .null
  | hop :: rest =>
    match Keyed.find? r hop with
    | some (.object nested) => Record.read nested rest
    | _ => .null

namespace Row

def source? (row : Row) : RowSource → Option Record
  | .root => some row.root
  | .join index => row.joined[index]?

def field (row : Row) (f : FieldRef) : Value :=
  (row.source? f.source).elim .null fun r => r.read f.path

def bind (row : Row) (r : Record) : Row :=
  { row with joined := row.joined ++ [r] }

end Row

def Value.related : Value → List Record
  | .object fields => [fields]
  | .list items => items.filterMap Value.asObject?
  | _ => []

def Join.targets (j : Join) (row : Row) : List Record :=
  (row.source? j.parent).elim [] fun r => (r.read j.path).related

/-- Bind the joins in turn, in every way. -/
def Row.expand (joins : List Join) (rows : List Row) : List Row :=
  joins.foldl (fun rows j => rows.flatMap fun row => (j.targets row).map row.bind) rows

end EntitySearch
