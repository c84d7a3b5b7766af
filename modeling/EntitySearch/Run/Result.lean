import EntitySearch.Value.Text

/-! Results of searches. -/

set_option autoImplicit false

namespace EntitySearch

inductive ResultSet
  | entities (records : List Record)
  | rows (records : List Record)
  | count (n : Nat)

namespace ResultSet

def records : ResultSet → List Record
  | .entities records | .rows records => records
  | .count _ => []

def size : ResultSet → Nat
  | .entities records | .rows records => records.length
  | .count n => n

def takeFirst : ResultSet → ResultSet
  | .entities records => .entities (records.take 1)
  | .rows records => .rows (records.take 1)
  | .count n => .count n

def kind : ResultSet → String
  | .entities _ => "entities"
  | .rows _ => "rows"
  | .count _ => "count"

def data : ResultSet → Json
  | .entities records | .rows records =>
    .array (records.map fun r => (Value.object r).toJson)
  | .count n => .int n

def toJson (r : ResultSet) : Json :=
  .object [("kind", .string r.kind), ("data", r.data)]

end ResultSet

end EntitySearch
