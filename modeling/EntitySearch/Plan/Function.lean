import EntitySearch.Keyed
import EntitySearch.Text.LetterCase

/-! The functions that expressions can call, by their names in any letter case. -/

set_option autoImplicit false

namespace EntitySearch

inductive Aggregate
  | count
  | sum
  | avg
  | min
  | max
  deriving DecidableEq, Repr

inductive ScalarFunction
  | upper
  | lower
  | trim
  | length
  | concat
  | coalesce
  | abs
  deriving DecidableEq, Repr

def Aggregate.names : Keyed Aggregate :=
  [("count", .count), ("sum", .sum), ("avg", .avg), ("min", .min), ("max", .max)]

def Aggregate.ofName? (name : String) : Option Aggregate :=
  Keyed.find? names (Text.asciiLower name)

def ScalarFunction.names : Keyed ScalarFunction :=
  [("upper", .upper), ("lower", .lower), ("trim", .trim), ("length", .length),
    ("concat", .concat), ("coalesce", .coalesce), ("abs", .abs)]

def ScalarFunction.ofName? (name : String) : Option ScalarFunction :=
  Keyed.find? names (Text.asciiLower name)

def isAggregate (name : String) : Bool :=
  (Aggregate.ofName? name).isSome

end EntitySearch
