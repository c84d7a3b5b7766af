import EntitySearch.Plan.Function
import EntitySearch.QueryError
import EntitySearch.Value.Order
import EntitySearch.Value.Text

/-! What functions and aggregates compute.

Aggregates pass over nulls. A sum of whole numbers is whole as long as no
partial sum leaves 64 bits, and a decimal otherwise.
-/

set_option autoImplicit false

namespace EntitySearch

namespace Value

def upper : Value → Value
  | .string s => .string (Text.upper s)
  | v => v

def lower : Value → Value
  | .string s => .string (Text.lower s)
  | v => v

def trim : Value → Value
  | .string s => .string (Text.trim s)
  | v => v

def length : Value → Value
  | .null => .null
  | v => .int v.text.length

def abs : Value → Value
  | .int i => .int i.natAbs
  | .float x => .float x.abs
  | .decimal d => .decimal d.abs
  | v => v

end Value

namespace ScalarFunction

/-- Functions of one value read their first argument; a missing one is null. -/
def apply (f : ScalarFunction) (args : List Value) : Value :=
  let first := args.headD .null
  match f with
  | .upper => first.upper
  | .lower => first.lower
  | .trim => first.trim
  | .length => first.length
  | .concat => if args.any Value.isNull then .null else .string (String.join (args.map Value.text))
  | .coalesce => (args.find? fun v => !v.isNull).getD .null
  | .abs => first.abs

def call (name : String) (args : List Value) : Except QueryError Value :=
  match ofName? name with
  | some f => .ok (f.apply args)
  | none => .error (.unsupportedFunction name)

end ScalarFunction

namespace Aggregate

/-- The sum of whole numbers, if no partial sum leaves 64 bits. -/
def wholeSum? (total : Int) : List Int → Option Int
  | [] => some total
  | i :: rest => do wholeSum? (← Number.int64? (total + i)) rest

def decimalSum (total : Decimal) : List Value → Except QueryError (Option Decimal)
  | [] => .ok (some total)
  | v :: rest =>
    match v.asDecimal? with
    | none => .ok none
    | some d =>
      match total.add? d with
      | none => .error (.execution .sumTooLarge)
      | some total => decimalSum total rest

-- Minus zero is the one start that changes no sum.
def doubleSum (values : List Value) : Float :=
  (values.filterMap Value.asFloat?).foldl (· + ·) (-0.0)

def isDecimal : Value → Bool
  | .decimal _ => true
  | _ => false

/-- The sum of values that are not null; null when there is none. -/
def total (values : List Value) : Except QueryError Value :=
  if values.isEmpty then .ok .null
  else
    let whole := values.mapM Value.asInt?
    match whole.bind (wholeSum? 0) with
    | some i => .ok (.int i)
    -- Whole numbers come here only when their sum left 64 bits.
    | none =>
      if whole.isSome || values.any isDecimal then do
        return (← decimalSum .zero values).elim .null .decimal
      else .ok (.float (doubleSum values))

def divide (count : Nat) : Value → Value
  | .int total => .float (Number.floatOfInt total / Number.floatOfNat count)
  | .decimal total => .decimal (total.divNat count)
  | .float total => .float (total / Number.floatOfNat count)
  | _ => .null

/-- Of two values the later one in the order, the second if they tie. -/
def later (a b : Value) : Value :=
  if a.sortOrder b = .gt then a else b

/-- Of two values the earlier one in the order, the first if they tie. -/
def earlier (a b : Value) : Value :=
  if a.sortOrder b = .gt then b else a

def fold (choose : Value → Value → Value) : List Value → Value
  | [] => .null
  | v :: rest => rest.foldl choose v

def apply (a : Aggregate) (values : List Value) : Except QueryError Value :=
  let present := values.filter fun v => !v.isNull
  match a with
  | .count => .ok (.int present.length)
  | .sum => total present
  | .avg => (total present).map (divide present.length)
  | .min => .ok (fold earlier present)
  | .max => .ok (fold later present)

end Aggregate

end EntitySearch
