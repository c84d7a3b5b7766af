import EntitySearch.DocumentError
import EntitySearch.Schema.Basic

/-! Errors of compiling and running searches. -/

set_option autoImplicit false

namespace EntitySearch

inductive PathFault
  | emptySegment
  | notNavigable (segment : String) (type : FieldType)

def PathFault.message : PathFault → String
  | .emptySegment => "empty path segment"
  | .notNavigable segment type => "'" ++ segment ++ "' is a " ++ type.text ++ " attribute"

inductive ExecutionFault
  | aggregateOutsideGroup (name : String)
  | sumTooLarge
  /-- Sorting by keys without a total order. No answer holds it: the program may stop, or go on with
  the keys in any order. -/
  | unspecifiedOrder

def ExecutionFault.message : ExecutionFault → String
  | .aggregateOutsideGroup name => "aggregate " ++ name ++ " used outside a grouped query"
  | .sumTooLarge => "decimal sum overflows"
  | .unspecifiedOrder => "the keys have no total order"

inductive QueryError
  | document (e : DocumentError)
  | unknownEntity (name : String)
  | unknownAttribute (entity name : String)
  | unresolvable (path : String) (fault : PathFault)
  | uncoercible (text : String) (target : FieldType)
  | unsupportedComparator (comparator : Comparator) (field : String) (type : FieldType)
  | unsupportedFunction (name : String)
  | invalidSchema (fault : SchemaFault)
  | execution (fault : ExecutionFault)

def QueryError.message : QueryError → String
  | .document e => "protocol error: " ++ e.message
  | .unknownEntity name => "unknown entity: " ++ name
  | .unknownAttribute entity name => "unknown attribute '" ++ name ++ "' on " ++ entity
  | .unresolvable path fault => "cannot resolve '" ++ path ++ "': " ++ fault.message
  | .uncoercible text target => "cannot coerce '" ++ text ++ "' to " ++ target.text
  | .unsupportedComparator comparator field type =>
    comparator.name ++ " is not supported on " ++ field ++ " (" ++ type.text ++ ")"
  | .unsupportedFunction name => "unsupported function: " ++ name
  | .invalidSchema fault => "invalid schema: " ++ fault.message
  | .execution fault => "execution error: " ++ fault.message

theorem bind_ok_inv {α β ε : Type} {x : Except ε α} {f : α → Except ε β} {b : β}
    (h : (x >>= f) = .ok b) : ∃ a, x = .ok a ∧ f a = .ok b := by
  cases x with
  | error e => cases h
  | ok a => exact ⟨a, rfl, h⟩

theorem ok_bind {α β ε : Type} (a : α) (f : α → Except ε β) : (.ok a >>= f) = f a := rfl

end EntitySearch
