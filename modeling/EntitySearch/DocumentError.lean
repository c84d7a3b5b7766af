import EntitySearch.Condition.Comparator
import EntitySearch.Json.Writer

/-! Errors in search documents. -/

set_option autoImplicit false

namespace EntitySearch

inductive ValueCount
  | zero
  | oneOrMore
  | two
  | twoOrMore
  /-- Two values after leaving out nulls. -/
  | twoPresent
  deriving DecidableEq, Repr

namespace ValueCount

def allows : ValueCount → Nat → Bool
  | .zero, n => n == 0
  | .oneOrMore, n => 1 ≤ n
  | .two, n | .twoPresent, n => n == 2
  | .twoOrMore, n => 2 ≤ n

def text : ValueCount → String
  | .zero => "no"
  | .oneOrMore => "at least 1"
  | .two => "exactly 2"
  | .twoOrMore => "at least 2"
  | .twoPresent => "exactly 2 non-null"

end ValueCount

inductive ConditionFault
  | comparatorNotText (found : Json)
  | flagNotBool (flag : String) (found : Json)
  | valuesNotLiteral (comparator : Comparator) (field : String)
  | noPresentValue (comparator : Comparator) (field : String)
  | caseWithoutBranch (field : String)

def ConditionFault.message : ConditionFault → String
  | .comparatorNotText found => "comparator must be a string, got " ++ found.text
  | .flagNotBool flag found => flag ++ " must be a boolean, got " ++ found.text
  | .valuesNotLiteral comparator field =>
    comparator.name ++ " on '" ++ field ++ "' expects literal values"
  | .noPresentValue comparator field =>
    comparator.name ++ " on '" ++ field ++ "' has no non-null values"
  | .caseWithoutBranch field => "CASE on '" ++ field ++ "' has no WHEN branch"

inductive SeekPart
  | field
  | direction
  | value
  deriving DecidableEq, Repr

def SeekPart.name : SeekPart → String
  | .field => "cursorField"
  | .direction => "cursorDirection"
  | .value => "cursorValue"

inductive DocumentError
  /-- The text is no document of the expected form. -/
  | unreadable
  | wrongCount (comparator : Comparator) (expected : ValueCount) (actual : Nat)
  | invalidCondition (fault : ConditionFault)
  | incompleteSeek (missing : SeekPart)

def DocumentError.message : DocumentError → String
  | .unreadable => "deserialization error"
  | .wrongCount comparator expected actual =>
    comparator.name ++ " expects " ++ expected.text ++ " value(s), got " ++ Number.intText actual
  | .invalidCondition fault => "invalid condition: " ++ fault.message
  | .incompleteSeek missing => "seek pagination requires " ++ missing.name

end EntitySearch
