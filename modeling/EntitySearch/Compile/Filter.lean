import EntitySearch.Coercion
import EntitySearch.Compile.Path
import EntitySearch.Text.Pattern

/-! Filters as predicates.

A condition that compares an attribute becomes a predicate on its column.
Conjunctions, disjunctions and cases combine the predicates of their operands: a
nested condition applies to the same attribute, a map of fields to the
attributes it names, and a bare literal is short for equality, an array for
membership.
-/

set_option autoImplicit false

namespace EntitySearch

/-- What the operands of a condition see of it. -/
structure Condition.Head where
  comparator : Comparator
  trim : Bool
  upper : Bool
  deriving DecidableEq, Repr

def Condition.head (c : Condition) : Condition.Head := ⟨c.comparator, c.trim, c.upper⟩

namespace Filter

mutual

def flatten : Json → List Json
  | .array items => flattenItems items
  | raw => [raw]

def flattenItems : List Json → List Json
  | [] => []
  | item :: rest => flatten item ++ flattenItems rest

end

def isNullLiteral : Json → Bool
  | .null => true
  | .string s => Text.sameWord (Text.trim s) "null"
  | _ => false

def present (raw : Json) : List Json :=
  (flatten raw).filter fun item => !isNullLiteral item

def connect (comparator : Comparator) (parts : List Predicate) : Predicate :=
  if comparator = .or then .any parts else .all parts

/-- What a map of fields says; one without fields always holds. -/
def connectMap (comparator : Comparator) (parts : List Predicate) : Predicate :=
  if parts.isEmpty then .and [] else connect comparator parts

def unsupported (c : Comparator) (field : String) (type : FieldType) : QueryError :=
  .unsupportedComparator c field type

def invalid (fault : ConditionFault) : QueryError :=
  .document (.invalidCondition fault)

def column (r : Resolved) (c : Condition) : Expr :=
  if r.type.isTextual then
    let trimmed := if c.trim then .trim r.expr else r.expr
    if c.upper then .upper trimmed else trimmed
  else r.expr

def orderOp : Comparator → CompareOp
  | .gt => .gt
  | .ge => .ge
  | .lt => .lt
  | _ => .le

def operandValues (settings : CompilerSettings) (field : String) (type : FieldType)
    (c : Condition) (index : Nat) : Operand → Except QueryError (List Value)
  | .literal raw =>
    .ok ((present raw).map (Coercion.readOrKeep settings.dates (.ofCondition c index) type))
  | _ => .error (invalid (.valuesNotLiteral c.comparator field))

def literalValues (settings : CompilerSettings) (field : String) (type : FieldType)
    (c : Condition) : Except QueryError (List Value) := do
  let values ← c.values.zipIdx.mapM fun (operand, index) =>
    operandValues settings field type c index operand
  return values.flatten

def compareValues (r : Resolved) (c : Condition) (values : List Value) :
    Except QueryError Predicate :=
  let column := column r c
  match c.comparator with
  | .ne =>
    match values with
    | [] => .ok (.isNotNull r.expr)
    | [value] => .ok (.compareTo .ne column value)
    | values => .ok (.isIn column values true)
  | .gt | .ge | .lt | .le =>
    match values with
    | [] => .ok (.isNull r.expr)
    | value :: _ =>
      .ok (.compareTo (if value.isComparable then orderOp c.comparator else .eq) column value)
  | .isIn => .ok (if values.isEmpty then .isNull r.expr else .isIn column values false)
  | .notIn => .ok (if values.isEmpty then .isNotNull r.expr else .isIn column values true)
  | .between =>
    match values with
    | [low, high] => .ok (.between column low high)
    | _ => .error (.document (.wrongCount .between .twoPresent values.length))
  | _ =>
    match values with
    | [] => .ok (.isNull r.expr)
    | value :: _ => .ok (.compareTo .eq column value)

/-- A condition that looks at its attribute alone. -/
def plain (settings : CompilerSettings) (field : String) (r : Resolved) (c : Condition) :
    Except QueryError Predicate :=
  match c.comparator with
  | .isNull => .ok (.isNull r.expr)
  | .isNotNull => .ok (.isNotNull r.expr)
  | .isEmpty =>
    if r.type.isToMany then .ok (.isEmpty r.expr) else .error (unsupported .isEmpty field r.type)
  | .isNotEmpty =>
    if r.type.isToMany then .ok (.isNotEmpty r.expr)
    else .error (unsupported .isNotEmpty field r.type)
  | _ => do
    let values ← literalValues settings field r.type c
    compareValues r c values

def patternFor (comparator : Comparator) (escaped : String) : String :=
  match comparator with
  | .like => "%" ++ escaped ++ "%"
  | .endsWith => "%" ++ escaped
  | _ => escaped ++ "%"

def isNegated (comparator : Comparator) (enclosing : Option Comparator) : Bool :=
  match comparator with
  | .notLike => true
  | .startsWith | .endsWith => enclosing == some .notLike
  | _ => false

def negateIf (negated : Bool) (p : Predicate) : Predicate :=
  if negated then .not p else p

def searchText : Json → String
  | .string s => s
  | raw => raw.text

def search (settings : CompilerSettings) (r : Resolved) (c : Condition)
    (enclosing : Option Comparator) (index : Nat) (raw : Json) : Predicate :=
  let column := if c.upper then .upper r.expr else r.expr
  let text := (Reading.ofCondition c index).normalize (searchText raw)
  let escaped := Text.escapePattern text settings.likeEscape
  negateIf (isNegated c.comparator enclosing)
    (.like column (patternFor c.comparator escaped) settings.likeEscape)

/-- The first and the last moment of the day that a value falls on. An instant whose local time is
out of range has neither. Only for such an instant is this no answer to rely on: where the
comparator counts as unsupported here, asking for the date may stop the program. -/
def dayBounds? (settings : DateSettings) : Value → Option (Value × Value)
  | .timestamp t => do
    let shown ← t.toLocal? settings.offset
    let first ← Instant.ofLocal? settings.offset ⟨shown.date, .midnight⟩
    let last ← Instant.ofLocal? settings.offset ⟨shown.date, .lastOfDay⟩
    return (.timestamp first, .timestamp last)
  | .dateTime t => some (.dateTime ⟨t.date, .midnight⟩, .dateTime ⟨t.date, .lastOfDay⟩)
  | .date d => some (.date d, .date d)
  | _ => none

def dayRange (settings : CompilerSettings) (field : String) (r : Resolved)
    (comparator : Comparator) (enclosing : Option Comparator) (raw : Json) :
    Except QueryError Predicate := do
  let value ← Coercion.read settings.dates (.verbatim .startsWith) r.type raw
  match dayBounds? settings.dates value with
  | some (low, high) =>
    return negateIf (isNegated comparator enclosing) (.between r.expr low high)
  | none => throw (unsupported comparator field r.type)

def searchLiteral (settings : CompilerSettings) (field : String) (r : Resolved) (c : Condition)
    (enclosing : Option Comparator) (index : Nat) (raw : Json) :
    Except QueryError (List Predicate) :=
  if c.comparator = .startsWith ∧ r.type.isTemporal then
    (present raw).mapM (dayRange settings field r c.comparator enclosing)
  else .ok ((present raw).map (search settings r c enclosing index))

def checkSearch (field : String) (type : FieldType) (comparator : Comparator) :
    Except QueryError Unit :=
  if type.isTextual || (comparator == .startsWith && type.isTemporal) then .ok ()
  else .error (unsupported comparator field type)

/-- The condition that a bare literal is short for. -/
def shorthand (head : Condition.Head) : Json → Condition
  | .array items => ⟨.isIn, items.map .literal, head.trim, head.upper⟩
  | raw => ⟨.eq, [.literal raw], head.trim, head.upper⟩

def checked (c : Condition) : Resolve Unit :=
  Resolve.ofExcept (c.validate.mapError .document)

def ofLiteral (settings : CompilerSettings) (head : Condition.Head) (field : String)
    (raw : Json) : Resolve Predicate := do
  let c := shorthand head raw
  checked c
  let r ← Resolve.resolve field
  Resolve.ofExcept (plain settings field r c)

/-- The predicates of a case: those that select it and those that apply otherwise. -/
structure Branches where
  guards : List Predicate := []
  otherwise : List Predicate := []

namespace Branches

def append (a b : Branches) : Branches :=
  ⟨a.guards ++ b.guards, a.otherwise ++ b.otherwise⟩

def one (comparator : Option Comparator) (p : Predicate) : Branches :=
  if comparator = some .otherwise then ⟨[], [p]⟩ else ⟨[p], []⟩

end Branches

def comparator? : Operand → Option Comparator
  | .condition c => some c.comparator
  | _ => none

def ofBranches (field : String) (result : Expr) (branches : Branches) :
    Except QueryError Predicate :=
  if branches.guards.isEmpty then .error (invalid (.caseWithoutBranch field))
  else
    let otherwise := if branches.otherwise.isEmpty then none
      else some (.truth (.all branches.otherwise))
    .ok (.isTrue (.case (.all branches.guards) result otherwise))

mutual

/-- Compile a condition on an attribute; `enclosing` is the comparator around it. -/
def ofCondition (settings : CompilerSettings) (field : String) (enclosing : Option Comparator)
    (c : Condition) : Resolve Predicate :=
  match c with
  | ⟨comparator, values, trim, upper⟩ => do
    let c : Condition := ⟨comparator, values, trim, upper⟩
    let head : Condition.Head := ⟨comparator, trim, upper⟩
    checked c
    match comparator with
    | .and | .or =>
      let parts ← ofOperands settings field head values
      return connect comparator parts
    | .case =>
      match values with
      | [] => throw (invalid (.valuesNotLiteral .case field))
      | result :: branches =>
        let result ← ofResult settings field head result
        let branches ← ofBranchOperands settings field head branches
        Resolve.ofExcept (ofBranches field result branches)
    | .like | .startsWith | .endsWith | .notLike =>
      let r ← Resolve.resolve field
      Resolve.ofExcept (checkSearch field r.type comparator)
      let parts ←
        ofSearchOperands settings field head (searchLiteral settings field r c enclosing) 0 values
      if parts.isEmpty then throw (invalid (.noPresentValue comparator field))
      return connect (enclosing.getD .and) parts
    | _ =>
      let r ← Resolve.resolve field
      Resolve.ofExcept (plain settings field r c)

/-- Compile the operands of a conjunction or disjunction; an empty map adds nothing. -/
def ofOperands (settings : CompilerSettings) (field : String) (head : Condition.Head) :
    List Operand → Resolve (List Predicate)
  | [] => return []
  | operand :: rest => do
    let part ←
      match operand with
      | .condition c => pure [← ofCondition settings field (some head.comparator) c]
      | .literal raw => pure [← ofLiteral settings head field raw]
      | .fields entries =>
        let parts ← ofEntries settings head entries
        pure (if parts.isEmpty then [] else [connect head.comparator parts])
    let parts ← ofOperands settings field head rest
    return part ++ parts

/-- Compile the operands of a search; a literal makes predicates by its own rule. -/
def ofSearchOperands (settings : CompilerSettings) (field : String) (head : Condition.Head)
    (literal : Nat → Json → Except QueryError (List Predicate)) (index : Nat) :
    List Operand → Resolve (List Predicate)
  | [] => return []
  | operand :: rest => do
    let part ←
      match operand with
      | .condition c => pure [← ofCondition settings field (some head.comparator) c]
      | .literal raw => Resolve.ofExcept (literal index raw)
      | .fields entries => ofEntries settings head entries
    let parts ← ofSearchOperands settings field head literal (index + 1) rest
    return part ++ parts

def ofResult (settings : CompilerSettings) (field : String) (head : Condition.Head) :
    Operand → Resolve Expr
  | .literal raw => return .literal (.ofJson raw)
  | .condition c => do return .truth (← ofCondition settings field (some head.comparator) c)
  | .fields entries => do
    return .truth (connectMap head.comparator (← ofEntries settings head entries))

def ofBranchOperands (settings : CompilerSettings) (field : String) (head : Condition.Head) :
    List Operand → Resolve Branches
  | [] => return {}
  | operand :: rest => do
    let branch ←
      match operand with
      | .condition c =>
        let p ← ofCondition settings field (some head.comparator) c
        pure (.one (some c.comparator) p)
      | .literal raw => pure (.one none (← ofLiteral settings head field raw))
      | .fields entries => ofBranchEntries settings head entries
    let branches ← ofBranchOperands settings field head rest
    return branch.append branches

def ofBranchEntries (settings : CompilerSettings) (head : Condition.Head) :
    List (String × Operand) → Resolve Branches
  | [] => return {}
  | (field, operand) :: rest => do
    let p ← ofEntry settings head field operand
    let branches ← ofBranchEntries settings head rest
    return (Branches.one (comparator? operand) p).append branches

def ofEntry (settings : CompilerSettings) (head : Condition.Head) (field : String) :
    Operand → Resolve Predicate
  | .condition c => ofCondition settings field (some head.comparator) c
  | .literal raw => ofLiteral settings head field raw
  | .fields entries => do return connectMap head.comparator (← ofEntries settings head entries)

def ofEntries (settings : CompilerSettings) (head : Condition.Head) :
    List (String × Operand) → Resolve (List Predicate)
  | [] => return []
  | (field, operand) :: rest => do
    let p ← ofEntry settings head field operand
    let parts ← ofEntries settings head rest
    return p :: parts

end

end Filter

end EntitySearch
