import EntitySearch.Compile.Path

/-! What the rows of a result hold, and how they are grouped. -/

set_option autoImplicit false

namespace EntitySearch.Selecting

/-- An argument of a function: an attribute, or its own name as a text. -/
def argument (reference : String) : StateM Scope Expr := do
  match ← (Resolve.resolve reference).outcome with
  | .ok r => return r.expr
  | .error _ => return .literal (.string reference)

def arguments : List String → StateM Scope (List Expr)
  | [] => return []
  | reference :: rest => do
    let first ← argument reference
    let others ← arguments rest
    return first :: others

/-- The attribute that a function stands for when its only argument is its own name. -/
def ownAttribute (name : String) (spec : FunctionSpec) : StateM Scope (Option Expr) := do
  if spec.single? = some name then
    let result ← (Resolve.resolve name).outcome
    return result.toOption.map Resolved.expr
  return none

def function (name : String) (spec : FunctionSpec) : StateM Scope Selection := do
  match ← ownAttribute name spec with
  | some e => return ⟨e, some name⟩
  | none => return ⟨.call name (← arguments spec.references), some name⟩

def functions : Keyed FunctionSpec → StateM Scope (List Selection)
  | [] => return []
  | (name, spec) :: rest => do
    let first ← function name spec
    let others ← functions rest
    return first :: others

def columns : List String → StateM Scope (List Selection)
  | [] => return []
  | column :: rest => do
    let first ← (Resolve.resolve column).outcome
    let others ← columns rest
    return (first.toOption.map fun r => ⟨r.expr, some column⟩).toList ++ others

/-- Functions come before columns; without any column that resolves, the entity is selected. -/
def projection (c : Criteria) : StateM Scope Projection := do
  if !c.functions.isEmpty then return .columns (← functions c.functions)
  let selections ← columns c.columns
  return if selections.isEmpty then .entity else .columns selections

def groupBy : List String → StateM Scope (List Expr)
  | [] => return []
  | path :: rest => do
    if Text.isBlankText path then groupBy rest
    else
      let first ← (Resolve.resolve path).outcome
      let others ← groupBy rest
      return (first.toOption.map Resolved.expr).toList ++ others

end EntitySearch.Selecting
