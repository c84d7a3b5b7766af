import EntitySearch.Compile.Path
import EntitySearch.Text.Pattern

/-! Orders as terms of a plan.

An order key is a path and, behind a colon, words for functions of its value.
The identifier of the root ends every order that does not hold it yet, so that
no two records tie.
-/

set_option autoImplicit false

namespace EntitySearch.Order

/-- The path of an order key, and what stands behind the first colon. -/
def splitKey (key : String) : String × Option String :=
  let cs := key.toList
  let path := Text.trim (String.ofList (cs.takeWhile (· != ':')))
  match cs.dropWhile (· != ':') with
  | [] => (path, none)
  | _ :: functions => (path, some (String.ofList functions))

def mentions (word text : String) : Bool :=
  Text.anySuffix (fun cs => word.toList.isPrefixOf cs) (Text.lowerChars text.toList)

/-- Apply the functions that a text mentions, trimming first. -/
def applyFunctions (functions : String) (e : Expr) : Expr :=
  let trimmed := if mentions "trim" functions then .trim e else e
  if mentions "length" functions then .length trimmed else trimmed

def term (key : String) (direction : Direction) : Resolve OrderTerm := do
  let (path, functions) := splitKey key
  let r ← Resolve.resolve path
  return ⟨functions.elim r.expr fun words => applyFunctions words r.expr, direction⟩

def terms : Keyed Direction → StateM Scope (List OrderTerm)
  | [] => return []
  | (key, direction) :: rest => do
    let first ← (term key direction).outcome
    let others ← terms rest
    return first.toOption.toList ++ others

def isIdentifier (identifier : String) : Expr → Bool
  | .field f => f.source == .root && f.path == [identifier]
  | _ => false

/-- Add the identifier in the direction of the first term, unless the order has it. -/
def stable (terms : List OrderTerm) : Resolve (List OrderTerm) := do
  let identifier := (← get).identifier
  if terms.any fun t => isIdentifier identifier t.expr then return terms
  let id ← Resolve.resolve identifier
  let direction := (terms.head?.map (·.direction)).getD .asc
  return terms ++ [⟨id.expr, direction⟩]

/-- A stable order if there is one, otherwise the terms as they are. -/
def stableOr (terms : List OrderTerm) : StateM Scope (List OrderTerm) := do
  let result ← (stable terms).outcome
  return result.toOption.getD terms

end EntitySearch.Order
