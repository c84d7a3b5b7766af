import EntitySearch.Coercion
import EntitySearch.Compile.Path

/-! Paging by a cursor.

A page behind a cursor is ordered by the field of the cursor and then by the
identifier. It starts after the value of the cursor, or, when the cursor names
an identifier, also after that identifier among the rows with that value.
-/

set_option autoImplicit false

namespace EntitySearch.Keyset

def after : Direction → CompareOp
  | .asc => .gt
  | .desc => .lt

def reading : Direction → Reading
  | .asc => .verbatim .gt
  | .desc => .verbatim .lt

def readValue (settings : CompilerSettings) (cursor : Cursor) (r : Resolved) (raw : Json) : Value :=
  Coercion.readOrKeep settings.dates (reading cursor.direction) r.type raw

def predicate (settings : CompilerSettings) (cursor : Cursor) : Resolve Predicate := do
  let field ← Resolve.resolve cursor.field
  let value := readValue settings cursor field cursor.value
  let op := after cursor.direction
  let behind := Predicate.compareTo op field.expr value
  match cursor.idValue.filter fun raw => !raw.isNull with
  | none => return behind
  | some raw =>
    let id ← Resolve.resolve (← get).identifier
    let idValue := readValue settings cursor id raw
    return .or
      [behind, .and [.compareTo .eq field.expr value, .compareTo op id.expr idValue]]

/-- The order of the field of a cursor and of the identifier, which stands once. -/
def order (cursor : Cursor) : Resolve (List OrderTerm) := do
  let field ← Resolve.resolve cursor.field
  let id ← Resolve.resolve (← get).identifier
  let first : OrderTerm := ⟨field.expr, cursor.direction⟩
  if field.field = id.field then return [first]
  return [first, ⟨id.expr, cursor.direction⟩]

def both (settings : CompilerSettings) (cursor : Cursor) :
    Resolve (Predicate × List OrderTerm) := do
  let p ← predicate settings cursor
  let terms ← order cursor
  return (p, terms)

end EntitySearch.Keyset
