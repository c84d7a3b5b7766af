import EntitySearch.Plan.Basic
import EntitySearch.Run.Evaluate

/-! Other numbers for joins.

Plans read joined records by the numbers of their joins. With other numbers, an
expression reads from a row what it read before from a row that holds the same
records under the old ones.
-/

set_option autoImplicit false

namespace EntitySearch

class Numbered (α : Type) where
  renumber : (Nat → Nat) → α → α

open Numbered (renumber)

namespace RowSource

def renumber (f : Nat → Nat) : RowSource → RowSource
  | .root => .root
  | .join index => .join (f index)

instance : Numbered RowSource := ⟨renumber⟩

end RowSource

def FieldRef.renumber (f : Nat → Nat) (r : FieldRef) : FieldRef :=
  { r with source := r.source.renumber f }

instance : Numbered FieldRef := ⟨FieldRef.renumber⟩

instance : Numbered Join :=
  ⟨fun f j => { j with index := f j.index, parent := j.parent.renumber f }⟩

mutual

def Expr.renumber (f : Nat → Nat) : Expr → Expr
  | .field r => .field (r.renumber f)
  | .literal v => .literal v
  | .upper e => .upper (e.renumber f)
  | .trim e => .trim (e.renumber f)
  | .length e => .length (e.renumber f)
  | .call name args => .call name (Expr.renumberAll f args)
  | .case condition result otherwise =>
    .case (condition.renumber f) (result.renumber f)
      (match otherwise with
        | some e => some (e.renumber f)
        | none => none)
  | .truth p => .truth (p.renumber f)

def Expr.renumberAll (f : Nat → Nat) : List Expr → List Expr
  | [] => []
  | e :: rest => e.renumber f :: Expr.renumberAll f rest

def Predicate.renumber (f : Nat → Nat) : Predicate → Predicate
  | .compare op left right => .compare op (left.renumber f) (right.renumber f)
  | .isIn e values negated => .isIn (e.renumber f) values negated
  | .between e low high => .between (e.renumber f) low high
  | .like e pattern escape => .like (e.renumber f) pattern escape
  | .isNull e => .isNull (e.renumber f)
  | .isNotNull e => .isNotNull (e.renumber f)
  | .isEmpty e => .isEmpty (e.renumber f)
  | .isNotEmpty e => .isNotEmpty (e.renumber f)
  | .isTrue e => .isTrue (e.renumber f)
  | .and parts => .and (Predicate.renumberAll f parts)
  | .or parts => .or (Predicate.renumberAll f parts)
  | .not p => .not (p.renumber f)

def Predicate.renumberAll (f : Nat → Nat) : List Predicate → List Predicate
  | [] => []
  | p :: rest => p.renumber f :: Predicate.renumberAll f rest

end

instance : Numbered Expr := ⟨Expr.renumber⟩

instance : Numbered Predicate := ⟨Predicate.renumber⟩

instance {α : Type} [Numbered α] : Numbered (List α) := ⟨fun f => List.map (renumber f)⟩

instance {α : Type} [Numbered α] : Numbered (Option α) := ⟨fun f => Option.map (renumber f)⟩

instance {α β : Type} [Numbered α] [Numbered β] : Numbered (α × β) :=
  ⟨fun f => Prod.map (renumber f) (renumber f)⟩

instance : Numbered OrderTerm := ⟨fun f t => { t with expr := t.expr.renumber f }⟩

instance : Numbered Selection := ⟨fun f s => { s with expr := s.expr.renumber f }⟩

instance : Numbered Projection where
  renumber f
    | .columns selections => .columns (renumber f selections)
    | p => p

section
variable (f : Nat → Nat)

theorem Expr.renumberAll_eq (es : List Expr) : renumberAll f es = es.map (Expr.renumber f) := by
  induction es with
  | nil => rw [renumberAll, List.map_nil]
  | cons e rest ih => rw [renumberAll, ih, List.map_cons]

theorem Predicate.renumberAll_eq (ps : List Predicate) :
    renumberAll f ps = ps.map (Predicate.renumber f) := by
  induction ps with
  | nil => rw [renumberAll, List.map_nil]
  | cons p rest ih => rw [renumberAll, ih, List.map_cons]

theorem Predicate.renumber_all (ps : List Predicate) :
    (Predicate.all ps).renumber f = .all (ps.map (Predicate.renumber f)) := by
  match ps with
  | [] => simp only [all, renumber, renumberAll, List.map_nil]
  | [p] => rfl
  | p :: q :: rest => simp only [all, renumber, renumberAll_eq, List.map_cons]

theorem Predicate.renumber_any (ps : List Predicate) :
    (Predicate.any ps).renumber f = .any (ps.map (Predicate.renumber f)) := by
  match ps with
  | [] => simp only [any, renumber, renumberAll, List.map_nil]
  | [p] => rfl
  | p :: q :: rest => simp only [any, renumber, renumberAll_eq, List.map_cons]

mutual

theorem Expr.hasAggregate_renumber : ∀ e : Expr, (e.renumber f).hasAggregate = e.hasAggregate
  | .field _ | .literal _ | .truth _ => by simp only [Expr.renumber, hasAggregate]
  | .upper e | .trim e | .length e => by
    simp only [Expr.renumber, hasAggregate, Expr.hasAggregate_renumber e]
  | .call name args => by
    simp only [Expr.renumber, hasAggregate, Expr.anyAggregate_renumber args]
  | .case condition result otherwise => by
    cases otherwise with
    | none => simp only [Expr.renumber, hasAggregate, Expr.hasAggregate_renumber result]
    | some e =>
      simp only [Expr.renumber, hasAggregate, Expr.hasAggregate_renumber result,
        Expr.hasAggregate_renumber e]

theorem Expr.anyAggregate_renumber : ∀ es : List Expr,
    anyAggregate (renumberAll f es) = anyAggregate es
  | [] => by rw [renumberAll]
  | e :: rest => by
    simp only [renumberAll, anyAggregate, Expr.hasAggregate_renumber e,
      Expr.anyAggregate_renumber rest]

end

theorem Projection.hasAggregate_renumber (p : Projection) :
    (renumber f p).hasAggregate = p.hasAggregate := by
  cases p with
  | columns selections =>
    show (selections.map _).any _ = selections.any _
    rw [List.any_map]
    congr 1
    funext s
    exact s.expr.hasAggregate_renumber f
  | entity | count => rfl

end

/-- Rows that hold the same records, under other numbers of joins. -/
structure Row.Renumbered (f : Nat → Nat) (row other : Row) : Prop where
  root : other.root = row.root
  joined : ∀ i, other.joined[f i]? = row.joined[i]?

section
variable {f : Nat → Nat} {row other : Row}

theorem Row.Renumbered.source? (h : Row.Renumbered f row other) (s : RowSource) :
    other.source? (s.renumber f) = row.source? s := by
  cases s with
  | root => exact congrArg some h.root
  | join index => exact h.joined index

theorem Row.Renumbered.field (h : Row.Renumbered f row other) (r : FieldRef) :
    other.field (r.renumber f) = row.field r := by
  simp only [Row.field, FieldRef.renumber, h.source?]

mutual

theorem Expr.eval_renumber (h : Row.Renumbered f row other) :
    ∀ e : Expr, (e.renumber f).eval other = e.eval row
  | .field r => by simp only [Expr.renumber, Expr.eval, h.field]
  | .literal v => by simp only [Expr.renumber, Expr.eval]
  | .upper e | .trim e | .length e => by
    simp only [Expr.renumber, Expr.eval, Expr.eval_renumber h e]
  | .call name args => by simp only [Expr.renumber, Expr.eval, Expr.evalAll_renumber h args]
  | .case condition result otherwise => by
    cases otherwise with
    | none =>
      simp only [Expr.renumber, Expr.eval, Predicate.eval_renumber h condition,
        Expr.eval_renumber h result]
    | some e =>
      simp only [Expr.renumber, Expr.eval, Predicate.eval_renumber h condition,
        Expr.eval_renumber h result, Expr.eval_renumber h e]
  | .truth p => by simp only [Expr.renumber, Expr.eval, Predicate.eval_renumber h p]

theorem Expr.evalAll_renumber (h : Row.Renumbered f row other) :
    ∀ es : List Expr, Expr.evalAll other (Expr.renumberAll f es) = Expr.evalAll row es
  | [] => by simp only [Expr.renumberAll, Expr.evalAll]
  | e :: rest => by
    simp only [Expr.renumberAll, Expr.evalAll, Expr.eval_renumber h e, Expr.evalAll_renumber h rest]

theorem Predicate.eval_renumber (h : Row.Renumbered f row other) :
    ∀ p : Predicate, (p.renumber f).eval other = p.eval row
  | .compare op left right => by
    simp only [Predicate.renumber, Predicate.eval, Expr.eval_renumber h left,
      Expr.eval_renumber h right]
  | .isIn e _ _ | .between e _ _ | .like e _ _ | .isNull e | .isNotNull e | .isEmpty e
  | .isNotEmpty e | .isTrue e => by
    simp only [Predicate.renumber, Predicate.eval, Expr.eval_renumber h e]
  | .and parts => by
    simp only [Predicate.renumber, Predicate.eval, Predicate.evalAnd_renumber h parts]
  | .or parts => by
    simp only [Predicate.renumber, Predicate.eval, Predicate.evalOr_renumber h parts]
  | .not p => by simp only [Predicate.renumber, Predicate.eval, Predicate.eval_renumber h p]

theorem Predicate.evalAnd_renumber (h : Row.Renumbered f row other) :
    ∀ ps : List Predicate, Predicate.evalAnd other (Predicate.renumberAll f ps) = Predicate.evalAnd row ps
  | [] => by simp only [Predicate.renumberAll, Predicate.evalAnd]
  | p :: rest => by
    simp only [Predicate.renumberAll, Predicate.evalAnd, Predicate.eval_renumber h p,
      Predicate.evalAnd_renumber h rest]

theorem Predicate.evalOr_renumber (h : Row.Renumbered f row other) :
    ∀ ps : List Predicate, Predicate.evalOr other (Predicate.renumberAll f ps) = Predicate.evalOr row ps
  | [] => by simp only [Predicate.renumberAll, Predicate.evalOr]
  | p :: rest => by
    simp only [Predicate.renumberAll, Predicate.evalOr, Predicate.eval_renumber h p,
      Predicate.evalOr_renumber h rest]

end

mutual

theorem Expr.evalGroup_renumber (h : Row.Renumbered f row other) :
    ∀ e : Expr, (e.renumber f).evalGroup [other] = e.evalGroup [row]
  | .upper e | .trim e | .length e => by
    simp only [Expr.renumber, Expr.evalGroup, Expr.evalGroup_renumber h e]
  | .call name args => by
    have aggregated : Expr.aggregated (Expr.renumberAll f args) other = Expr.aggregated args row := by
      cases args with
      | nil => simp only [Expr.renumberAll, Expr.aggregated]
      | cons e rest => simp only [Expr.renumberAll, Expr.aggregated, Expr.eval_renumber h e]
    simp only [Expr.renumber, Expr.evalGroup, List.mapM_cons, List.mapM_nil, aggregated,
      Expr.evalGroupAll_renumber h args]
  | .field r => by
    simp only [Expr.renumber, Expr.evalGroup, Expr.evalFirst, Expr.eval, h.field]
  | .literal v => by simp only [Expr.renumber, Expr.evalGroup, Expr.evalFirst, Expr.eval]
  | .case condition result otherwise => by
    have same := Expr.eval_renumber h (.case condition result otherwise)
    cases otherwise with
    | none =>
      simp only [Expr.renumber] at same ⊢
      simp only [Expr.evalGroup, Expr.evalFirst, same]
    | some e =>
      simp only [Expr.renumber] at same ⊢
      simp only [Expr.evalGroup, Expr.evalFirst, same]
  | .truth p => by
    have same := Expr.eval_renumber h (.truth p)
    simp only [Expr.renumber] at same ⊢
    simp only [Expr.evalGroup, Expr.evalFirst, same]

theorem Expr.evalGroupAll_renumber (h : Row.Renumbered f row other) :
    ∀ es : List Expr, Expr.evalGroupAll [other] (Expr.renumberAll f es) = Expr.evalGroupAll [row] es
  | [] => by simp only [Expr.renumberAll, Expr.evalGroupAll]
  | e :: rest => by
    simp only [Expr.renumberAll, Expr.evalGroupAll, Expr.evalGroup_renumber h e,
      Expr.evalGroupAll_renumber h rest]

end

end

/-! The records that expressions and predicates read from, at any depth. -/

mutual

def Expr.sources : Expr → List RowSource
  | .field r => [r.source]
  | .literal _ => []
  | .upper e | .trim e | .length e => e.sources
  | .call _ args => Expr.sourcesAll args
  | .case condition result otherwise =>
    condition.sources ++ result.sources ++
      (match otherwise with
        | some e => e.sources
        | none => [])
  | .truth p => p.sources

def Expr.sourcesAll : List Expr → List RowSource
  | [] => []
  | e :: rest => e.sources ++ Expr.sourcesAll rest

def Predicate.sources : Predicate → List RowSource
  | .compare _ left right => left.sources ++ right.sources
  | .isIn e _ _ | .between e _ _ | .like e _ _ | .isNull e | .isNotNull e | .isEmpty e
  | .isNotEmpty e | .isTrue e => e.sources
  | .and parts | .or parts => Predicate.sourcesAll parts
  | .not p => p.sources

def Predicate.sourcesAll : List Predicate → List RowSource
  | [] => []
  | p :: rest => p.sources ++ Predicate.sourcesAll rest

end

section
variable (f : Nat → Nat)

mutual

theorem Expr.sources_renumber : ∀ e : Expr,
    (e.renumber f).sources = e.sources.map (RowSource.renumber f)
  | .field r => by simp only [Expr.renumber, Expr.sources, FieldRef.renumber, List.map_cons,
      List.map_nil]
  | .literal _ => by simp only [Expr.renumber, Expr.sources, List.map_nil]
  | .upper e | .trim e | .length e => by
    simp only [Expr.renumber, Expr.sources, Expr.sources_renumber e]
  | .call _ args => by simp only [Expr.renumber, Expr.sources, Expr.sourcesAll_renumber args]
  | .case condition result otherwise => by
    cases otherwise with
    | none =>
      simp only [Expr.renumber, Expr.sources, Predicate.sources_renumber condition,
        Expr.sources_renumber result, List.map_append, List.map_nil]
    | some e =>
      simp only [Expr.renumber, Expr.sources, Predicate.sources_renumber condition,
        Expr.sources_renumber result, Expr.sources_renumber e, List.map_append]
  | .truth p => by simp only [Expr.renumber, Expr.sources, Predicate.sources_renumber p]

theorem Expr.sourcesAll_renumber : ∀ es : List Expr,
    Expr.sourcesAll (Expr.renumberAll f es) = (Expr.sourcesAll es).map (RowSource.renumber f)
  | [] => by simp only [Expr.renumberAll, Expr.sourcesAll, List.map_nil]
  | e :: rest => by
    simp only [Expr.renumberAll, Expr.sourcesAll, Expr.sources_renumber e,
      Expr.sourcesAll_renumber rest, List.map_append]

theorem Predicate.sources_renumber : ∀ p : Predicate,
    (p.renumber f).sources = p.sources.map (RowSource.renumber f)
  | .compare _ left right => by
    simp only [Predicate.renumber, Predicate.sources, Expr.sources_renumber left,
      Expr.sources_renumber right, List.map_append]
  | .isIn e _ _ | .between e _ _ | .like e _ _ | .isNull e | .isNotNull e | .isEmpty e
  | .isNotEmpty e | .isTrue e => by
    simp only [Predicate.renumber, Predicate.sources, Expr.sources_renumber e]
  | .and parts | .or parts => by
    simp only [Predicate.renumber, Predicate.sources, Predicate.sourcesAll_renumber parts]
  | .not p => by simp only [Predicate.renumber, Predicate.sources, Predicate.sources_renumber p]

theorem Predicate.sourcesAll_renumber : ∀ ps : List Predicate,
    Predicate.sourcesAll (Predicate.renumberAll f ps) =
      (Predicate.sourcesAll ps).map (RowSource.renumber f)
  | [] => by simp only [Predicate.renumberAll, Predicate.sourcesAll, List.map_nil]
  | p :: rest => by
    simp only [Predicate.renumberAll, Predicate.sourcesAll, Predicate.sources_renumber p,
      Predicate.sourcesAll_renumber rest, List.map_append]

end

end

end EntitySearch
