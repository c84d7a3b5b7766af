import EntitySearch.Proofs.Distinct
import EntitySearch.Proofs.ValueOrder

/-! Rows behind a cursor.

A cursor is compiled twice, to a condition and to an order, and both say which
rows stand behind it. They agree on every row, except that no condition reaches
the rows without a value of the field, which a descending order puts last.
-/

set_option autoImplicit false

namespace EntitySearch

namespace Scope

inductive Reached (first : Scope) : Scope → Prop
  | first : Reached first first
  | resolve {s : Scope} (path : String) :
    Reached first s → Reached first (Resolve.resolve path s).2

theorem Reached.sound {b : Base} {first s : Scope} (reached : Reached first s)
    (sound : first.Sound b) : s.Sound b := by
  induction reached with
  | first => exact sound
  | resolve path _ ih =>
    obtain ⟨t, ran, sound', -⟩ := Resolve.resolve_run path ih (Numbering.of_positions _)
    exact ran ▸ sound'

end Scope

namespace Resolve

variable {b : Base} {s t u : Scope} {path : String} {r : Resolved}

theorem resolve_sound (sound : s.Sound b) (found : resolve path s = (.ok r, t)) : t.Sound b :=
  ((Uniform.resolve path).leaves sound found).1

theorem resolve_grows (sound : s.Sound b) (found : resolve path s = (.ok r, t)) :
    s.crossed <+: t.crossed :=
  ((Uniform.resolve path).leaves sound found).2

/-- What was resolved once is resolved to the same again, and crosses nothing new. -/
theorem resolve_again (sound : s.Sound b) (found : resolve path s = (.ok r, t))
    (later : u.Sound b) (grown : t.crossed <+: u.crossed) :
    ∃ v, resolve path u = (.ok r, v) ∧ v.Sound b ∧ v.crossed = u.crossed :=
  (Uniform.resolve path).again sound found later grown

end Resolve

theorem Expr.evalGroup_field (f : FieldRef) (row : Row) :
    (Expr.field f).evalGroup [row] = .ok (row.field f) := by
  rw [Expr.evalGroup, Expr.evalFirst, Expr.eval] <;> simp

namespace Keyset

section
variable (d : Direction) (field id : Resolved) (v idv : Value)

def behind : Predicate :=
  .or
    [.compareTo (after d) field.expr v,
      .and [.compareTo .eq field.expr v, .compareTo (after d) id.expr idv]]

def ordering : List OrderTerm :=
  if field.field = id.field then [⟨field.expr, d⟩] else [⟨field.expr, d⟩, ⟨id.expr, d⟩]

def keyOf (row : Row) : List Value :=
  if field.field = id.field then [row.field field.field]
  else [row.field field.field, row.field id.field]

end

variable {d : Direction} {field id : Resolved} {v idv : Value}

theorem keyOf_eq (row : Row) :
    Expr.evalGroupAll [row] ((ordering d field id).map OrderTerm.expr) =
      .ok (keyOf field id row) := by
  unfold ordering keyOf
  split <;>
    simp [Expr.evalGroupAll, Resolved.expr, Expr.evalGroup_field, bind, Except.bind, pure,
      Except.pure]

theorem behind_eval (row : Row) : (behind d field id v idv).eval row =
    .ok (Truth.or ((after d).truth (row.field field.field) v)
      (Truth.and (CompareOp.truth .eq (row.field field.field) v)
        ((after d).truth (row.field id.field) idv))) := by
  simp only [behind, Predicate.compareTo, Resolved.expr, Predicate.eval, Predicate.evalOr,
    Predicate.evalAnd, Expr.eval, bind, Except.bind, pure, Except.pure]
  generalize (after d).truth (row.field field.field) v = first
  generalize CompareOp.truth .eq (row.field field.field) v = tie
  generalize (after d).truth (row.field id.field) idv = second
  rcases first with _ | _ | _ <;> rcases tie with _ | _ | _ <;> rcases second with _ | _ | _ <;> rfl

theorem after_truth {k : Value.Kind} {x : Value} (kind : x.kind? = some k)
    (kind' : v.kind? = some k) :
    (after d).truth x v = some (d.orient (v.sortOrder x)).isLT := by
  have left := Value.isNull_of_kind kind
  have right := Value.isNull_of_kind kind'
  have swapped := Value.sortOrder_swap kind kind'
  cases d <;>
    simp [after, CompareOp.truth, CompareOp.holds, left, right, Value.compare?_of_kind kind kind',
      swapped, Direction.orient]

theorem tie_truth (d : Direction) {k : Value.Kind} {x : Value} (kind : x.kind? = some k)
    (kind' : v.kind? = some k) :
    CompareOp.truth .eq x v = some (d.orient (v.sortOrder x)).isEq := by
  have left := Value.isNull_of_kind kind
  have right := Value.isNull_of_kind kind'
  have swapped := Value.sortOrder_swap kind kind'
  have same : x.equals v = (d.orient (v.sortOrder x)).isEq := by
    rw [Bool.eq_iff_iff, Value.equals_of_kind kind kind', swapped]
    cases d <;> cases v.sortOrder x <;> decide
  simp [CompareOp.truth, CompareOp.holds, left, right, same]

section
variable {row : Row} {k l : Value.Kind}

/-- With a value of the field, the condition holds exactly of the rows that the order puts
behind the cursor. -/
theorem behind_iff (kind : v.kind? = some k) (idKind : idv.kind? = some l)
    (agree : field.field = id.field → idv = v) (held : (row.field field.field).kind? = some k)
    (idHeld : (row.field id.field).kind? = some l) :
    (behind d field id v idv).eval row = .ok (some true) ↔
      Plan.compareKeys (ordering d field id) [v, idv] (keyOf field id row) = .lt := by
  rw [behind_eval, after_truth held kind, tie_truth d held kind, after_truth idHeld idKind]
  unfold ordering keyOf
  split
  · next same =>
    obtain rfl := agree same
    rw [same, Plan.compareKeys_cons]
    cases d.orient (idv.sortOrder (row.field id.field)) <;>
      simp [Plan.compareKeys, Truth.or, Truth.and]
  · -- The three ways each comparison can turn out settle both sides.
    rw [Plan.compareKeys_cons, Plan.compareKeys_cons]
    generalize d.orient (v.sortOrder (row.field field.field)) = first
    generalize d.orient (idv.sortOrder (row.field id.field)) = second
    cases first <;> cases second <;> simp [Plan.compareKeys, Truth.or, Truth.and]

theorem behind_null (idKind : idv.kind? = some l) (none : row.field field.field = .null)
    (idHeld : (row.field id.field).kind? = some l) :
    (behind d field id v idv).eval row ≠ .ok (some true) := by
  rw [behind_eval, after_truth idHeld idKind, none]
  cases (d.orient (idv.sortOrder (row.field id.field))).isLT <;> cases d <;>
    simp [CompareOp.truth, Value.isNull, Truth.and, Truth.or]

/-- The order puts rows without a value of the field first, or last when it descends. -/
theorem compareKeys_null (kind : v.kind? = some k) (none : row.field field.field = .null) :
    Plan.compareKeys (ordering d field id) [v, idv] (keyOf field id row) = .lt ↔ d = .desc := by
  have last := Value.sortOrder_null (Value.isNull_of_kind kind)
  unfold ordering keyOf
  split <;> rw [Plan.compareKeys_cons, none, last] <;> cases d <;>
    simp [Direction.orient, Ordering.then]

theorem behind_agrees (kind : v.kind? = some k) (idKind : idv.kind? = some l)
    (agree : field.field = id.field → idv = v)
    (held : row.field field.field = .null ∨ (row.field field.field).kind? = some k)
    (idHeld : (row.field id.field).kind? = some l) :
    ((behind d field id v idv).eval row = .ok (some true) ↔
      Plan.compareKeys (ordering d field id) [v, idv] (keyOf field id row) = .lt) ↔
    ¬(d = .desc ∧ row.field field.field = .null) := by
  rcases held with none | held
  · rw [compareKeys_null kind none]
    simp [behind_null idKind none idHeld, none]
  · have full : row.field field.field ≠ .null := by
      intro none
      simp [none, Value.kind?] at held
    rw [behind_iff kind idKind agree held idHeld]
    simp [full]

end

section
variable {b : Base} {settings : CompilerSettings} {cursor : Cursor} {s t u : Scope} {raw : Json}

theorem both_run (sound : s.Sound b) (found : Resolve.resolve cursor.field s = (.ok field, t))
    (identified : Resolve.resolve s.identifier t = (.ok id, u))
    (carried : cursor.idValue = some raw) (present : raw.isNull = false) :
    ∃ w, both settings cursor s =
      (.ok (behind cursor.direction field id (readValue settings cursor field cursor.value)
        (readValue settings cursor id raw), ordering cursor.direction field id), w) ∧
      w.Sound b ∧ w.crossed = u.crossed := by
  have soundT := Resolve.resolve_sound sound found
  have soundU := Resolve.resolve_sound soundT identified
  have grown := Resolve.resolve_grows soundT identified
  -- The order resolves both paths a second time, after the condition has crossed their relations.
  obtain ⟨v, again, soundV, crossed⟩ := Resolve.resolve_again sound found soundU grown
  obtain ⟨w, again', soundW, crossed'⟩ := Resolve.resolve_again soundT identified soundV
    (crossed ▸ List.prefix_refl _)
  have named : ∀ x : Scope, x.Sound b → x.identifier = s.identifier := fun x sound' =>
    congrArg Base.identifier (sound'.base.trans sound.base.symm)
  have condition : predicate settings cursor s =
      (.ok (behind cursor.direction field id (readValue settings cursor field cursor.value)
        (readValue settings cursor id raw)), u) := by
    unfold predicate
    rw [run_bind_ok found]
    simp only [carried, Option.filter, present, Bool.not_false, if_true]
    rw [run_get_bind, named t soundT, run_bind_ok identified]
    rfl
  have order : order cursor u = (.ok (ordering cursor.direction field id), w) := by
    unfold order ordering
    rw [run_bind_ok again, run_get_bind, named v soundV, run_bind_ok again']
    split <;> rfl
  refine ⟨w, ?_, soundW, crossed'.trans crossed⟩
  unfold both
  rw [run_bind_ok condition, run_bind_ok order]
  rfl

/-- The condition of a cursor holds exactly of the rows that its order puts behind it, but for
rows without a value of the field of a descending cursor: these come last, and are never found. -/
theorem seek_agrees (settings : CompilerSettings) (cursor : Cursor) {entity : String}
    {catalog loaded : Catalog} {first : Scope}
    (started : Scope.start entity catalog = (.ok first, loaded)) (reached : first.Reached s)
    (found : Resolve.resolve cursor.field s = (.ok field, t))
    (identified : Resolve.resolve s.identifier t = (.ok id, u))
    (carried : cursor.idValue = some raw) {k l : Value.Kind}
    (kind : (readValue settings cursor field cursor.value).kind? = some k)
    (idKind : (readValue settings cursor id raw).kind? = some l)
    (agree : field.field = id.field →
      readValue settings cursor id raw = readValue settings cursor field cursor.value) :
    ∃ q terms w, both settings cursor s = (.ok (q, terms), w) ∧ ∀ row : Row,
      row.field field.field = .null ∨ (row.field field.field).kind? = some k →
      (row.field id.field).kind? = some l →
      ∃ key, Expr.evalGroupAll [row] (terms.map OrderTerm.expr) = .ok key ∧
        ((q.eval row = .ok (some true) ↔
          Plan.compareKeys terms [readValue settings cursor field cursor.value,
            readValue settings cursor id raw] key = .lt) ↔
          ¬(cursor.direction = .desc ∧ row.field field.field = .null)) := by
  have present : raw.isNull = false := by
    cases null : raw.isNull with
    | false => rfl
    | true =>
      have empty : readValue settings cursor id raw = .null := by
        simp [readValue, Coercion.readOrKeep, Coercion.read, null]
      simp [empty, Value.kind?] at idKind
  obtain ⟨w, compiled, -⟩ := both_run (reached.sound (Scope.start_sound started)) found identified
    carried present
  refine ⟨_, _, w, compiled, ?_⟩
  intro row held idHeld
  exact ⟨_, keyOf_eq row, behind_agrees kind idKind agree held idHeld⟩

end

end Keyset

namespace Sample

def behind (direction : Direction) (name : String) (id : Int) : Cursor :=
  ⟨"name", direction, .string name, some (.int id)⟩

def row (id : Int) (name : Value) : Row := ⟨[("id", .int id), ("name", name)], []⟩

end Sample

namespace Keyset

theorem seek_agrees_third :
    ∃ q terms w, both {} (Sample.behind .asc "Ann" 1) Sample.scope = (.ok (q, terms), w) ∧
      ∃ key, Expr.evalGroupAll [Sample.row 3 (.string "Ann")] (terms.map OrderTerm.expr) = .ok key ∧
        ((q.eval (Sample.row 3 (.string "Ann")) = .ok (some true) ↔
          Plan.compareKeys terms [.string "Ann", .int 1] key = .lt) ↔
          ¬(Direction.asc = .desc ∧ Value.string "Ann" = .null)) :=
  have started : Scope.start "Person" Sample.catalog = (.ok Sample.scope, Sample.catalog) := rfl
  have found : Resolve.resolve "name" Sample.scope =
      (.ok ⟨⟨.root, ["name"], "name"⟩, .scalar .string⟩, Sample.scope) := rfl
  have identified : Resolve.resolve "id" Sample.scope =
      (.ok ⟨⟨.root, ["id"], "id"⟩, .scalar .int64⟩, Sample.scope) := rfl
  have ⟨q, terms, w, compiled, rows⟩ := seek_agrees {} (Sample.behind .asc "Ann" 1) started .first
    found identified (k := .string) (l := .int) rfl rfl rfl fun same => absurd same (by decide)
  ⟨q, terms, w, compiled, rows (Sample.row 3 (.string "Ann")) (.inr rfl) rfl⟩

/-- A person without a name comes behind all names in descending order, and is not found. -/
theorem seek_misses_unnamed :
    ∃ q terms w key, both {} (Sample.behind .desc "Bob" 2) Sample.scope = (.ok (q, terms), w) ∧
      Expr.evalGroupAll [Sample.row 3 .null] (terms.map OrderTerm.expr) = .ok key ∧
      Plan.compareKeys terms [.string "Bob", .int 2] key = .lt ∧
      q.eval (Sample.row 3 .null) = .ok none :=
  ⟨_, _, _, _, rfl, rfl, rfl, rfl⟩

end Keyset

end EntitySearch
