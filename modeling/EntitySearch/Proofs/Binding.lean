import EntitySearch.Run.Row

/-! The rows that joins make of a record.

A row is bound when each join in turn has bound a record that it leads to.
Expanding joins finds the bound rows and no others.
-/

set_option autoImplicit false

namespace EntitySearch

/-- Joins that bind one record after another, from a row to a row. -/
inductive Row.Binds : List Join → Row → Row → Prop
  | done (row : Row) : Row.Binds [] row row
  | bind {j : Join} {joins : List Join} {row out : Row} {r : Record} :
    r ∈ j.targets row → Row.Binds joins (row.bind r) out → Row.Binds (j :: joins) row out

namespace Row

theorem mem_expand {joins : List Join} {rows : List Row} {out : Row} :
    out ∈ Row.expand joins rows ↔ ∃ row ∈ rows, Binds joins row out := by
  induction joins generalizing rows with
  | nil =>
    constructor
    · exact fun held => ⟨out, held, .done out⟩
    · rintro ⟨row, held, bound⟩
      cases bound
      exact held
  | cons j rest ih =>
    have step : out ∈ Row.expand (j :: rest) rows ↔
        ∃ row ∈ rows.flatMap fun row => (j.targets row).map row.bind, Binds rest row out := ih
    rw [step]
    constructor
    · rintro ⟨next, held, bound⟩
      obtain ⟨row, there, reached⟩ := List.mem_flatMap.mp held
      obtain ⟨r, target, rfl⟩ := List.mem_map.mp reached
      exact ⟨row, there, .bind target bound⟩
    · rintro ⟨row, held, bound⟩
      cases bound with
      | bind target bound =>
        exact ⟨row.bind _, List.mem_flatMap.mpr ⟨row, held, List.mem_map.mpr ⟨_, target, rfl⟩⟩,
          bound⟩

theorem expand_append (joins : List Join) (rows others : List Row) :
    Row.expand joins (rows ++ others) = Row.expand joins rows ++ Row.expand joins others := by
  induction joins generalizing rows others with
  | nil => rfl
  | cons j rest ih =>
    show Row.expand rest ((rows ++ others).flatMap _) = _
    rw [List.flatMap_append, ih]
    rfl

theorem expand_flatMap (joins : List Join) (rows : List Row) :
    Row.expand joins rows = rows.flatMap fun row => Row.expand joins [row] := by
  induction rows with
  | nil =>
    induction joins with
    | nil => rfl
    | cons j rest ih => exact ih
  | cons row rest ih =>
    rw [List.flatMap_cons, ← ih]
    exact expand_append joins [row] rest

theorem Binds.root {joins : List Join} {row out : Row} (h : Binds joins row out) :
    out.root = row.root := by
  induction h with
  | done => rfl
  | bind _ _ ih => exact ih

theorem Binds.split {front back : List Join} {row out : Row} (h : Binds (front ++ back) row out) :
    ∃ between, Binds front row between ∧ Binds back between out := by
  induction front generalizing row with
  | nil => exact ⟨row, .done row, h⟩
  | cons j rest ih =>
    cases h with
    | bind target bound =>
      obtain ⟨between, first, last⟩ := ih bound
      exact ⟨between, .bind target first, last⟩

theorem Binds.joined_prefix {joins : List Join} {row out : Row} (h : Binds joins row out) :
    row.joined <+: out.joined := by
  induction h with
  | done => exact List.prefix_refl _
  | bind _ _ ih => exact (List.prefix_append _ _).trans ih

theorem Binds.joined_length {joins : List Join} {row out : Row} (h : Binds joins row out) :
    out.joined.length = row.joined.length + joins.length := by
  induction h with
  | done => rfl
  | bind _ _ ih => simp only [ih, Row.bind, List.length_append, List.length_cons, List.length_nil,
      Nat.zero_add, Nat.add_assoc, Nat.add_comm 1]

end Row

end EntitySearch
