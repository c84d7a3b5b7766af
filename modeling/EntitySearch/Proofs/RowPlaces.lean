import EntitySearch.Proofs.Binding

/-! Places of joined rows.

The place of a row is the position of its root, and for each join the position
of the record that it binds. Expanding joins lists the rows of all places there
are, in the order of the places.
-/

set_option autoImplicit false

namespace EntitySearch

theorem zipIdx_ordered {α : Type} (xs : List α) : xs.zipIdx.Pairwise fun a b => a.2 < b.2 := by
  rw [← List.pairwise_map (R := (· < ·)), List.zipIdx_map_snd]
  exact List.pairwise_lt_range'

namespace Value

/-- The record at a position of a relation. An object is the only one it leads to; a position of a
list that holds no object has none. -/
def recordAt? : Value → Nat → Option Record
  | .object fields, 0 => some fields
  | .list items, position => items[position]?.bind asObject?
  | _, _ => none

def placed : Value → List (Nat × Record)
  | .object fields => [(0, fields)]
  | .list items => items.zipIdx.filterMap fun entry => entry.1.asObject?.map (entry.2, ·)
  | _ => []

theorem placed_related (v : Value) : v.placed.map Prod.snd = v.related := by
  cases v with
  | list items =>
    have fromAny : ∀ start, ((items.zipIdx start).filterMap fun entry =>
        entry.1.asObject?.map (entry.2, ·)).map Prod.snd = items.filterMap asObject? := by
      induction items with
      | nil => exact fun _ => rfl
      | cons item rest ih =>
        intro start
        rw [List.zipIdx_cons, List.filterMap_cons, List.filterMap_cons, ← ih (start + 1)]
        cases item.asObject? <;> rfl
    exact fromAny 0
  | _ => rfl

theorem mem_placed {v : Value} {position : Nat} {r : Record} :
    (position, r) ∈ v.placed ↔ v.recordAt? position = some r := by
  cases v with
  | object fields => cases position <;> simp [placed, recordAt?, eq_comm]
  | list items =>
    rw [placed, recordAt?, List.mem_filterMap, Option.bind_eq_some_iff]
    constructor
    · rintro ⟨⟨item, i⟩, held, found⟩
      obtain ⟨r, some, same⟩ := Option.map_eq_some_iff.mp found
      obtain ⟨rfl, rfl⟩ := Prod.mk.inj same
      exact ⟨item, List.mem_zipIdx_iff_getElem?.mp held, some⟩
    · rintro ⟨item, held, found⟩
      exact ⟨(item, position), List.mem_zipIdx_iff_getElem?.mpr held,
        Option.map_eq_some_iff.mpr ⟨r, found, rfl⟩⟩
  | _ => simp [placed, recordAt?]

theorem placed_ordered (v : Value) : v.placed.Pairwise fun a b => a.1 < b.1 := by
  cases v with
  | list items =>
    refine (zipIdx_ordered items).filterMap _ fun a b before c found d found' => ?_
    obtain ⟨_, -, rfl⟩ := Option.map_eq_some_iff.mp found
    obtain ⟨_, -, rfl⟩ := Option.map_eq_some_iff.mp found'
    exact before
  | object fields => exact List.pairwise_singleton _ _
  | _ => exact .nil

end Value

/-- Joins are numbered by their positions, and each leads from the root or from an earlier one. -/
structure Join.Ordered (joins : List Join) : Prop where
  index : ∀ (i : Nat) (j : Join), joins[i]? = some j → j.index = i
  parent : ∀ (i : Nat) (j : Join) (k : Nat), joins[i]? = some j → j.parent = .join k → k < i

theorem Join.Ordered.front {joins rest : List Join} (h : Join.Ordered (joins ++ rest)) :
    Join.Ordered joins := by
  have kept : ∀ (i : Nat) (j : Join), joins[i]? = some j → (joins ++ rest)[i]? = some j := by
    intro i j stands
    rw [List.getElem?_append_left (List.getElem?_eq_some_iff.mp stands).1, stands]
  exact ⟨fun i j stands => h.index i j (kept i j stands),
    fun i j k stands => h.parent i j k (kept i j stands)⟩

namespace Row

/-- The record of a join is the one at the position that a place gives for it. The join is read from
the row itself. -/
def BindsAt (place : List Nat) (row : Row) (index : Nat) (j : Join) : Prop :=
  ∃ parent position r, row.source? j.parent = some parent ∧ place[index + 1]? = some position ∧
    (parent.read j.path).recordAt? position = some r ∧ row.joined[index]? = some r

/-- The row at a place: its root, and behind it the record of each join, stand at the positions that
the place gives. -/
structure StandsAt (joins : List Join) (roots : List Record) (place : List Nat) (row : Row) :
    Prop where
  length : place.length = joins.length + 1
  width : row.joined.length = joins.length
  root : place[0]?.bind (roots[·]?) = some row.root
  bound : ∀ (i : Nat) (j : Join), joins[i]? = some j → BindsAt place row i j

/-- Rows with their places, in the order of the places. -/
structure Places (joins : List Join) (roots : List Record) (placed : List (List Nat × Row)) :
    Prop where
  ordered : placed.Pairwise fun a b => a.1 < b.1
  exact : ∀ place row, (place, row) ∈ placed ↔ StandsAt joins roots place row

end Row

def Join.placed (j : Join) (row : Row) : List (Nat × Record) :=
  (row.source? j.parent).elim [] fun r => (r.read j.path).placed

theorem Join.placed_targets (j : Join) (row : Row) :
    (j.placed row).map Prod.snd = j.targets row := by
  unfold placed targets
  cases row.source? j.parent with
  | none => rfl
  | some r => exact Value.placed_related _

theorem Join.placed_ordered (j : Join) (row : Row) :
    (j.placed row).Pairwise fun a b => a.1 < b.1 := by
  unfold placed
  cases row.source? j.parent with
  | none => exact .nil
  | some r => exact Value.placed_ordered _

theorem Join.mem_placed {j : Join} {row : Row} {position : Nat} {r : Record} :
    (position, r) ∈ j.placed row ↔ ∃ parent, row.source? j.parent = some parent ∧
      (parent.read j.path).recordAt? position = some r := by
  unfold placed
  cases row.source? j.parent with
  | none => simp
  | some parent => simp [Value.mem_placed]

namespace Row

variable {joins front : List Join} {roots : List Record} {placed : List (List Nat × Row)}
  {place : List Nat} {row : Row} {j : Join}

theorem source?_bind (r : Record) {source : RowSource}
    (earlier : ∀ k, source = .join k → k < row.joined.length) :
    (row.bind r).source? source = row.source? source := by
  cases source with
  | root => rfl
  | join k => exact List.getElem?_append_left (earlier k rfl)

theorem forall_getElem?_append {α : Type} {xs : List α} {x : α} {P : Nat → α → Prop} :
    (∀ i y, (xs ++ [x])[i]? = some y → P i y) ↔
      (∀ i y, xs[i]? = some y → P i y) ∧ P xs.length x := by
  constructor
  · intro each
    refine ⟨fun i y stands => each i y ?_, each _ _ (List.getElem?_concat_length)⟩
    rw [List.getElem?_append_left (List.getElem?_eq_some_iff.mp stands).1, stands]
  · rintro ⟨each, last⟩ i y stands
    rcases Nat.lt_trichotomy i xs.length with before | rfl | behind
    · rw [List.getElem?_append_left before] at stands
      exact each i y stands
    · rw [List.getElem?_concat_length] at stands
      exact Option.some.inj stands ▸ last
    · rw [List.getElem?_eq_none (by simp; omega)] at stands
      cases stands

theorem standsAt_bind (ordered : Join.Ordered (front ++ [j]))
    (width : row.joined.length = front.length) (length : place.length = front.length + 1)
    {position : Nat} {r : Record} :
    StandsAt (front ++ [j]) roots (place ++ [position]) (row.bind r) ↔
      StandsAt front roots place row ∧ (position, r) ∈ j.placed row := by
  -- No join reads from the record that is bound last.
  have source : ∀ (i : Nat) (k : Join), (front ++ [j])[i]? = some k →
      (row.bind r).source? k.parent = row.source? k.parent := by
    intro i k stands
    refine source?_bind r fun parent same => ?_
    have before := ordered.parent i k parent stands same
    have within := (List.getElem?_eq_some_iff.mp stands).1
    rw [List.length_append, List.length_singleton] at within
    omega
  have start : (place ++ [position])[0]? = place[0]? := List.getElem?_append_left (by omega)
  have earlier : ∀ (i : Nat) (k : Join), front[i]? = some k →
      (BindsAt (place ++ [position]) (row.bind r) i k ↔ BindsAt place row i k) := by
    intro i k stands
    have within := (List.getElem?_eq_some_iff.mp stands).1
    unfold BindsAt
    rw [source i k (by rwa [List.getElem?_append_left within]),
      List.getElem?_append_left (by omega), Row.bind, List.getElem?_append_left (by omega)]
  have last : BindsAt (place ++ [position]) (row.bind r) front.length j ↔
      (position, r) ∈ j.placed row := by
    unfold BindsAt
    rw [source _ j List.getElem?_concat_length, ← length, List.getElem?_concat_length, Row.bind,
      ← width, List.getElem?_concat_length, Join.mem_placed]
    constructor
    · rintro ⟨parent, _, _, read, ⟨⟩, found, ⟨⟩⟩
      exact ⟨parent, read, found⟩
    · rintro ⟨parent, read, found⟩
      exact ⟨parent, position, r, read, rfl, found, rfl⟩
  constructor
  · intro h
    obtain ⟨each, final⟩ := forall_getElem?_append.mp h.bound
    refine ⟨⟨length, width, start ▸ h.root, fun i k stands => ?_⟩, last.mp final⟩
    exact (earlier i k stands).mp (each i k stands)
  · rintro ⟨h, final⟩
    refine ⟨by simp [length], by simp [Row.bind, width], start ▸ h.root, ?_⟩
    exact forall_getElem?_append.mpr
      ⟨fun i k stands => (earlier i k stands).mpr (h.bound i k stands), last.mpr final⟩

theorem append_lt {a b : List Nat} {i k : Nat} (same : a.length = b.length) (before : a < b) :
    a ++ [i] < b ++ [k] := by
  induction a generalizing b with
  | nil =>
    obtain rfl := List.length_eq_zero_iff.mp same.symm
    cases before
  | cons n a ih =>
    cases before with
    | rel less => exact .rel less
    | cons before => exact .cons (ih (Nat.succ.inj same) before)

def bindPlaced (placed : List (List Nat × Row)) (j : Join) : List (List Nat × Row) :=
  placed.flatMap fun entry =>
    (j.placed entry.2).map fun target => (entry.1 ++ [target.1], entry.2.bind target.2)

theorem bindPlaced_rows (placed : List (List Nat × Row)) (j : Join) :
    (bindPlaced placed j).map Prod.snd =
      (placed.map Prod.snd).flatMap fun row => (j.targets row).map row.bind := by
  rw [bindPlaced, List.map_flatMap, List.flatMap_map]
  congr 1
  funext entry
  rw [List.map_map, ← Join.placed_targets, List.map_map]
  rfl

theorem mem_bindPlaced : (place, row) ∈ bindPlaced placed j ↔
    ∃ front before position r, (front, before) ∈ placed ∧ (position, r) ∈ j.placed before ∧
      place = front ++ [position] ∧ row = before.bind r := by
  simp only [bindPlaced, List.mem_flatMap, List.mem_map, Prod.mk.injEq, Prod.exists]
  constructor
  · rintro ⟨front, before, held, position, r, target, rfl, rfl⟩
    exact ⟨front, before, position, r, held, target, rfl, rfl⟩
  · rintro ⟨front, before, position, r, held, target, rfl, rfl⟩
    exact ⟨front, before, held, position, r, target, rfl, rfl⟩

theorem StandsAt.split (h : StandsAt (front ++ [j]) roots place row) :
    ∃ start before position r, place = start ++ [position] ∧ row = bind before r ∧
      before.joined.length = front.length ∧ start.length = front.length + 1 := by
  obtain ⟨root, joined⟩ := row
  have length := h.length
  have width := h.width
  rcases List.eq_nil_or_concat place with rfl | ⟨start, position, rfl⟩
  · cases length
  rcases List.eq_nil_or_concat joined with rfl | ⟨records, r, rfl⟩
  · simp at width
  rw [List.length_append, List.length_concat, List.length_singleton] at length width
  simp only [List.concat_eq_append]
  exact ⟨start, ⟨root, records⟩, position, r, rfl, rfl, Nat.succ.inj width, Nat.succ.inj length⟩

theorem Places.unbound (roots : List Record) :
    Places [] roots (roots.zipIdx.map fun entry => ([entry.2], ⟨entry.1, []⟩)) := by
  constructor
  · exact List.pairwise_map.mpr ((zipIdx_ordered roots).imp .rel)
  · intro place row
    simp only [List.mem_map, Prod.exists, Prod.mk.injEq, List.mem_zipIdx_iff_getElem?]
    constructor
    · rintro ⟨r, i, held, rfl, rfl⟩
      exact ⟨rfl, rfl, held, nofun⟩
    · rintro ⟨length, width, root, -⟩
      obtain ⟨start, rfl⟩ := List.length_eq_one_iff.mp length
      obtain ⟨r, joined⟩ := row
      obtain rfl := List.length_eq_zero_iff.mp width
      exact ⟨r, start, root, rfl, rfl⟩

theorem Places.bind (h : Places front roots placed) (ordered : Join.Ordered (front ++ [j])) :
    Places (front ++ [j]) roots (bindPlaced placed j) := by
  constructor
  · refine List.pairwise_flatMap.mpr ⟨fun entry _ => ?_, ?_⟩
    · refine List.pairwise_map.mpr ((j.placed_ordered entry.2).imp fun before => ?_)
      exact List.append_left_lt (.rel before)
    · refine h.ordered.imp_of_mem fun {a b} left right before => ?_
      have same : a.1.length = b.1.length :=
        ((h.exact a.1 a.2).mp left).length.trans ((h.exact b.1 b.2).mp right).length.symm
      simp only [List.mem_map]
      rintro _ ⟨_, -, rfl⟩ _ ⟨_, -, rfl⟩
      exact append_lt same before
  · intro place row
    rw [mem_bindPlaced]
    constructor
    · rintro ⟨start, before, position, r, held, target, rfl, rfl⟩
      have stands := (h.exact start before).mp held
      exact (standsAt_bind ordered stands.width stands.length).mpr ⟨stands, target⟩
    · intro stands
      obtain ⟨start, before, position, r, rfl, rfl, width, length⟩ := stands.split
      obtain ⟨stands, target⟩ := (standsAt_bind ordered width length).mp stands
      exact ⟨start, before, position, r, (h.exact start before).mpr stands, target, rfl, rfl⟩

/-- Expanding goes on where rows are listed by their places. -/
theorem Places.run (h : Places front roots placed) (ordered : Join.Ordered (front ++ joins)) :
    ∃ out, Row.expand joins (placed.map Prod.snd) = out.map Prod.snd ∧
      Places (front ++ joins) roots out := by
  induction joins generalizing front placed with
  | nil => exact ⟨placed, rfl, by rwa [List.append_nil]⟩
  | cons j rest ih =>
    rw [List.append_cons] at ordered ⊢
    obtain ⟨out, expanded, places⟩ := ih (h.bind ordered.front) ordered
    refine ⟨out, ?_, places⟩
    rw [← expanded, bindPlaced_rows]
    rfl

/-- The rows of joins are those that stand at the places there are, each place once, in the order of
the places; and the rows of more roots come behind them. -/
theorem expand_places (joins : List Join) (ordered : Join.Ordered joins) (roots : List Record) :
    (∃ placed : List (List Nat × Row),
      Row.expand joins (roots.map fun root => ⟨root, []⟩) = placed.map Prod.snd ∧
        Places joins roots placed) ∧
    ∀ others : List Record,
      Row.expand joins ((roots ++ others).map fun root => ⟨root, []⟩) =
        Row.expand joins (roots.map fun root => ⟨root, []⟩) ++
          Row.expand joins (others.map fun root => ⟨root, []⟩) := by
  constructor
  · obtain ⟨placed, expanded, places⟩ := (Places.unbound roots).run ordered
    refine ⟨placed, ?_, places⟩
    have bare : (roots.zipIdx.map fun entry => ([entry.2], (⟨entry.1, []⟩ : Row))).map Prod.snd =
        roots.map fun root => ⟨root, []⟩ := by
      rw [List.map_map, ← List.zipIdx_map_fst 0 roots, List.map_map, List.zipIdx_map_fst]
      rfl
    rw [← bare]
    exact expanded
  · intro others
    rw [List.map_append]
    exact expand_append joins _ _

end Row

namespace Sample

def boxJoins : List Join :=
  [⟨0, .root, ["shelves"], "Shelf", "shelves"⟩, ⟨1, .join 0, ["box"], "Box", "shelves.box"⟩]

def shelf (box : Int) : Record := [("box", .object [("id", .int box)])]

/-- The second item is no shelf, and the third shelf has no box. -/
def room : Record :=
  [("shelves", .list [.object (shelf 7), .int 5, .object [], .object (shelf 8)])]

end Sample

namespace Row

theorem expand_places_boxes :
    Join.Ordered Sample.boxJoins ∧
      ∃ placed : List (List Nat × Row),
        Row.expand Sample.boxJoins [⟨[], []⟩, ⟨Sample.room, []⟩] = placed.map Prod.snd ∧
          Places Sample.boxJoins [[], Sample.room] placed := by
  have ordered : Join.Ordered Sample.boxJoins := by
    constructor
    · intro i j stands
      match i with
      | 0 | 1 => exact Option.some.inj stands ▸ rfl
    · intro i j k stands parent
      match i with
      | 0 =>
        obtain rfl := Option.some.inj stands
        cases parent
      | 1 =>
        obtain rfl := Option.some.inj stands
        obtain rfl := RowSource.join.inj parent
        decide
  exact ⟨ordered, (expand_places Sample.boxJoins ordered [[], Sample.room]).1⟩

example : Row.expand Sample.boxJoins [⟨[], []⟩, ⟨Sample.room, []⟩] =
    [⟨Sample.room, [Sample.shelf 7, [("id", .int 7)]]⟩,
      ⟨Sample.room, [Sample.shelf 8, [("id", .int 8)]]⟩] := by
  rfl

end Row

end EntitySearch
