import EntitySearch.Proofs.Distinct
import EntitySearch.Proofs.Equality

/-! Groups of rows.

A row goes to the first group with its key, or founds a group behind all others.
Groups share the rows among them, and counting them counts every row once.
-/

set_option autoImplicit false

namespace EntitySearch

namespace Keyed

variable {α : Type}

theorem put_new {entries : Keyed α} {key : String} (value : α) (new : key ∉ keys entries) :
    put entries key value = entries ++ [(key, value)] := by
  induction entries with
  | nil => rfl
  | cons entry rest ih =>
    obtain ⟨k, v⟩ := entry
    rw [keys, List.map_cons, List.mem_cons, not_or] at new
    rw [put, if_neg (Ne.symm new.1), ih new.2]
    rfl

theorem ofEntries_of_nodup {entries : List (String × α)} (once : (keys entries).Nodup) :
    ofEntries entries = entries := by
  have grows : ∀ done : Keyed α, (keys (done ++ entries)).Nodup →
      entries.foldl (fun done entry => put done entry.1 entry.2) done = done ++ entries := by
    clear once
    induction entries with
    | nil => exact fun done _ => (List.append_nil done).symm
    | cons entry rest ih =>
      intro done once
      have new : entry.1 ∉ keys done := by
        rw [keys, List.map_append, List.map_cons] at once
        have apart := (List.nodup_append.mp once).2.2
        exact fun held => apart _ held _ List.mem_cons_self rfl
      rw [List.append_cons] at once
      rw [List.foldl_cons, put_new entry.2 new, ih _ once, List.append_assoc]
      rfl
  exact grows [] once

end Keyed

namespace Plan

section
variable {key : List Value} {row : Row} {gs : List Group}

/-- A row joins the first group with its key, or founds the last group. -/
theorem addToGroups_cases (key : List Value) (row : Row) (gs : List Group) :
    (∃ front g back, gs = front ++ g :: back ∧ sameKey g.key key = true ∧
      addToGroups key row gs = front ++ { g with rows := g.rows ++ [row] } :: back) ∨
    ((∀ g ∈ gs, sameKey g.key key = false) ∧ addToGroups key row gs = gs ++ [⟨key, [row]⟩]) := by
  induction gs with
  | nil => exact .inr ⟨nofun, rfl⟩
  | cons g rest ih =>
    rw [addToGroups]
    split
    · next met => exact .inl ⟨[], g, rest, rfl, met, rfl⟩
    · next different =>
      rw [Bool.not_eq_true] at different
      rcases ih with ⟨front, h, back, rfl, met, added⟩ | ⟨new, added⟩
      · exact .inl ⟨g :: front, h, back, rfl, met, congrArg (g :: ·) added⟩
      · exact .inr ⟨List.forall_mem_cons.mpr ⟨different, new⟩, congrArg (g :: ·) added⟩

theorem addToGroups_keys (key : List Value) (row : Row) (gs : List Group) :
    (addToGroups key row gs).map Group.key =
      if (gs.map Group.key).any fun k => sameKey k key then gs.map Group.key
      else gs.map Group.key ++ [key] := by
  induction gs with
  | nil => rfl
  | cons g rest ih =>
    rw [addToGroups, List.map_cons, List.any_cons]
    cases met : sameKey g.key key with
    | true => rfl
    | false =>
      rw [if_neg Bool.false_ne_true, List.map_cons, ih, Bool.false_or]
      split <;> rfl

end

/-- The rows of a group: the first has the key of the group, all others have one that equals it. -/
def Group.Of (keys : List Expr) (g : Group) : Prop :=
  ∃ first others, g.rows = first :: others ∧ Expr.evalAll first keys = .ok g.key ∧
    ∀ row ∈ others, ∃ key, Expr.evalAll row keys = .ok key ∧ sameKey g.key key = true

/-- What grouping makes of rows. -/
structure Partition (keys : List Expr) (rows : List Row) (gs : List Group) : Prop where
  /-- Every row is in one group, as often as it was there. -/
  covers : (gs.flatMap Group.rows).Perm rows
  ordered : ∀ g ∈ gs, g.rows.Sublist rows
  keyed : ∀ g ∈ gs, g.Of keys
  /-- No group has a key that equals the key of an earlier one. -/
  apart : (gs.map Group.key).Pairwise fun a b => sameKey a b = false
  /-- The groups come in the order of their first rows. -/
  led : (gs.filterMap fun g => g.rows.head?).Sublist rows

namespace Partition

variable {keys : List Expr} {seen rows : List Row} {gs : List Group} {key : List Value} {row : Row}

theorem nil (keys : List Expr) : Partition keys [] [] :=
  ⟨.refl _, nofun, nofun, .nil, .slnil⟩

theorem join {front back : List Group} {g : Group} (h : Partition keys seen (front ++ g :: back))
    (value : Expr.evalAll row keys = .ok key) (met : sameKey g.key key = true) :
    Partition keys (seen ++ [row]) (front ++ { g with rows := g.rows ++ [row] } :: back) := by
  obtain ⟨first, others, held, own, equal⟩ := h.keyed g (by simp)
  constructor
  · -- The row moves from the end of its group behind all others.
    have moved : (front.flatMap Group.rows ++ (g.rows ++ [row] ++ back.flatMap Group.rows)).Perm
        (front.flatMap Group.rows ++ (g.rows ++ back.flatMap Group.rows) ++ [row]) := by
      rw [List.append_assoc, List.append_assoc, List.append_assoc]
      exact (List.perm_append_comm.append_left _).append_left _
    have covers := h.covers.append_right [row]
    simp only [List.flatMap_append, List.flatMap_cons] at covers ⊢
    exact moved.trans covers
  · intro k there
    rcases List.mem_append.mp there with there | there
    · exact (h.ordered k (by simp [there])).trans (List.sublist_append_left _ _)
    · rcases List.mem_cons.mp there with rfl | there
      · exact (h.ordered g (by simp)).append (List.Sublist.refl [row])
      · exact (h.ordered k (by simp [there])).trans (List.sublist_append_left _ _)
  · intro k there
    rcases List.mem_append.mp there with there | there
    · exact h.keyed k (by simp [there])
    · rcases List.mem_cons.mp there with rfl | there
      · refine ⟨first, others ++ [row], by simp [held], own, fun other held => ?_⟩
        rcases List.mem_append.mp held with held | last
        · exact equal other held
        · obtain rfl := List.mem_singleton.mp last
          exact ⟨key, value, met⟩
      · exact h.keyed k (by simp [there])
  · have apart := h.apart
    simpa only [List.map_append, List.map_cons] using apart
  · have led := h.led.trans (List.sublist_append_left seen [row])
    simp only [List.filterMap_append, List.filterMap_cons, held, List.cons_append,
      List.head?_cons] at led ⊢
    exact led

theorem found (h : Partition keys seen gs) (value : Expr.evalAll row keys = .ok key)
    (new : ∀ g ∈ gs, sameKey g.key key = false) :
    Partition keys (seen ++ [row]) (gs ++ [⟨key, [row]⟩]) := by
  constructor
  · rw [List.flatMap_append]
    exact h.covers.append (by simp)
  · intro k there
    rcases List.mem_append.mp there with there | last
    · exact (h.ordered k there).trans (List.sublist_append_left _ _)
    · obtain rfl := List.mem_singleton.mp last
      exact List.sublist_append_right seen [row]
  · intro k there
    rcases List.mem_append.mp there with there | last
    · exact h.keyed k there
    · obtain rfl := List.mem_singleton.mp last
      exact ⟨row, [], rfl, value, nofun⟩
  · rw [List.map_append]
    refine List.pairwise_append.mpr ⟨h.apart, List.pairwise_singleton _ _, ?_⟩
    intro a held b last
    obtain ⟨g, there, rfl⟩ := List.mem_map.mp held
    obtain rfl := List.mem_singleton.mp last
    exact new g there
  · rw [List.filterMap_append]
    exact h.led.append (List.Sublist.refl [row])

theorem add (h : Partition keys seen gs) (value : Expr.evalAll row keys = .ok key) :
    Partition keys (seen ++ [row]) (addToGroups key row gs) := by
  rcases addToGroups_cases key row gs with ⟨front, g, back, rfl, met, added⟩ | ⟨new, added⟩
  · rw [added]
    exact h.join value met
  · rw [added]
    exact h.found value new

/-- Grouping goes on where a partition stands. -/
theorem run (h : Partition keys seen gs)
    (keyed : ∀ row ∈ rows, ∃ key, Expr.evalAll row keys = .ok key) :
    ∃ out, rows.foldlM (fun done row => do
        return addToGroups (← Expr.evalAll row keys) row done) gs =
          (.ok out : Except QueryError (List Group)) ∧
      Partition keys (seen ++ rows) out := by
  induction rows generalizing seen gs with
  | nil => exact ⟨gs, rfl, by rwa [List.append_nil]⟩
  | cons row rest ih =>
    obtain ⟨key, value⟩ := keyed row List.mem_cons_self
    obtain ⟨out, ran, partition⟩ := ih (h.add value) fun r held => keyed r (List.mem_cons_of_mem row held)
    refine ⟨out, ?_, by rwa [List.append_assoc] at partition⟩
    rw [List.foldlM_cons, value]
    exact ran

theorem length_sum (h : Partition keys rows gs) :
    (gs.map fun g => g.rows.length).sum = rows.length := by
  rw [← h.covers.length_eq, List.length_flatMap]

end Partition

theorem groups_partition {keys : List Expr} {rows : List Row}
    (keyed : ∀ row ∈ rows, ∃ key, Expr.evalAll row keys = .ok key) :
    ∃ gs, groups keys rows = .ok gs ∧ Partition keys rows gs :=
  (Partition.nil keys).run keyed

theorem sameKey_iff {a b : List Value} :
    sameKey a b = true ↔ List.Forall₂ (fun v w => v.equals w = true) a b := by
  rw [sameKey, Bool.and_eq_true, beq_iff_eq, List.all_eq_true, List.forall₂_iff_zip]
  simp only [Prod.forall]

theorem sameKey_symm {a b : List Value} (left : ∀ v ∈ a, v.proper = true)
    (right : ∀ v ∈ b, v.proper = true) : sameKey a b = sameKey b a := by
  have turned : ∀ {a b : List Value}, (∀ v ∈ a, v.proper = true) → (∀ v ∈ b, v.proper = true) →
      sameKey a b = true → sameKey b a = true := by
    intro a b left right same
    rw [sameKey_iff] at same ⊢
    induction same with
    | nil => exact .nil
    | cons met _ ih =>
      rw [List.forall_mem_cons] at left right
      exact .cons (Value.equals_symm left.1 right.1 ▸ met) (ih left.2 right.2)
  rw [Bool.eq_iff_iff]
  exact ⟨turned left right, turned right left⟩

/-- A key equals itself unless it holds a double that is no number. -/
theorem sameKey_self {key : List Value} (properly : ∀ v ∈ key, v.proper = true) :
    sameKey key key = true ↔ ∀ v ∈ key, v.holdsNaN = false := by
  rw [sameKey_iff, List.forall₂_same]
  apply forall₂_congr
  intro v held
  rw [Value.equals_self, Value.same_self v (properly v held)]

theorem count_evalGroup {name : String} (counts : Aggregate.ofName? name = some .count)
    (unit : List Row) : (Expr.call name []).evalGroup unit = .ok (.int unit.length) := by
  have seen : unit.mapM (Expr.aggregated []) =
      (.ok (unit.map fun _ => .bool true) : Except QueryError (List Value)) :=
    mapM_ok unit fun _ _ => rfl
  rw [Expr.evalGroup, counts]
  show (do Aggregate.count.apply (← unit.mapM (Expr.aggregated []))) = _
  rw [seen]
  show Aggregate.count.apply _ = _
  have present : ((unit.map fun _ => Value.bool true).filter fun v => !v.isNull) =
      unit.map fun _ => Value.bool true := List.filter_eq_self.mpr (by simp [Value.isNull])
  rw [Aggregate.apply, present, List.length_map]

variable {p : Plan}

theorem units_of_keys (grouped : p.groupBy ≠ []) {rows : List Row} {gs : List Group}
    (found : groups p.groupBy rows = .ok gs) : p.units rows = .ok (gs.map Group.rows) := by
  have keyed : p.groupBy.isEmpty = false := by
    simpa using grouped
  have asked : p.isGrouped = true := by
    rw [isGrouped, keyed]
    rfl
  rw [units, asked, keyed, found]
  rfl

theorem exists_units_sum (asked : p.isGrouped = true) {rows : List Row}
    (keyed : ∀ row ∈ rows, ∃ key, Expr.evalAll row p.groupBy = .ok key) :
    ∃ units, p.units rows = .ok units ∧ (units.map List.length).sum = rows.length := by
  by_cases grouped : p.groupBy = []
  · refine ⟨[rows], ?_, by simp⟩
    rw [units, asked, grouped]
    rfl
  · obtain ⟨gs, found, partition⟩ := groups_partition keyed
    refine ⟨gs.map Group.rows, units_of_keys grouped found, ?_⟩
    rw [List.map_map]
    exact partition.length_sum

theorem sortUnits_perm {units sorted : List (List Row)} (sorts : p.sortUnits units = .ok sorted) :
    sorted.Perm units := by
  obtain ⟨keyed, found, sorting⟩ := bind_ok_inv sorts
  obtain ⟨ordered, moved, done⟩ := bind_ok_inv sorting
  obtain rfl := Except.ok.inj done
  have units : keyed.map (·.2) = units := by
    have paired := forall₂_of_mapM found
    clear found sorting moved done sorts
    induction paired with
    | nil => rfl
    | cons first _ ih =>
      obtain ⟨key, -, pair⟩ := bind_ok_inv first
      obtain rfl := Except.ok.inj pair
      rw [List.map_cons, ih]
  rw [← units]
  exact (sortBy_perm moved).map _

def columnKeys (p : Plan) : List String :=
  p.projection.selections.mapIdx fun i s => s.key i

section
variable {unit : List Row} {ss : List Selection} {position : Nat} {entries : Keyed Value}

theorem selectValues_keys (selected : selectValues unit position ss = .ok entries) :
    Keyed.keys entries = ss.mapIdx fun i s => s.key (position + i) := by
  induction ss generalizing position entries with
  | nil =>
    obtain rfl := Except.ok.inj selected
    rfl
  | cons s rest ih =>
    obtain ⟨v, -, selected⟩ := bind_ok_inv selected
    obtain ⟨others, found, selected⟩ := bind_ok_inv selected
    obtain rfl := Except.ok.inj selected
    rw [List.mapIdx_cons, Keyed.keys, List.map_cons]
    congr 1
    rw [← Keyed.keys, ih found]
    congr 1
    funext i s
    congr 1
    omega

theorem selectValues_mem (selected : selectValues unit position ss = .ok entries) {i : Nat}
    {s : Selection} (stands : ss[i]? = some s) :
    ∃ v, s.expr.evalGroup unit = .ok v ∧ (s.key (position + i), v) ∈ entries := by
  induction ss generalizing position entries i with
  | nil => cases stands
  | cons t rest ih =>
    obtain ⟨v, value, selected⟩ := bind_ok_inv selected
    obtain ⟨others, found, selected⟩ := bind_ok_inv selected
    obtain rfl := Except.ok.inj selected
    cases i with
    | zero =>
      obtain rfl := Option.some.inj stands
      exact ⟨v, value, List.mem_cons_self⟩
    | succ i =>
      obtain ⟨w, value, held⟩ := ih found stands
      refine ⟨w, value, List.mem_cons_of_mem _ ?_⟩
      rwa [Nat.add_assoc, Nat.add_comm 1 i] at held

end

theorem project_find {ss : List Selection} (columns : p.projection = .columns ss)
    (once : p.columnKeys.Nodup) {unit : List Row} {r : Record} (projected : p.project unit = .ok r)
    {i : Nat} {s : Selection} (stands : ss[i]? = some s) :
    ∃ v, s.expr.evalGroup unit = .ok v ∧ Keyed.find? r (s.key i) = some v := by
  rw [project, columns] at projected
  obtain ⟨entries, selected, done⟩ := bind_ok_inv projected
  obtain rfl := Except.ok.inj done
  have keys : Keyed.keys entries = p.columnKeys := by
    rw [selectValues_keys selected, columnKeys, columns]
    simp only [Projection.selections, Nat.zero_add]
  obtain ⟨v, value, held⟩ := selectValues_mem selected stands
  rw [Nat.zero_add] at held
  refine ⟨v, value, ?_⟩
  rw [Keyed.ofEntries_of_nodup (keys ▸ once)]
  exact Keyed.find?_of_mem (keys ▸ once) held

/-- The rows of a result that is neither freed of repetitions nor cut are made of the groups. -/
theorem execute_rows {tables : Tables} {rows : List Row} {records : List Record}
    (matched : p.matchedRows (tables.records p.root) = .ok rows)
    (ran : p.execute tables = .ok (.rows records)) (all : p.distinct = false)
    (start : p.offset = none) (uncut : p.limit = none) {units : List (List Row)}
    (grouped : p.units rows = .ok units) :
    ∃ sorted : List (List Row), sorted.Perm units ∧
      List.Forall₂ (fun unit r => p.project unit = .ok r) sorted records := by
  have fetched : p.fetch rows = .ok records := by
    obtain ⟨_, same, ran⟩ := bind_ok_inv ran
    obtain rfl := Except.ok.inj (same.symm.trans matched)
    cases selected : p.projection with
    | count =>
      rw [selected] at ran
      cases ran
    | entity =>
      rw [selected] at ran
      obtain ⟨_, -, done⟩ := bind_ok_inv ran
      cases done
    | columns ss =>
      rw [selected] at ran
      obtain ⟨found, fetched, done⟩ := bind_ok_inv ran
      obtain rfl := ResultSet.rows.inj (Except.ok.inj done)
      exact fetched
  unfold fetch at fetched
  obtain ⟨_, same, fetched⟩ := bind_ok_inv fetched
  obtain rfl := Except.ok.inj (same.symm.trans grouped)
  obtain ⟨sorted, sorts, fetched⟩ := bind_ok_inv fetched
  obtain ⟨projected, mapped, done⟩ := bind_ok_inv fetched
  have whole : p.page (p.dedupe projected) = projected := by
    simp [page_uncut start uncut, dedupe, all]
  obtain rfl : projected = records := whole.symm.trans (Except.ok.inj done)
  exact ⟨sorted, sortUnits_perm sorts, forall₂_of_mapM mapped⟩

theorem Partition.separate {keys : List Expr} {rows : List Row} {gs : List Group}
    (h : Partition keys rows gs) (properly : ∀ g ∈ gs, ∀ v ∈ g.key, v.proper = true) :
    gs.Pairwise fun g k => sameKey g.key k.key = false ∧ sameKey k.key g.key = false := by
  apply (List.pairwise_map.mp h.apart).imp_of_mem
  intro g k left right different
  rw [sameKey_symm (properly k right) (properly g left)]
  exact ⟨different, different⟩

theorem counts_sum {rows : List Row}
    (keyed : ∀ row ∈ rows, ∃ key, Expr.evalAll row p.groupBy = .ok key) {i : Nat} {s : Selection}
    {name : String} (stands : p.projection.selections[i]? = some s) (counting : s.expr = .call name [])
    (counts : Aggregate.ofName? name = some .count) :
    ∃ units, p.units rows = .ok units ∧
      units.mapM (fun unit => s.expr.evalGroup unit) = .ok (units.map fun unit => .int unit.length) ∧
      (units.map List.length).sum = rows.length ∧
      ∀ (tables : Tables) (records : List Record),
        p.matchedRows (tables.records p.root) = .ok rows → p.execute tables = .ok (.rows records) →
        p.distinct = false → p.offset = none → p.limit = none → p.columnKeys.Nodup →
        ∃ ns : List Nat, ns.sum = rows.length ∧
          records.map (Keyed.find? · (s.key i)) = ns.map fun n => some (.int n) := by
  have counted : ∀ unit, s.expr.evalGroup unit = .ok (.int unit.length) := by
    rw [counting]
    exact count_evalGroup counts
  have asked : p.isGrouped = true := by
    have aggregate : s.expr.hasAggregate = true := by
      rw [counting, Expr.hasAggregate, isAggregate, counts]
      rfl
    have found : p.projection.hasAggregate = true :=
      List.any_eq_true.mpr ⟨s, List.mem_of_getElem? stands, aggregate⟩
    rw [isGrouped, found, Bool.or_true]
  obtain ⟨units, grouped, sum⟩ := exists_units_sum asked keyed
  refine ⟨units, grouped, mapM_ok units fun unit _ => counted unit, sum, ?_⟩
  intro tables records matched ran all start uncut once
  obtain ⟨sorted, perm, projected⟩ := execute_rows matched ran all start uncut grouped
  refine ⟨sorted.map List.length, (perm.map _).sum_eq.trans sum, ?_⟩
  obtain ⟨ss, columns⟩ : ∃ ss, p.projection = .columns ss := by
    cases selected : p.projection with
    | columns ss => exact ⟨ss, rfl⟩
    | entity | count =>
      rw [selected] at stands
      cases stands
  rw [columns] at stands
  clear perm ran
  induction projected with
  | nil => rfl
  | cons made _ ih =>
    obtain ⟨v, value, found⟩ := project_find columns once made stands
    obtain rfl := Except.ok.inj (value.symm.trans (counted _))
    rw [List.map_cons, List.map_cons, List.map_cons, found, ih]

/-- Grouping is a partition. Keys of different groups never equal each other, the keys within a
group equal that of its first row, which equals itself as long as it is made of numbers; and the
counts of all groups add up. -/
theorem grouping (p : Plan) (rows : List Row)
    (keyed : ∀ row ∈ rows, ∃ key, Expr.evalAll row p.groupBy = .ok key) :
    (p.groupBy ≠ [] → ∃ gs, p.units rows = .ok (gs.map Group.rows) ∧ Partition p.groupBy rows gs ∧
      ((∀ g ∈ gs, ∀ v ∈ g.key, v.proper = true) →
        (gs.Pairwise fun g k => sameKey g.key k.key = false ∧ sameKey k.key g.key = false) ∧
        ∀ g ∈ gs, sameKey g.key g.key = true ↔ ∀ v ∈ g.key, v.holdsNaN = false)) ∧
    ∀ (i : Nat) (s : Selection) (name : String), p.projection.selections[i]? = some s →
      s.expr = .call name [] → Aggregate.ofName? name = some .count →
      ∃ units, p.units rows = .ok units ∧
        units.mapM (fun unit => s.expr.evalGroup unit) =
          .ok (units.map fun unit => .int unit.length) ∧
        (units.map List.length).sum = rows.length ∧
        ∀ (tables : Tables) (records : List Record),
          p.matchedRows (tables.records p.root) = .ok rows →
          p.execute tables = .ok (.rows records) →
          p.distinct = false → p.offset = none → p.limit = none → p.columnKeys.Nodup →
          ∃ ns : List Nat, ns.sum = rows.length ∧
            records.map (Keyed.find? · (s.key i)) = ns.map fun n => some (.int n) := by
  refine ⟨fun grouped => ?_, fun i s name => counts_sum keyed⟩
  obtain ⟨gs, found, partition⟩ := groups_partition keyed
  refine ⟨gs, units_of_keys grouped found, partition, fun properly => ?_⟩
  exact ⟨partition.separate properly, fun g there => sameKey_self (properly g there)⟩

end Plan

namespace Sample

def namesakes : Plan where
  root := "Person"
  identifier := "id"
  joins := []
  projection := .columns [⟨.field ⟨.root, ["name"], "name"⟩, some "name"⟩,
    ⟨.call "count" [], some "count"⟩]
  filters := []
  groupBy := [.field ⟨.root, ["name"], "name"⟩]
  distinct := false

/-- One count for each person, of which all that are equal are one. -/
def rollCall : Plan where
  root := "Person"
  identifier := "id"
  joins := []
  projection := .columns [⟨.call "count" [], some "count"⟩]
  filters := []
  groupBy := [.field ⟨.root, ["id"], "id"⟩]
  distinct := true

def people : List Row := (tables.records "Person").map fun r => ⟨r, []⟩

def nameless : Row := ⟨[("name", .float (0 / 0))], []⟩

end Sample

namespace Plan

/-- Three people with two names. -/
theorem grouping_people :
    (∀ row ∈ Sample.people, ∃ key, Expr.evalAll row Sample.namesakes.groupBy = .ok key) ∧
      ∃ gs, Sample.namesakes.units Sample.people = .ok (gs.map Group.rows) ∧
        Partition Sample.namesakes.groupBy Sample.people gs := by
  have keyed : ∀ row ∈ Sample.people, ∃ key,
      Expr.evalAll row Sample.namesakes.groupBy = .ok key := fun row _ => ⟨[row.field _], rfl⟩
  obtain ⟨gs, units, partition, -⟩ :=
    (grouping Sample.namesakes Sample.people keyed).1 (List.cons_ne_nil _ _)
  exact ⟨keyed, gs, units, partition⟩

example : (Sample.namesakes.units Sample.people).map (·.map List.length) = .ok [2, 1] := by
  rfl

/-- The key of a group with one row need not equal itself, and counts of a result that is freed of
repetitions need not add up. -/
theorem grouping_fails :
    Sample.namesakes.units [Sample.nameless] = .ok [[Sample.nameless]] ∧
      Expr.evalAll Sample.nameless Sample.namesakes.groupBy = .ok [.float (0 / 0)] ∧
      sameKey [.float (0 / 0)] [.float (0 / 0)] = false ∧
      Sample.rollCall.matchedRows (Sample.tables.records "Person") = .ok Sample.people ∧
      Sample.people.length = 3 ∧
      Sample.rollCall.execute Sample.tables = .ok (.rows [[("count", .int 1)]]) :=
  ⟨rfl, rfl, by decide +kernel, rfl, rfl, rfl⟩

end Plan

end EntitySearch
