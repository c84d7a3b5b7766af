import EntitySearch.Proofs.Cursor
import EntitySearch.Proofs.Grouping

/-! Values that repeat.

Rows are freed of repetitions within the kinds of values, and grouped by equality
across them. Both find the same repetitions of an attribute if and only if values
that are equal also hold the same.
-/

set_option autoImplicit false

namespace EntitySearch

section
variable {α β : Type} {repeats : α → α → Bool}

theorem keepFirst_map (f : β → α) (kept xs : List β) :
    keepFirst repeats (kept.map f) (xs.map f) =
      (keepFirst (fun a b => repeats (f a) (f b)) kept xs).map f := by
  induction xs generalizing kept with
  | nil => rfl
  | cons x rest ih =>
    have grown : (kept ++ [x]).map f = kept.map f ++ [f x] := List.map_append
    simp only [List.map_cons, keepFirst, List.any_map, Function.comp_def, apply_ite (List.map f),
      ← ih, grown]

theorem keepFirst_part (repeats : α → α → Bool) (xs : List α) :
    (keepFirst repeats [] xs).Sublist xs := by
  obtain ⟨new, part, whole⟩ := @keepFirst_sublist α repeats [] xs
  rw [List.nil_append] at whole
  rwa [whole]

theorem keepFirst_of_pairwise {xs : List α} (apart : xs.Pairwise fun a b => repeats a b = false) :
    keepFirst repeats [] xs = xs := by
  have stays : ∀ kept : List α, (kept ++ xs).Pairwise (fun a b => repeats a b = false) →
      keepFirst repeats kept xs = kept ++ xs := by
    clear apart
    induction xs with
    | nil => exact fun kept _ => (List.append_nil kept).symm
    | cons x rest ih =>
      intro kept apart
      have new : (kept.any fun k => repeats k x) = false := by
        apply List.any_eq_false.mpr
        intro k held
        simpa using (List.pairwise_append.mp apart).2.2 k held x List.mem_cons_self
      rw [List.append_cons] at apart ⊢
      rw [keepFirst, new, if_neg Bool.false_ne_true, ih _ apart]
  exact stays [] apart

theorem keepFirst_length_iff (xs : List α) :
    (keepFirst repeats [] xs).length = xs.length ↔ xs.Pairwise fun a b => repeats a b = false := by
  constructor
  · intro whole
    have apart := @keepFirst_pairwise α repeats [] xs .nil
    rwa [(keepFirst_part repeats xs).eq_of_length whole] at apart
  · intro apart
    rw [keepFirst_of_pairwise apart]

theorem keepFirst_length_congr {kept others xs : List α} (lengths : kept.length = others.length)
    (alike : ∀ x ∈ xs, (kept.any fun k => repeats k x) = others.any fun k => repeats k x) :
    (keepFirst repeats kept xs).length = (keepFirst repeats others xs).length := by
  induction xs generalizing kept others with
  | nil => exact lengths
  | cons x rest ih =>
    obtain ⟨here, alike⟩ := List.forall_mem_cons.mp alike
    rw [keepFirst, keepFirst, here]
    split
    · exact ih lengths alike
    · apply ih (by simp [lengths])
      intro y held
      rw [List.any_append, List.any_append, alike y held]

/-- In whichever order elements come, as many are kept, where repeating goes both ways and elements
that repeat each other are repeated by the same. -/
theorem keepFirst_length_perm {P : α → Prop}
    (symm : ∀ a b, P a → P b → repeats a b = repeats b a)
    (congr : ∀ a b c, P a → P b → repeats a b = true → repeats a c = repeats b c)
    {xs ys : List α} (perm : xs.Perm ys) (all : ∀ x ∈ xs, P x) (kept : List α) :
    (keepFirst repeats kept xs).length = (keepFirst repeats kept ys).length := by
  induction perm generalizing kept with
  | nil => rfl
  | cons x _ ih =>
    have rest := (List.forall_mem_cons.mp all).2
    rw [keepFirst, keepFirst]
    split
    · exact ih rest kept
    · exact ih rest _
  | trans first _ ih ih' =>
    exact (ih all kept).trans (ih' (fun y held => all y (first.mem_iff.mpr held)) kept)
  | swap x y rest =>
    obtain ⟨right, all⟩ := List.forall_mem_cons.mp all
    have left := (List.forall_mem_cons.mp all).1
    have turned := symm x y left right
    simp only [keepFirst, List.any_append, List.any_cons, List.any_nil, Bool.or_false, ← turned]
    cases known : kept.any fun k => repeats k x with
    | true => simp
    | false =>
      cases known' : kept.any fun k => repeats k y with
      | true => simp
      | false =>
        cases met : repeats x y with
        | true =>
          simp only [Bool.or_true, if_true, Bool.false_eq_true, if_false]
          apply keepFirst_length_congr (by simp)
          intro z _
          simp [congr x y z left right met]
        | false =>
          simp only [Bool.or_false, Bool.false_eq_true, if_false]
          apply keepFirst_length_congr (by simp)
          intro z _
          simp [Bool.or_comm]

section
variable {finer : α → α → Bool} {P : α → Prop}

/-- What is kept by a finer sense of repeating was kept, or repeats what was, and is all that matters
from then on. -/
theorem keepFirst_finer
    (coarser : ∀ a b, P a → P b → finer a b = true → repeats a b = true)
    (congr : ∀ a b c, P a → P b → P c → finer a b = true → repeats c a = true → repeats c b = true)
    {xs : List α} (all : ∀ x ∈ xs, P x) {kept fine : List α} (keptAll : ∀ x ∈ kept, P x)
    (fineAll : ∀ x ∈ fine, P x)
    (covered : ∀ x ∈ fine, x ∈ kept ∨ (kept.any fun k => repeats k x) = true) :
    ∃ new, keepFirst finer fine xs = fine ++ new ∧
      keepFirst repeats kept new = keepFirst repeats kept xs := by
  induction xs generalizing kept fine with
  | nil => exact ⟨[], by simp [keepFirst], rfl⟩
  | cons x rest ih =>
    obtain ⟨here, all⟩ := List.forall_mem_cons.mp all
    have ih := @ih all
    rw [keepFirst]
    split
    · next known =>
      obtain ⟨a, held, met⟩ := List.any_eq_true.mp known
      have again : (kept.any fun k => repeats k x) = true := by
        apply List.any_eq_true.mpr
        rcases covered a held with there | there
        · exact ⟨a, there, coarser a x (fineAll a held) here met⟩
        · obtain ⟨k, there, met'⟩ := List.any_eq_true.mp there
          exact ⟨k, there, congr a x k (fineAll a held) here (keptAll k there) met met'⟩
      obtain ⟨new, found, same⟩ := ih keptAll fineAll covered
      refine ⟨new, found, ?_⟩
      rw [same, keepFirst, again, if_pos rfl]
    · have fineAll := List.forall_mem_append.mpr ⟨fineAll, List.forall_mem_singleton.mpr here⟩
      cases again : kept.any fun k => repeats k x with
      | true =>
        have covered := List.forall_mem_append.mpr
          ⟨covered, List.forall_mem_singleton.mpr (.inr again)⟩
        obtain ⟨new, found, same⟩ := ih keptAll fineAll covered
        refine ⟨x :: new, by rw [found, List.append_assoc]; rfl, ?_⟩
        rw [keepFirst, keepFirst, again, if_pos rfl, if_pos rfl, same]
      | false =>
        have keptAll := List.forall_mem_append.mpr ⟨keptAll, List.forall_mem_singleton.mpr here⟩
        have grown : ∀ a ∈ fine ++ [x],
            a ∈ kept ++ [x] ∨ ((kept ++ [x]).any fun k => repeats k a) = true := by
          refine List.forall_mem_append.mpr ⟨fun a held => ?_, by simp⟩
          rw [List.any_append, List.mem_append]
          exact (covered a held).imp .inl fun met => by rw [met, Bool.true_or]
        obtain ⟨new, found, same⟩ := ih keptAll fineAll grown
        refine ⟨x :: new, by rw [found, List.append_assoc]; rfl, ?_⟩
        rw [keepFirst, keepFirst, again, if_neg Bool.false_ne_true, if_neg Bool.false_ne_true, same]

theorem keepFirst_coarser
    (coarser : ∀ a b, P a → P b → finer a b = true → repeats a b = true)
    (congr : ∀ a b c, P a → P b → P c → finer a b = true → repeats c a = true → repeats c b = true)
    {xs : List α} (all : ∀ x ∈ xs, P x) :
    keepFirst repeats [] (keepFirst finer [] xs) = keepFirst repeats [] xs := by
  obtain ⟨new, found, same⟩ := keepFirst_finer coarser congr all (List.forall_mem_nil P)
    (List.forall_mem_nil P) (List.forall_mem_nil _)
  rw [found, List.nil_append, same]

end

end

namespace Value

/-- Values of which none equals one of another type. -/
def Strict (vs : List Value) : Prop :=
  ∀ v ∈ vs, ∀ w ∈ vs, v.equals w = true → v.typeName = w.typeName

section
variable {vs ws : List Value}

theorem strict_same : Strict vs ↔ ∀ v ∈ vs, ∀ w ∈ vs, v.equals w = true → v.same w = true := by
  unfold Strict
  apply forall₄_congr
  intro v _ w _
  constructor
  · intro named equal
    exact equals_of_typeName (named equal) ▸ equal
  · intro met equal
    exact typeName_of_same (met equal)

theorem eq_of_apart (stored : ∀ v ∈ vs, v.proper = true)
    (apart : vs.Pairwise fun v w => v.equals w = false) {k l : Value} (left : k ∈ vs)
    (right : l ∈ vs) (equal : k.equals l = true) : k = l := by
  have turns : Std.Symm fun v w : Value => v.equals w = false ∧ w.equals v = false :=
    ⟨fun _ _ both => both.symm⟩
  have both : vs.Pairwise fun v w => v.equals w = false ∧ w.equals v = false := by
    apply apart.imp_of_mem
    intro v w left right different
    exact ⟨different, equals_symm (stored v left) (stored w right) ▸ different⟩
  by_contra different
  cases equal.symm.trans (both.forall left right different).1

section
variable {k l v w : Value}

theorem equals_of_kept (proper : k.proper = true) (proper' : v.proper = true)
    (kept : k = v ∨ k.same v = true) : k.equals w = v.equals w := by
  rcases kept with rfl | met
  · rfl
  · exact equals_congr proper proper' met

theorem same_of_kept (proper : k.proper = true) (left : v.proper = true)
    (first : k = v ∨ k.same v = true) (second : k = w ∨ k.same w = true)
    (equal : v.equals w = true) : v.same w = true := by
  rcases first with rfl | first
  · rcases second with rfl | second
    · exact (equals_self k).symm.trans equal
    · exact second
  · have back := same_symm k proper left first
    rcases second with rfl | second
    · exact back
    · exact same_trans v back second

end

theorem strict_iff (stored : ∀ v ∈ vs, v.proper = true) :
    Strict vs ↔ (keepFirst same [] vs).Pairwise fun v w => v.equals w = false := by
  have part := keepFirst_part same vs
  have apart := @keepFirst_pairwise Value same [] vs .nil
  have covers : ∀ v ∈ vs, ∃ k ∈ keepFirst same [] vs, k = v ∨ k.same v = true :=
    fun v held => keepFirst_covers [] held
  generalize keepFirst same [] vs = kept at part apart covers ⊢
  have within : ∀ v ∈ kept, v.proper = true := fun v held => stored v (part.subset held)
  rw [strict_same]
  constructor
  · intro strict
    apply apart.imp_of_mem
    intro v w left right different
    apply Bool.eq_false_iff.mpr
    intro equal
    have met := strict v (part.subset left) w (part.subset right) equal
    cases met.symm.trans different
  · intro distinct v left w right equal
    obtain ⟨k, held, first⟩ := covers v left
    obtain ⟨l, held', second⟩ := covers w right
    -- What was kept for the two values is equal as they are, so that it is one value.
    have met : k.equals l = true := by
      rw [equals_of_kept (within k held) (stored v left) first,
        equals_symm (stored v left) (within l held'),
        equals_of_kept (within l held') (stored w right) second,
        equals_symm (stored w right) (stored v left), equal]
    obtain rfl := eq_of_apart within distinct held held' met
    exact same_of_kept (within k held) (stored v left) first second equal

theorem Strict.of_mem (strict : Strict vs) (held : ∀ w ∈ ws, w ∈ vs) : Strict ws :=
  fun v left w right => strict v (held v left) w (held w right)

theorem strict_perm (perm : ws.Perm vs) : Strict ws ↔ Strict vs :=
  ⟨fun strict => strict.of_mem fun _ held => perm.mem_iff.mpr held,
    fun strict => strict.of_mem fun _ held => perm.mem_iff.mp held⟩

/-- As many values are kept by either equality exactly where values are strict. -/
theorem length_kept_iff (stored : ∀ v ∈ vs, v.proper = true) (perm : ws.Perm vs) :
    (keepFirst same [] ws).length = (keepFirst equals [] vs).length ↔ Strict vs := by
  have symm : ∀ v w : Value, v.proper = true → w.proper = true → v.same w = w.same v := by
    intro v w left right
    rw [Bool.eq_iff_iff]
    exact ⟨same_symm v left right, same_symm w right left⟩
  have congr : ∀ v w u : Value, v.proper = true → w.proper = true → v.same w = true →
      v.same u = w.same u := by
    intro v w u left right met
    rw [Bool.eq_iff_iff]
    exact ⟨same_trans w (same_symm v left right met), same_trans v met⟩
  have all : ∀ w ∈ ws, w.proper = true := fun w held => stored w (perm.mem_iff.mp held)
  have twice : keepFirst equals [] (keepFirst same [] vs) = keepFirst equals [] vs := by
    apply keepFirst_coarser (P := fun v => v.proper = true) _ _ stored
    · exact fun v w left right => equals_of_same left right
    · intro v w u left right there met equal
      rw [equals_symm there right, ← equals_congr left right met, equals_symm left there]
      exact equal
  rw [keepFirst_length_perm symm congr perm all, ← twice, eq_comm, keepFirst_length_iff,
    strict_iff stored]

theorem groups_apart (stored : ∀ v ∈ vs, v.proper = true) :
    keepFirst same [] (keepFirst equals [] vs) = keepFirst equals [] vs := by
  have part := keepFirst_part equals vs
  apply keepFirst_of_pairwise
  apply (keepFirst_pairwise vs .nil).imp_of_mem
  intro v w left right unequal
  apply Bool.eq_false_iff.mpr
  intro met
  have equal := equals_of_same (stored v (part.subset left)) (stored w (part.subset right)) met
  cases equal.symm.trans unequal

end

end Value

section
variable {r : Record} {row out : Row}

theorem Keyed.find?_proper (stored : (Value.object r).proper = true) {key : String} {v : Value}
    (found : Keyed.find? r key = some v) : v.proper = true :=
  (Value.proper_object.mp stored).2 _ (Keyed.mem_of_find? found)

theorem Record.read_proper (stored : (Value.object r).proper = true) (path : List String) :
    (Record.read r path).proper = true := by
  fun_induction Record.read r path with
  | case1 => rfl
  | case2 r last =>
    cases found : Keyed.find? r last with
    | none => rfl
    | some v => exact Keyed.find?_proper stored found
  | case3 r hop rest _ nested found ih => exact ih (Keyed.find?_proper stored found)
  | case4 => rfl

theorem Value.related_proper {v : Value} (proper : v.proper = true) :
    ∀ r ∈ v.related, (Value.object r).proper = true := by
  intro r held
  cases v with
  | object fields =>
    obtain rfl := List.mem_singleton.mp held
    exact proper
  | list items =>
    obtain ⟨item, there, led⟩ := List.mem_filterMap.mp held
    have stored := Value.proper_list.mp proper item there
    cases item with
    | object fields =>
      obtain rfl := Option.some.inj led
      exact stored
    | _ => cases led
  | _ => cases held

def Row.Stored (row : Row) : Prop :=
  (Value.object row.root).proper = true ∧ ∀ r ∈ row.joined, (Value.object r).proper = true

namespace Row.Stored

theorem source (stored : row.Stored) {source : RowSource} (found : row.source? source = some r) :
    (Value.object r).proper = true := by
  cases source with
  | root =>
    obtain rfl := Option.some.inj found
    exact stored.1
  | join i => exact stored.2 r (List.mem_of_getElem? found)

theorem field (stored : row.Stored) (f : FieldRef) : (row.field f).proper = true := by
  rw [Row.field]
  cases found : row.source? f.source with
  | none => rfl
  | some r => exact Record.read_proper (stored.source found) f.path

theorem binds {joins : List Join} (bound : Row.Binds joins row out) (stored : row.Stored) :
    out.Stored := by
  induction bound with
  | done => exact stored
  | @bind j _ row _ r target _ ih =>
    apply ih
    refine ⟨stored.1, List.forall_mem_append.mpr ⟨stored.2, List.forall_mem_singleton.mpr ?_⟩⟩
    rw [Join.targets] at target
    cases found : row.source? j.parent with
    | none =>
      rw [found] at target
      cases target
    | some parent =>
      rw [found] at target
      exact Value.related_proper (Record.read_proper (stored.source found) j.path) r target

end Row.Stored

end

theorem stableSort_never {α : Type} (xs : List α) : stableSort (fun _ _ => false) xs = xs := by
  have grows : ∀ done : List α,
      xs.foldl (fun done x => insertSorted (fun _ _ => false) x done) done = xs.reverse ++ done := by
    induction xs with
    | nil => exact fun _ => rfl
    | cons x rest ih =>
      intro done
      have first : insertSorted (fun _ _ => false) x done = x :: done := by
        cases done <;> rfl
      rw [List.foldl_cons, first, ih, List.reverse_cons, List.append_assoc]
      rfl
  rw [stableSort, grows, List.append_nil, List.reverse_reverse]

theorem sortBy_never {α : Type} (xs : List α) : sortBy (fun _ _ => false) xs = .ok xs := by
  rw [sortBy_ok (.inr ⟨fun _ _ _ _ never => absurd never Bool.false_ne_true,
    fun _ _ _ _ _ _ _ _ => rfl⟩), stableSort_never]

namespace Plan

variable {p : Plan} {f : FieldRef} {name : String}

abbrev column (name : String) (v : Value) : Record := [(name, v)]

theorem sameRecord_column (v w : Value) :
    Value.sameRecord (column name v) (column name w) = v.same w := by
  simp [Value.sameRecord, Value.sameFields, Keyed.find?]

theorem sortUnits_unordered (total : p.Total) (unordered : p.orderBy = [])
    (units : List (List Row)) : p.sortUnits units = .ok units := by
  have never : p.leads = fun _ _ => false := by
    funext a b
    rw [leads, unordered]
    rfl
  rw [sortUnits_eq total, never, sortBy_never]

/-- The groups are led by the keys that repeat none before them. -/
theorem groups_keys {keys : List Expr} {rows : List Row} {gs : List Group}
    {key : Row → List Value} (value : ∀ row, Expr.evalAll row keys = .ok (key row))
    (found : groups keys rows = .ok gs) :
    gs.map Group.key = keepFirst sameKey [] (rows.map key) := by
  have grows : ∀ done : List Group, rows.foldlM (fun done row => do
      return addToGroups (← Expr.evalAll row keys) row done) done =
        (.ok gs : Except QueryError (List Group)) →
      gs.map Group.key = keepFirst sameKey (done.map Group.key) (rows.map key) := by
    clear found
    induction rows with
    | nil =>
      intro done found
      obtain rfl := Except.ok.inj found
      rfl
    | cons row rest ih =>
      intro done found
      rw [List.foldlM_cons, value] at found
      rw [ih _ found, addToGroups_keys, List.map_cons, keepFirst]
      split <;> rfl
  exact grows [] found

structure Lists (p : Plan) (f : FieldRef) (name : String) : Prop where
  selected : p.projection = .columns [⟨.field f, some name⟩]
  distinct : p.distinct = true
  offset : p.offset = none
  limit : p.limit = none
  total : p.Total

def values (p : Plan) (f : FieldRef) (tables : Tables) : List Value :=
  (p.matched (tables.records p.root)).map fun row => row.field f

theorem values_proper {tables : Tables}
    (stored : ∀ r ∈ tables.records p.root, (Value.object r).proper = true) :
    ∀ v ∈ p.values f tables, v.proper = true := by
  intro v held
  obtain ⟨row, there, rfl⟩ := List.mem_map.mp held
  obtain ⟨root, bound, -⟩ := mem_matched.mp there
  exact (Row.Stored.binds bound ⟨stored _ root, nofun⟩).field f

namespace Lists

variable (tables : Tables)

theorem project (lists : p.Lists f name) (row : Row) (others : List Row) :
    p.project (row :: others) = .ok (column name (row.field f)) := by
  rw [Plan.project, lists.selected]
  rfl

theorem present (lists : p.Lists f name) (vs : List Value) :
    p.page (p.dedupe (vs.map (column name))) =
      (keepFirst Value.same [] vs).map (column name) := by
  have repeating : p.repeats = Value.sameRecord := by
    funext a b
    rw [repeats, lists.selected]
    rfl
  have mapped := @keepFirst_map _ _ Value.sameRecord (column name) [] vs
  simp only [sameRecord_column] at mapped
  rw [page_uncut lists.offset lists.limit, dedupe, lists.distinct, if_pos rfl, repeating]
  exact mapped

theorem execute_ungrouped (lists : p.Lists f name) (keyless : p.groupBy = []) :
    ∃ vs, vs.Perm (p.values f tables) ∧ (p.execute tables =
      .ok (.rows ((keepFirst Value.same [] vs).map (column name))) ↔
        Sortable p.precedes (p.matched (tables.records p.root))) := by
  have ungrouped : p.isGrouped = false := by
    simp [isGrouped, keyless, lists.selected, Projection.hasAggregate, Projection.selections,
      Expr.hasAggregate]
  have sorts := sorts_iff ungrouped (by simp [lists.selected]) (tables.records p.root)
  have projected : ∀ rows : List Row, (rows.map ([·])).mapM p.project =
      .ok ((rows.map fun row => row.field f).map (column name)) := by
    intro rows
    rw [List.mapM_map, List.map_map]
    exact mapM_ok rows fun row _ => lists.project row []
  refine ⟨(p.ranked (tables.records p.root)).map fun row => row.field f,
    (stableSort_perm (p.matched (tables.records p.root))).map _, ?_⟩
  refine ⟨fun ran => sorts.mp (sorts_of_execute lists.total ran), fun sortable => ?_⟩
  rw [← lists.present]
  simp only [execute, matchedRows_ok lists.total, lists.selected,
    fetch_ungrouped lists.total ungrouped, sortBy_ok sortable, projected, ranked, bind, Except.bind,
    pure, Except.pure]

theorem execute_grouped (lists : p.Lists f name) (grouped : p.groupBy = [.field f])
    (unordered : p.orderBy = []) : p.execute tables =
      .ok (.rows ((keepFirst Value.same [] (keepFirst Value.equals [] (p.values f tables))).map
        (column name))) := by
  have key : ∀ row : Row, Expr.evalAll row p.groupBy = .ok [row.field f] := by
    intro row
    rw [grouped]
    rfl
  obtain ⟨gs, found, partition⟩ :=
    @groups_partition p.groupBy (p.matched (tables.records p.root)) fun row _ => ⟨_, key row⟩
  have keys : gs.map Group.key = (keepFirst Value.equals [] (p.values f tables)).map ([·]) := by
    have single : ∀ v w : Value, sameKey [v] [w] = v.equals w := by simp [sameKey]
    have mapped := @keepFirst_map _ _ sameKey ([·]) [] (p.values f tables)
    simp only [single] at mapped
    rw [groups_keys key found, ← mapped, values, List.map_map]
    rfl
  have projected : (gs.map Group.rows).mapM p.project =
      .ok ((gs.map Group.key).map fun key => column name (key.headD .null)) := by
    rw [List.mapM_map, List.map_map]
    apply mapM_ok gs
    intro g held
    obtain ⟨first, others, rows, own, -⟩ := partition.keyed g held
    rw [key] at own
    show p.project g.rows = .ok (column name (g.key.headD .null))
    rw [rows, lists.project, ← Except.ok.inj own]
    rfl
  rw [keys, List.map_map] at projected
  have units := units_of_keys (by simp [grouped]) found
  rw [← lists.present]
  simp only [execute, matchedRows_ok lists.total, lists.selected, fetch, units,
    sortUnits_unordered lists.total unordered, projected, bind, Except.bind, pure, Except.pure]
  rfl

end Lists

end Plan

namespace Criteria

variable (entity : String) (filters : Keyed Condition) (name : String)

def column : Criteria := { entity, filters, columns := [name] }

def groupedColumn : Criteria :=
  { entity, filters, functions := [(name, .single name)], groupBy := [name] }

end Criteria

theorem Resolve.solid_of_found {path : String} {r : Resolved} {s t : Scope}
    (found : resolve path s = (.ok r, t)) : Text.isBlankText path = false := by
  cases blank : Text.isBlankText path with
  | false => rfl
  | true =>
    have nothing : Text.trim path = "" := by
      rw [Text.trim, Text.trimChars_of_blank blank]
    have fails : resolve path s = (.error (.unresolvable "" .emptySegment), s) := by
      unfold resolve
      rw [nothing]
      rfl
    cases fails.symm.trans found

namespace Order

/-- An identifier without dots crosses no relation. -/
theorem stableOr_crosses {b : Base} {s t : Scope} {terms ordered : List OrderTerm}
    (sound : s.Sound b) (undotted : '.' ∉ s.identifier.toList)
    (ran : stableOr terms s = (ordered, t)) : t.Sound b ∧ t.crossed = s.crossed := by
  have near : (b.locate s.identifier).1 = [] := by
    have clean : '.' ∉ (Text.trim s.identifier).toList := by
      intro held
      rw [Text.toList_trim, Text.trimChars, Text.trimEndChars, List.mem_reverse] at held
      have held := List.mem_reverse.mp ((List.dropWhile_sublist _).subset held)
      exact undotted ((List.dropWhile_sublist _).subset held)
    simp only [Base.locate, Text.segments_of_clean clean]
    split <;> rfl
  obtain ⟨u, found, sound', crossed⟩ :=
    Resolve.resolve_run s.identifier sound (Numbering.of_positions _)
  rw [near] at crossed
  have left : (stable terms s).2 = s ∨ (stable terms s).2 = u := by
    unfold stable
    rw [run_get_bind]
    split
    · exact .inl rfl
    · right
      cases located : (b.locate s.identifier).2 with
      | error e =>
        rw [located] at found
        rw [run_bind_error found]
      | ok g =>
        rw [located] at found
        rw [run_bind_ok found]
        rfl
  obtain rfl : (stable terms s).2 = t := congrArg Prod.snd ran
  rcases left with same | same
  · rw [same]
    exact ⟨sound, rfl⟩
  · rw [same]
    exact ⟨sound', crossed⟩

end Order

namespace Plan

def ofColumn (b : Base) (joins : List Join) (filters : List Predicate) (r : Resolved)
    (name : String) (orderBy : List OrderTerm) (groupBy : List Expr) : Plan where
  root := b.root.name
  identifier := b.identifier
  joins
  projection := .columns [⟨r.expr, some name⟩]
  filters
  groupBy
  orderBy
  distinct := true

section
variable {b : Base} {settings : CompilerSettings} {s t u v w : Scope} {r : Resolved}

theorem attempt_found {path : String} (found : Resolve.resolve path s = (.ok r, t)) :
    (Resolve.resolve path).outcome s = (.ok r, t) := by
  rw [Resolve.outcome, ExceptT.run]
  exact found

theorem inScope_ofColumn {c : Criteria} {name : String} {conditions : List Predicate}
    {terms : List OrderTerm} {keys : List Expr} (orders : c.orders = []) (seek : c.seek = false)
    (distinct : c.distinct = true) (first : c.first = none) (pageSize : c.pageSize = none)
    (many : c.singleResult = false)
    (projecting : Selecting.projection c s = (.columns [⟨r.expr, some name⟩], t))
    (filtered : Filter.all settings c.filters t = (conditions, u))
    (ordered : finalOrder (c.groupBy.any fun path => !Text.isBlankText path) [] u = (terms, v))
    (grouping : Selecting.groupBy c.groupBy v = (keys, w)) (sound : w.Sound b) :
    (inScope settings c s).1 = ofColumn b w.joins conditions r name terms keys := by
  have seeking : Keyset.ofCriteria settings c u = (none, u) := by
    have none : c.cursor = .ok none := by
      rw [Criteria.cursor, seek]
      rfl
    rw [Keyset.ofCriteria, none]
    rfl
  have asking : requestedOrder c none u = ([], u) := by
    rw [requestedOrder, orders]
    rfl
  have asks : asksForGroups c (.columns [⟨r.expr, some name⟩]) =
      c.groupBy.any fun path => !Text.isBlankText path := by
    simp [asksForGroups, Projection.hasAggregate, Projection.selections, Resolved.expr,
      Expr.hasAggregate]
  have root : w.root = b.root := congrArg Base.root sound.base
  have identifier : w.identifier = b.identifier := congrArg Base.identifier sound.base
  rw [inScope_eq, state_bind projecting, state_bind filtered, state_bind seeking, state_bind asking,
    asks, state_bind ordered, state_bind grouping]
  show assemble c _ _ _ _ _ w = _
  simp only [assemble, ofColumn, root, identifier, distinct, first, pageSize, many]
  rfl

variable (entity : String) (filters : Keyed Condition) {name : String}

/-- Searching for an attribute and grouping by it differ in order and groups only. -/
theorem inScope_column (sound : s.Sound b) (found : Resolve.resolve name s = (.ok r, t))
    (undotted : '.' ∉ s.identifier.toList) :
    ∃ joins conditions terms,
      (inScope settings (Criteria.column entity filters name) s).1 =
        ofColumn b joins conditions r name terms [] ∧
      (inScope settings (Criteria.groupedColumn entity filters name) s).1 =
        ofColumn b joins conditions r name [] [r.expr] := by
  have sound₁ := Resolve.resolve_sound sound found
  obtain ⟨conditions, u, filtered⟩ : ∃ conditions u, Filter.all settings filters t = (conditions, u) :=
    ⟨_, _, rfl⟩
  obtain ⟨sound₂, grown⟩ := (Filter.all_uniform settings filters).leaves sound₁ filtered
  have named : u.identifier = s.identifier :=
    (congrArg Base.identifier sound₂.base).trans (congrArg Base.identifier sound.base).symm
  obtain ⟨terms, v, ordered⟩ : ∃ terms v, Order.stableOr [] u = (terms, v) := ⟨_, _, rfl⟩
  obtain ⟨sound₃, crossed⟩ := Order.stableOr_crosses sound₂ (named ▸ undotted) ordered
  obtain ⟨w, again, sound₄, crossed'⟩ := Resolve.resolve_again sound found sound₂ grown
  have solid : Text.isBlankText name = false := Resolve.solid_of_found found
  refine ⟨v.joins, conditions, terms, ?_, ?_⟩
  · apply inScope_ofColumn (c := Criteria.column entity filters name) rfl rfl rfl rfl rfl rfl _
      filtered ordered rfl sound₃
    have selecting : Selecting.columns [name] s = ([⟨r.expr, some name⟩], t) := by
      rw [Selecting.columns, state_bind (attempt_found found)]
      rfl
    show (Selecting.columns [name] >>= _) s = _
    rw [state_bind selecting]
    rfl
  · rw [sound₃.joins_eq sound₄ (crossed.trans crossed'.symm)]
    apply inScope_ofColumn (c := Criteria.groupedColumn entity filters name) (v := u) rfl rfl rfl rfl
      rfl rfl _ filtered _ _ sound₄
    · have own : Selecting.ownAttribute name (.single name) s = (some r.expr, t) := by
        have single : (FunctionSpec.single name).single? = some name := rfl
        rw [Selecting.ownAttribute, if_pos single, state_bind (attempt_found found)]
        rfl
      have selecting : Selecting.functions [(name, .single name)] s = ([⟨r.expr, some name⟩], t) := by
        have called : Selecting.function name (.single name) s = (⟨r.expr, some name⟩, t) := by
          rw [Selecting.function, state_bind own]
          rfl
        rw [Selecting.functions, state_bind called]
        rfl
      show (Selecting.functions [(name, .single name)] >>= _) s = _
      rw [state_bind selecting]
      rfl
    · simp only [Criteria.groupedColumn, List.any_cons, solid]
      rfl
    · show Selecting.groupBy [name] u = _
      rw [Selecting.groupBy, solid, if_neg Bool.false_ne_true, state_bind (attempt_found again)]
      rfl

end

end Plan

namespace Criteria

/-- Searching for an attribute, where its rows can be sorted, and grouping by it find as many rows
exactly if values of the attribute that are equal hold the same; and only then no two rows of the
search are equal. -/
theorem repeated_values {settings : CompilerSettings} {entity name : String}
    {filters : Keyed Condition} {catalog loaded : Catalog} {s t : Scope} {r : Resolved}
    (started : Scope.start entity catalog = (.ok s, loaded))
    (resolved : Resolve.resolve name s = (.ok r, t)) (undotted : '.' ∉ s.identifier.toList)
    {tables : Tables}
    (stored : ∀ row ∈ tables.records s.root.name, (Value.object row).proper = true) :
    ∃ (p : Plan) (found groups : List Value),
      (Plan.ofCriteria settings (.column entity filters name) catalog).1 = .ok p ∧
      (results settings catalog (.column entity filters name) tables =
          .ok (.rows (found.map (Plan.column name))) ↔
        Sortable p.precedes (p.matched (tables.records p.root))) ∧
      results settings catalog (.groupedColumn entity filters name) tables =
        .ok (.rows (groups.map (Plan.column name))) ∧
      (found.length = groups.length ↔ Value.Strict (p.values r.field tables)) ∧
      ((found.Pairwise fun v w => v.equals w = false) ↔
        Value.Strict (p.values r.field tables)) := by
  have sound := Scope.start_sound started
  obtain ⟨joins, conditions, terms, listing, grouping⟩ :=
    @Plan.inScope_column s.base settings s t r entity filters name sound resolved undotted
  have total := (Plan.inScope_serves settings (.column entity filters name) sound).total
  have total' := (Plan.inScope_serves settings (.groupedColumn entity filters name) sound).total
  rw [listing] at total
  rw [grouping] at total'
  obtain ⟨p, plan⟩ : ∃ p, p = Plan.ofColumn s.base joins conditions r name terms [] := ⟨_, rfl⟩
  have lists : p.Lists r.field name := plan ▸ ⟨rfl, rfl, rfl, rfl, total⟩
  have lists' : (Plan.ofColumn s.base joins conditions r name [] [r.expr]).Lists r.field name :=
    ⟨rfl, rfl, rfl, rfl, total'⟩
  have values : (Plan.ofColumn s.base joins conditions r name [] [r.expr]).values r.field tables =
      p.values r.field tables := plan ▸ rfl
  have held : ∀ v ∈ p.values r.field tables, v.proper = true := by
    apply Plan.values_proper
    rw [plan]
    exact stored
  obtain ⟨vs, perm, ran⟩ := lists.execute_ungrouped tables (plan ▸ rfl)
  have ran' := lists'.execute_grouped tables rfl rfl
  rw [values, Value.groups_apart held] at ran'
  refine ⟨p, keepFirst Value.same [] vs, keepFirst Value.equals [] (p.values r.field tables),
    ?_, ?_, ?_, Value.length_kept_iff held perm, ?_⟩
  · rw [plan, ← listing]
    exact congrArg Prod.fst (Plan.withScope_start started)
  · rw [results_eq tables started, listing, ← plan, ran]
  · rw [results_eq tables started, grouping, ran']
  · rw [← Value.strict_perm perm]
    exact (Value.strict_iff fun v there => held v (perm.mem_iff.mp there)).symm

end Criteria

/-! Items with a number, kept as a whole number or as a double. -/

namespace Sample

def item : Entity := ⟨"Item", some "id", [⟨"id", .scalar .int64⟩, ⟨"n", .scalar .float64⟩]⟩

def items : Catalog where
  entities := [("Item", item)]

def stock : Tables :=
  [("Item", [[("id", .int 1), ("n", .int 1)], [("id", .int 2), ("n", .float 1)]])]

end Sample

namespace Criteria

/-- Names repeat alike in either search. -/
theorem repeated_values_names : ∃ found groups : List Value,
    results {} Sample.catalog (.column "Person" [] "name") Sample.tables =
      .ok (.rows (found.map (Plan.column "name"))) ∧
    results {} Sample.catalog (.groupedColumn "Person" [] "name") Sample.tables =
      .ok (.rows (groups.map (Plan.column "name"))) ∧
    found.length = groups.length ∧ found.Pairwise fun v w => v.equals w = false := by
  have started : Scope.start "Person" Sample.catalog = (.ok Sample.scope, Sample.catalog) := rfl
  have resolved : Resolve.resolve "name" Sample.scope =
      (.ok ⟨⟨.root, ["name"], "name"⟩, .scalar .string⟩, Sample.scope) := rfl
  have stored : ∀ row ∈ Sample.tables.records "Person", (Value.object row).proper = true := by
    decide
  obtain ⟨p, found, groups, compiled, listed, grouped, lengths, apart⟩ :=
    @repeated_values {} _ _ [] _ _ _ _ _ started resolved (by decide) _ stored
  have names : p.values ⟨.root, ["name"], "name"⟩ Sample.tables =
      [.string "Ann", .string "Bob", .string "Ann"] := by
    obtain rfl := Except.ok.inj compiled
    rfl
  have strict : Value.Strict (p.values ⟨.root, ["name"], "name"⟩ Sample.tables) := by
    rw [names]
    simp [Value.Strict, Value.typeName]
  have rows : (p.matched (Sample.tables.records p.root)).length = 3 := by
    simpa [Plan.values] using congrArg List.length names
  have sortable : Sortable p.precedes (p.matched (Sample.tables.records p.root)) :=
    .inl (rows ▸ by decide)
  exact ⟨found, groups, listed.mpr sortable, grouped, lengths.mpr strict, apart.mpr strict⟩

/-- A whole number and a double that equals it are two rows, but one group. -/
theorem repeated_values_differ :
    Catalog.ofSchema ⟨1, Sample.items.entities⟩ = .ok Sample.items ∧
    results {} Sample.items (.column "Item" [] "n") Sample.stock =
      .ok (.rows [[("n", .int 1)], [("n", .float 1)]]) ∧
    results {} Sample.items (.groupedColumn "Item" [] "n") Sample.stock =
      .ok (.rows [[("n", .int 1)]]) ∧
    (Value.int 1).equals (.float 1) = true := by
  refine ⟨rfl, rfl, ?_, by decide +kernel⟩
  rfl

end Criteria

end EntitySearch
