import EntitySearch.Proofs.Distinct
import EntitySearch.Proofs.ValueOrder

/-! Ties.

Elements that tie keep their order when they are sorted. What a sorted list
holds is settled by what it holds of every class of elements that tie. Keys are
compared by values that are null or of one kind, at each position.
-/

set_option autoImplicit false

namespace EntitySearch

open Std (TransCmp OrientedCmp ReflCmp)

section
variable {α γ : Type} {cmp : α → α → Ordering}

def ties (cmp : α → α → Ordering) (x y : α) : Bool := cmp x y == .eq

theorem ties_self [ReflCmp cmp] (x : α) : ties cmp x x = true :=
  beq_iff_eq.mpr ReflCmp.compare_self

theorem insertSorted_ties [TransCmp cmp] (x y : α) (xs : List α) :
    (insertSorted (fun a b => cmp a b == .lt) y xs).filter (ties cmp x) =
      (y :: xs).filter (ties cmp x) := by
  induction xs with
  | nil => rfl
  | cons z rest ih =>
    simp only [insertSorted]
    split
    · next first =>
      -- Of two elements in order, at most one ties with a third.
      have apart : ties cmp x y = true → ties cmp x z = false := by
        intro tie
        have behind : cmp x z = .lt :=
          TransCmp.lt_of_eq_of_lt (beq_iff_eq.mp tie) (beq_iff_eq.mp first)
        rw [ties, behind]
        rfl
      simp only [List.filter_cons, ih] at apart ⊢
      cases tie : ties cmp x y with
      | false => simp
      | true => simp [apart tie]
    · rfl

theorem stableSort_ties [TransCmp cmp] (x : α) (xs : List α) :
    (stableSort (fun a b => cmp a b == .lt) xs).filter (ties cmp x) = xs.filter (ties cmp x) := by
  have grows : ∀ done : List α,
      (xs.foldl (fun done y => insertSorted (fun a b => cmp a b == .lt) y done) done).filter
        (ties cmp x) = (xs.filter (ties cmp x)).reverse ++ done.filter (ties cmp x) := by
    induction xs with
    | nil => exact fun _ => rfl
    | cons y rest ih =>
      intro done
      rw [List.foldl_cons, ih, insertSorted_ties, List.filter_cons, List.filter_cons]
      split <;> simp
  rw [stableSort, List.filter_reverse, grows []]
  simp

def Sorted (cmp : α → α → Ordering) (xs : List α) : Prop := xs.Pairwise fun a b => (cmp a b).isLE

theorem stableSort_sorted [TransCmp cmp] (xs : List α) :
    Sorted cmp (stableSort (fun a b => cmp a b == .lt) xs) := by
  have ranks : Ranks (fun a b => cmp a b == .lt) fun _ => True :=
    .of_transCmp cmp (transCmp_on cmp Subtype.val)
  apply (stableSort_pairwise ranks fun _ _ => trivial).imp
  intro a b notBefore
  have swap : cmp a b = (cmp b a).swap := OrientedCmp.eq_swap
  rw [swap]
  revert notBefore
  cases cmp b a <;> decide

section
variable [TransCmp cmp] {f : α → γ} {xs ys : List α} {x y : α}

theorem exists_tie (same : (xs.filter (ties cmp x)).map f = (ys.filter (ties cmp x)).map f)
    (held : x ∈ xs) : ∃ y ∈ ys, cmp x y = .eq := by
  have tied : x ∈ xs.filter (ties cmp x) :=
    List.mem_filter.mpr ⟨held, ties_self x⟩
  have found : f x ∈ (ys.filter (ties cmp x)).map f := same ▸ List.mem_map_of_mem tied
  obtain ⟨y, there, -⟩ := List.mem_map.mp found
  obtain ⟨there, tie⟩ := List.mem_filter.mp there
  exact ⟨y, there, beq_iff_eq.mp tie⟩

theorem Sorted.head_isLE (sorted : Sorted cmp (y :: ys))
    (same : (xs.filter (ties cmp x)).map f = ((y :: ys).filter (ties cmp x)).map f)
    (held : x ∈ xs) : (cmp y x).isLE := by
  obtain ⟨z, there, tie⟩ := exists_tie same held
  have first : (cmp y z).isLE := by
    rcases List.mem_cons.mp there with rfl | there
    · exact ReflCmp.isLE_rfl
    · exact (List.pairwise_cons.mp sorted).1 z there
  have back : cmp z x = .eq := OrientedCmp.eq_symm tie
  exact TransCmp.isLE_trans first (Ordering.isLE_of_eq_eq back)

theorem eq_of_isLE (first : (cmp x y).isLE) (second : (cmp y x).isLE) : cmp x y = .eq := by
  have swap : cmp y x = (cmp x y).swap := OrientedCmp.eq_swap
  rw [swap] at second
  revert first second
  cases cmp x y <;> decide

/-- Sorted lists show the same when their classes of elements that tie do. -/
theorem Sorted.map_eq (first : Sorted cmp xs) (second : Sorted cmp ys)
    (same : ∀ x, (xs.filter (ties cmp x)).map f = (ys.filter (ties cmp x)).map f) :
    xs.map f = ys.map f := by
  induction xs generalizing ys with
  | nil =>
    cases ys with
    | nil => rfl
    | cons y rest =>
      obtain ⟨_, held, -⟩ := exists_tie (same y).symm List.mem_cons_self
      cases held
  | cons x rest ih =>
    cases ys with
    | nil =>
      obtain ⟨_, held, -⟩ := exists_tie (same x) List.mem_cons_self
      cases held
    | cons y rest' =>
      -- The heads are both least, so they tie and lead one class.
      have tie : cmp x y = .eq := eq_of_isLE
        (first.head_isLE (same y).symm List.mem_cons_self)
        (second.head_isLE (same x) List.mem_cons_self)
      have together : ∀ z, ties cmp z x = ties cmp z y := by
        intro z
        rw [ties, ties, TransCmp.congr_right tie]
      have heads : f x = f y := by
        have led := same x
        rw [List.filter_cons, List.filter_cons, ← together, ties_self] at led
        exact (List.cons.inj led).1
      rw [List.map_cons, List.map_cons, heads]
      congr 1
      apply ih (List.pairwise_cons.mp first).2 (List.pairwise_cons.mp second).2
      intro z
      have whole := same z
      simp only [List.filter_cons, ← together] at whole
      split at whole
      · exact (List.cons.inj whole).2
      · exact whole

theorem stableSort_map_eq (cmp : α → α → Ordering) [TransCmp cmp] {xs ys : List α}
    (same : ∀ x, (xs.filter (ties cmp x)).map f = (ys.filter (ties cmp x)).map f) :
    (stableSort (fun a b => cmp a b == .lt) xs).map f =
      (stableSort (fun a b => cmp a b == .lt) ys).map f := by
  apply (stableSort_sorted xs).map_eq (stableSort_sorted ys)
  intro x
  rw [stableSort_ties, stableSort_ties]
  exact same x

end

theorem stableSort_map_eq_of (cmp : α → α → Ordering) {P : α → Prop} {f : α → γ} {xs ys : List α}
    (order : TransCmp fun a b : { x // P x } => cmp a.1 b.1) (left : ∀ x ∈ xs, P x)
    (right : ∀ y ∈ ys, P y)
    (same : ∀ x, P x → (xs.filter (ties cmp x)).map f = (ys.filter (ties cmp x)).map f) :
    (stableSort (fun a b => cmp a b == .lt) xs).map f =
      (stableSort (fun a b => cmp a b == .lt) ys).map f := by
  obtain ⟨xs, rfl⟩ : ∃ within : List { x // P x }, within.map Subtype.val = xs :=
    ⟨xs.attachWith P left, List.attachWith_map_subtype_val left⟩
  obtain ⟨ys, rfl⟩ : ∃ within : List { x // P x }, within.map Subtype.val = ys :=
    ⟨ys.attachWith P right, List.attachWith_map_subtype_val right⟩
  rw [stableSort_map, stableSort_map, List.map_map, List.map_map]
  apply stableSort_map_eq fun a b : { x // P x } => cmp a.1 b.1
  intro x
  have whole := same x.1 x.2
  rw [List.filter_map, List.filter_map, List.map_map, List.map_map] at whole
  exact whole

end

namespace Value

def Sorts (k : Kind) (v : Value) : Prop := v = .null ∨ v.kind? = some k

theorem transCmp_sorts (k : Kind) : TransCmp fun a b : { v // Sorts k v } => a.1.sortOrder b.1 where
  eq_swap {a b} := by
    obtain ⟨a, rfl | left⟩ := a <;> obtain ⟨b, rfl | right⟩ := b
    · rfl
    · simp only [null_sortOrder (isNull_of_kind right), sortOrder_null (isNull_of_kind right),
        Ordering.swap_gt]
    · simp only [null_sortOrder (isNull_of_kind left), sortOrder_null (isNull_of_kind left),
        Ordering.swap_lt]
    · exact sortOrder_swap left right
  isLE_trans {a b c} first second := by
    obtain ⟨a, rfl | left⟩ := a
    · obtain ⟨c, rfl | right⟩ := c
      · rfl
      · simp only [null_sortOrder (isNull_of_kind right), Ordering.isLE_lt]
    · obtain ⟨b, rfl | middle⟩ := b
      · simp [sortOrder_null (isNull_of_kind left)] at first
      · obtain ⟨c, rfl | right⟩ := c
        · simp [sortOrder_null (isNull_of_kind middle)] at second
        · exact (transCmp_ofKind k).isLE_trans (a := ⟨a, left⟩) (b := ⟨b, middle⟩) (c := ⟨c, right⟩)
            first second

theorem equals_of_sorts {k : Kind} {v w : Value} (left : Sorts k v) (right : Sorts k w) :
    v.equals w = true ↔ v.sortOrder w = .eq := by
  rcases left with rfl | left
  · rcases right with rfl | right
    · exact ⟨fun _ => rfl, fun _ => rfl⟩
    · have present := isNull_of_kind right
      rw [null_sortOrder present]
      cases w <;> simp [equals, isNumeric, same, isNull] at present ⊢
  · have present := isNull_of_kind left
    rcases right with rfl | right
    · rw [sortOrder_null present]
      cases v <;> simp [equals, isNumeric, same, isNull] at present ⊢
    · exact equals_of_kind left right

end Value

namespace Order

theorem isIdentifier_iff {identifier : String} {e : Expr} :
    isIdentifier identifier e = true ↔ ∃ qualified, e = .field ⟨.root, [identifier], qualified⟩ := by
  constructor
  · intro stands
    unfold isIdentifier at stands
    split at stands
    · next r =>
      obtain ⟨source, path, qualified⟩ := r
      simp only [Bool.and_eq_true, beq_iff_eq] at stands
      obtain ⟨rfl, rfl⟩ := stands
      exact ⟨qualified, rfl⟩
    · cases stands
  · rintro ⟨qualified, rfl⟩
    simp [isIdentifier]

theorem evalGroup_identifier {identifier qualified : String} {row : Row} {v : Value}
    (found : Keyed.find? row.root identifier = some v) :
    (Expr.field ⟨.root, [identifier], qualified⟩).evalGroup [row] = .ok v := by
  simp only [Expr.evalGroup, Expr.evalFirst, Expr.eval, Row.field, Row.source?, Option.elim_some,
    Record.read, found, Option.getD_some]

end Order

theorem Expr.evalGroupAll_cons {group : List Row} {e : Expr} {rest : List Expr} {key : List Value}
    (value : Expr.evalGroupAll group (e :: rest) = .ok key) :
    ∃ v others, e.evalGroup group = .ok v ∧ Expr.evalGroupAll group rest = .ok others ∧
      key = v :: others := by
  rw [Expr.evalGroupAll] at value
  cases first : e.evalGroup group with
  | error fault =>
    rw [first] at value
    cases value
  | ok v =>
    cases tail : Expr.evalGroupAll group rest with
    | error fault =>
      rw [first, tail] at value
      cases value
    | ok others =>
      rw [first, tail] at value
      exact ⟨v, others, rfl, rfl, (Except.ok.inj value).symm⟩

namespace Plan

abbrev KeysOf (kinds : List Value.Kind) : Type :=
  { key : List Value // List.Forall₂ Value.Sorts kinds key }

theorem transCmp_keys (terms : List OrderTerm) (kinds : List Value.Kind) :
    TransCmp fun a b : KeysOf kinds => compareKeys terms a.1 b.1 := by
  have tied : TransCmp fun _ _ : KeysOf kinds => Ordering.eq :=
    { eq_swap := rfl, isLE_trans := fun _ _ => rfl }
  induction terms generalizing kinds with
  | nil => exact tied
  | cons t terms ih =>
    cases kinds with
    | nil =>
      have same : (fun a b : KeysOf [] => compareKeys (t :: terms) a.1 b.1) =
          fun _ _ => Ordering.eq := by
        funext ⟨a, first⟩ ⟨b, second⟩
        cases first
        rfl
      exact same ▸ tied
    | cons k kinds =>
      let head (key : KeysOf (k :: kinds)) : { v // Value.Sorts k v } :=
        ⟨key.1.headD .null, by obtain ⟨_, _ | ⟨sorts, -⟩⟩ := key; exact sorts⟩
      let tail (key : KeysOf (k :: kinds)) : KeysOf kinds :=
        ⟨key.1.tail, by obtain ⟨_, _ | ⟨-, others⟩⟩ := key; exact others⟩
      have := Value.transCmp_sorts k
      have := t.direction.transCmp_orient fun a b : { v // Value.Sorts k v } => a.1.sortOrder b.1
      have byHead := transCmp_on
        (fun a b : { v // Value.Sorts k v } => t.direction.orient (a.1.sortOrder b.1)) head
      have := ih kinds { eq_swap := rfl, isLE_trans := fun _ _ => rfl }
      have byTail := transCmp_on (fun a b : KeysOf kinds => compareKeys terms a.1 b.1) tail
      have same : (fun a b : KeysOf (k :: kinds) => compareKeys (t :: terms) a.1 b.1) =
          fun a b => (t.direction.orient ((head a).1.sortOrder (head b).1)).then
            (compareKeys terms (tail a).1 (tail b).1) := by
        funext ⟨a, first⟩ ⟨b, second⟩
        cases first
        cases second
        exact compareKeys_cons t terms _ _ _ _
      rw [same]
      exact transCmp_then _ _

theorem compareKeys_directions {terms others : List OrderTerm}
    (same : terms.map OrderTerm.direction = others.map OrderTerm.direction) :
    compareKeys terms = compareKeys others := by
  induction terms generalizing others with
  | nil =>
    cases others with
    | nil => rfl
    | cons => cases same
  | cons t terms ih =>
    cases others with
    | nil => cases same
    | cons u others =>
      obtain ⟨direction, rest⟩ := List.cons.inj same
      funext a b
      cases a with
      | nil => rfl
      | cons a as =>
        cases b with
        | nil => rfl
        | cons b bs => rw [compareKeys_cons, compareKeys_cons, direction, ih rest]

/-- The keys of all rows, at every order of the plan, are null or of one kind. -/
def Comparable (p : Plan) (stored : List Record) : Prop :=
  ∀ t ∈ p.orderBy, ∃ k : Value.Kind, ∀ row ∈ p.joinedRows stored, ∀ v,
    t.expr.evalGroup [row] = .ok v → Value.Sorts k v

theorem evalGroupAll_sorts {rows : List Row} {exprs : List Expr}
    (h : ∀ e ∈ exprs, ∃ k : Value.Kind, ∀ row ∈ rows, ∀ v,
      e.evalGroup [row] = .ok v → Value.Sorts k v) :
    ∃ kinds, ∀ row ∈ rows, ∀ key, Expr.evalGroupAll [row] exprs = .ok key →
      List.Forall₂ Value.Sorts kinds key := by
  induction exprs with
  | nil =>
    refine ⟨[], fun row _ key value => ?_⟩
    rw [Expr.evalGroupAll] at value
    exact Except.ok.inj value ▸ .nil
  | cons e rest ih =>
    obtain ⟨first, others⟩ := List.forall_mem_cons.mp h
    obtain ⟨k, sorts⟩ := first
    obtain ⟨kinds, sorts'⟩ := ih others
    refine ⟨k :: kinds, fun row held key value => ?_⟩
    obtain ⟨v, others, head, tail, rfl⟩ := Expr.evalGroupAll_cons value
    exact .cons (sorts row held v head) (sorts' row held others tail)

theorem Comparable.keys {p : Plan} {stored : List Record} (h : p.Comparable stored)
    (total : p.Total) :
    ∃ kinds, ∀ row ∈ p.joinedRows stored, List.Forall₂ Value.Sorts kinds (p.keyOf row) := by
  have each : ∀ e ∈ p.orderBy.map OrderTerm.expr, ∃ k : Value.Kind, ∀ row ∈ p.joinedRows stored,
      ∀ v, e.evalGroup [row] = .ok v → Value.Sorts k v := by
    intro e held
    obtain ⟨t, there, rfl⟩ := List.mem_map.mp held
    exact h t there
  obtain ⟨kinds, sorts⟩ := evalGroupAll_sorts each
  exact ⟨kinds, fun row held => sorts row held _ (sortKey_ok total row)⟩

theorem Comparable.ranks {p : Plan} {stored : List Record} (h : p.Comparable stored)
    (total : p.Total) : Ranks p.precedes (· ∈ p.joinedRows stored) := by
  obtain ⟨kinds, sorts⟩ := h.keys total
  exact (Ranks.of_transCmp _ (transCmp_keys p.orderBy kinds)).on p.keyOf sorts

theorem Comparable.sortable {p : Plan} {stored : List Record} (h : p.Comparable stored)
    (total : p.Total) : Sortable p.precedes (p.matched stored) :=
  .inr ((h.ranks total).mono fun _ held => List.mem_of_mem_filter held)

theorem comparable_of_identified {p : Plan} {stored : List Record}
    (identified : Identified Value.int p.identifier stored)
    (terms : ∀ t ∈ p.orderBy, Order.isIdentifier p.identifier t.expr = true) :
    p.Comparable stored := by
  intro t held
  obtain ⟨qualified, named⟩ := Order.isIdentifier_iff.mp (terms t held)
  refine ⟨.int, fun row there v value => ?_⟩
  obtain ⟨i, found⟩ := identified.find (root_mem there)
  rw [named, Order.evalGroup_identifier found] at value
  exact .inr (Except.ok.inj value ▸ rfl)

end Plan

end EntitySearch
