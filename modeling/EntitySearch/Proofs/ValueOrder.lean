import Mathlib.Tactic.Choose
import EntitySearch.Run.Execute

/-! The order of values of one kind.

Apart from doubles, values of one kind are totally ordered, and equal when the
order does not tell them apart.
-/

set_option autoImplicit false

namespace EntitySearch

open Std (TransCmp OrientedCmp LawfulEqCmp ReflCmp)

section
variable {α β : Type}

theorem transCmp_on (cmp : α → α → Ordering) [TransCmp cmp] (f : β → α) :
    TransCmp fun a b => cmp (f a) (f b) where
  eq_swap := OrientedCmp.eq_swap
  isLE_trans := TransCmp.isLE_trans

theorem transCmp_then (first second : α → α → Ordering) [TransCmp first] [TransCmp second] :
    TransCmp fun a b => (first a b).then (second a b) :=
  inferInstanceAs (TransCmp (compareLex first second))

end

instance : TransCmp Date.compare :=
  transCmp_on Ord.compare Date.day

instance : LawfulEqCmp Date.compare where
  compare_self {a} := by simp [Date.compare]
  eq_of_compare {a b} same := by
    cases a
    cases b
    exact congrArg Date.mk (LawfulEqCmp.eq_of_compare same)

instance : TransCmp Clock.compare :=
  have := transCmp_on Ord.compare Clock.second
  have := transCmp_on Ord.compare Clock.nano
  transCmp_then _ _

instance : LawfulEqCmp Clock.compare where
  compare_self {a} := by simp [Clock.compare]
  eq_of_compare {a b} same := by
    obtain ⟨seconds, nanos⟩ := Ordering.then_eq_eq.mp same
    cases a
    cases b
    obtain rfl := LawfulEqCmp.eq_of_compare seconds
    obtain rfl := LawfulEqCmp.eq_of_compare nanos
    rfl

instance : TransCmp DateTime.compare :=
  have := transCmp_on Date.compare DateTime.date
  have := transCmp_on Clock.compare DateTime.clock
  transCmp_then _ _

instance : LawfulEqCmp DateTime.compare where
  compare_self {a} := by simp [DateTime.compare, ReflCmp.compare_self]
  eq_of_compare {a b} same := by
    obtain ⟨dates, clocks⟩ := Ordering.then_eq_eq.mp same
    cases a
    cases b
    obtain rfl := LawfulEqCmp.eq_of_compare dates
    obtain rfl := LawfulEqCmp.eq_of_compare clocks
    rfl

instance : TransCmp Instant.compare :=
  transCmp_on DateTime.compare Instant.utc

instance : LawfulEqCmp Instant.compare where
  compare_self {a} := by simp [Instant.compare, ReflCmp.compare_self]
  eq_of_compare {a b} same := by
    cases a
    cases b
    exact congrArg Instant.mk (LawfulEqCmp.eq_of_compare same)

instance : TransCmp Decimal.compare :=
  transCmp_on Ord.compare Decimal.aligned

namespace Value

/-- The kinds of values that are totally ordered. -/
inductive Kind
  | bool
  | int
  | decimal
  | string
  | timestamp
  | date
  | dateTime
  deriving DecidableEq, Repr

def kind? : Value → Option Kind
  | .bool _ => some .bool
  | .int _ => some .int
  | .decimal _ => some .decimal
  | .string _ => some .string
  | .timestamp _ => some .timestamp
  | .date _ => some .date
  | .dateTime _ => some .dateTime
  | .null | .float _ | .object _ | .list _ => none

/-- The values of a kind, ordered and equal as what they hold is. -/
structure Ordered {α : Type} (k : Kind) (cmp : α → α → Ordering) (wrap : α → Value) : Prop where
  notNull : ∀ a, (wrap a).isNull = false
  compare? : ∀ a b, (wrap a).compare? (wrap b) = some (cmp a b)
  equals : ∀ a b, (wrap a).equals (wrap b) = true ↔ cmp a b = .eq
  covers : ∀ v, v.kind? = some k → ∃ a, v = wrap a

theorem ordered_bool : Ordered .bool (fun a b => Ord.compare a.toNat b.toNat) Value.bool where
  notNull _ := rfl
  compare? _ _ := rfl
  equals a b := by cases a <;> cases b <;> decide
  covers v kind := by cases v <;> cases kind; exact ⟨_, rfl⟩

theorem ordered_int : Ordered .int Ord.compare Value.int where
  notNull _ := rfl
  compare? _ _ := rfl
  equals a b := by simp [equals, isNumeric, Value.compare?]
  covers v kind := by cases v <;> cases kind; exact ⟨_, rfl⟩

theorem ordered_decimal : Ordered .decimal Decimal.compare Value.decimal where
  notNull _ := rfl
  compare? _ _ := rfl
  equals a b := by
    have met : (Value.decimal a).compare? (.decimal b) = some (a.compare b) := rfl
    simp [equals, isNumeric, met]
  covers v kind := by cases v <;> cases kind; exact ⟨_, rfl⟩

theorem Ordered.of_same {α : Type} [DecidableEq α] {k : Kind} {cmp : α → α → Ordering}
    [LawfulEqCmp cmp] {wrap : α → Value} (notNull : ∀ a, (wrap a).isNull = false)
    (compare? : ∀ a b, (wrap a).compare? (wrap b) = some (cmp a b))
    (equals : ∀ a b, (wrap a).equals (wrap b) = (a == b))
    (covers : ∀ v, v.kind? = some k → ∃ a, v = wrap a) : Ordered k cmp wrap where
  notNull := notNull
  compare? := compare?
  equals a b := by simp [equals, LawfulEqCmp.compare_eq_iff_eq]
  covers := covers

theorem ordered_string : Ordered .string Ord.compare Value.string :=
  .of_same (fun _ => rfl) (fun _ _ => rfl) (fun _ _ => rfl) fun v kind => by
    cases v <;> cases kind
    exact ⟨_, rfl⟩

theorem ordered_timestamp : Ordered .timestamp Instant.compare Value.timestamp :=
  .of_same (fun _ => rfl) (fun _ _ => rfl) (fun _ _ => rfl) fun v kind => by
    cases v <;> cases kind
    exact ⟨_, rfl⟩

theorem ordered_date : Ordered .date Date.compare Value.date :=
  .of_same (fun _ => rfl) (fun _ _ => rfl) (fun _ _ => rfl) fun v kind => by
    cases v <;> cases kind
    exact ⟨_, rfl⟩

theorem ordered_dateTime : Ordered .dateTime DateTime.compare Value.dateTime :=
  .of_same (fun _ => rfl) (fun _ _ => rfl) (fun _ _ => rfl) fun v kind => by
    cases v <;> cases kind
    exact ⟨_, rfl⟩

theorem Kind.ordered (k : Kind) : ∃ (α : Type) (cmp : α → α → Ordering) (wrap : α → Value),
    TransCmp cmp ∧ Ordered k cmp wrap := by
  cases k with
  | bool => exact ⟨_, _, _, transCmp_on Ord.compare Bool.toNat, ordered_bool⟩
  | int => exact ⟨_, _, _, inferInstance, ordered_int⟩
  | decimal => exact ⟨_, _, _, inferInstance, ordered_decimal⟩
  | string => exact ⟨_, _, _, inferInstance, ordered_string⟩
  | timestamp => exact ⟨_, _, _, inferInstance, ordered_timestamp⟩
  | date => exact ⟨_, _, _, inferInstance, ordered_date⟩
  | dateTime => exact ⟨_, _, _, inferInstance, ordered_dateTime⟩

section
variable {k : Kind} {a b : Value}

theorem isNull_of_kind (kind : a.kind? = some k) : a.isNull = false := by
  obtain ⟨_, _, _, -, ordered⟩ := k.ordered
  obtain ⟨x, rfl⟩ := ordered.covers a kind
  exact ordered.notNull x

theorem sortOrder_of_compare {o : Ordering} (left : a.isNull = false) (right : b.isNull = false)
    (met : a.compare? b = some o) : a.sortOrder b = o := by
  simp [sortOrder, left, right, met]

theorem null_sortOrder (present : a.isNull = false) : null.sortOrder a = .lt := by
  rw [sortOrder, present]
  rfl

theorem sortOrder_null (present : a.isNull = false) : a.sortOrder null = .gt := by
  rw [sortOrder, present]
  rfl

theorem compare?_of_kind (left : a.kind? = some k) (right : b.kind? = some k) :
    a.compare? b = some (a.sortOrder b) := by
  obtain ⟨_, cmp, _, -, ordered⟩ := k.ordered
  obtain ⟨x, rfl⟩ := ordered.covers a left
  obtain ⟨y, rfl⟩ := ordered.covers b right
  have met := ordered.compare? x y
  rw [sortOrder_of_compare (ordered.notNull x) (ordered.notNull y) met, met]

theorem equals_of_kind (left : a.kind? = some k) (right : b.kind? = some k) :
    a.equals b = true ↔ a.sortOrder b = .eq := by
  obtain ⟨_, cmp, _, -, ordered⟩ := k.ordered
  obtain ⟨x, rfl⟩ := ordered.covers a left
  obtain ⟨y, rfl⟩ := ordered.covers b right
  rw [sortOrder_of_compare (ordered.notNull x) (ordered.notNull y) (ordered.compare? x y)]
  exact ordered.equals x y

end

abbrev OfKind (k : Kind) : Type := { v : Value // v.kind? = some k }

instance transCmp_ofKind (k : Kind) : TransCmp fun a b : OfKind k => a.1.sortOrder b.1 := by
  -- The order is pulled back along what the values hold.
  obtain ⟨α, cmp, wrap, trans, ordered⟩ := k.ordered
  have held : ∀ v : OfKind k, ∃ x, v.1 = wrap x := fun v => ordered.covers v.1 v.2
  choose content same using held
  have order : ∀ a b : OfKind k, a.1.sortOrder b.1 = cmp (content a) (content b) := by
    intro a b
    rw [same a, same b]
    exact sortOrder_of_compare (ordered.notNull _) (ordered.notNull _) (ordered.compare? _ _)
  have pulled := transCmp_on cmp content
  simpa only [order] using pulled

theorem sortOrder_swap {k : Kind} {a b : Value} (left : a.kind? = some k)
    (right : b.kind? = some k) : a.sortOrder b = (b.sortOrder a).swap :=
  (transCmp_ofKind k).eq_swap (a := ⟨a, left⟩) (b := ⟨b, right⟩)

end Value

theorem Direction.transCmp_orient {α : Type} (d : Direction) (cmp : α → α → Ordering)
    [TransCmp cmp] : TransCmp fun a b => d.orient (cmp a b) := by
  cases d with
  | asc => exact inferInstanceAs (TransCmp cmp)
  | desc =>
    have swapped : (fun a b => Direction.desc.orient (cmp a b)) = fun a b => cmp b a := by
      funext a b
      exact OrientedCmp.eq_swap.symm
    rw [swapped]
    exact TransCmp.opposite

namespace Plan

theorem compareKeys_cons (t : OrderTerm) (terms : List OrderTerm) (a b : Value)
    (as bs : List Value) : compareKeys (t :: terms) (a :: as) (b :: bs) =
      (t.direction.orient (a.sortOrder b)).then (compareKeys terms as bs) := by
  rw [compareKeys]
  cases t.direction.orient (a.sortOrder b) <;> rfl

end Plan

end EntitySearch
