import EntitySearch.Proofs.Rounding
import EntitySearch.Proofs.ValueOrder

/-! Equality of values.

Within a kind, equality is symmetric and transitive, and fails of a value itself
only when there is a double inside that is no number. Equality across the kinds
of numbers extends it: values that hold the same equal the same values.
-/

set_option autoImplicit false

namespace EntitySearch

namespace Keyed

variable {α : Type}

theorem mem_of_find? {entries : Keyed α} {key : String} {value : α}
    (found : find? entries key = some value) : (key, value) ∈ entries := by
  induction entries with
  | nil => cases found
  | cons entry rest ih =>
    obtain ⟨k, v⟩ := entry
    rw [find?] at found
    split at found
    · next same =>
      obtain rfl := same
      obtain rfl := Option.some.inj found
      exact List.mem_cons_self
    · exact List.mem_cons_of_mem _ (ih found)

theorem find?_of_mem {entries : Keyed α} {key : String} {value : α} (once : (keys entries).Nodup)
    (held : (key, value) ∈ entries) : find? entries key = some value := by
  induction entries with
  | nil => cases held
  | cons entry rest ih =>
    obtain ⟨k, v⟩ := entry
    obtain ⟨new, once⟩ := List.nodup_cons.mp once
    rcases List.mem_cons.mp held with same | held
    · obtain ⟨rfl, rfl⟩ := Prod.mk.inj same
      rw [find?, if_pos rfl]
    · have different : k ≠ key := by
        rintro rfl
        exact new (List.mem_map.mpr ⟨_, held, rfl⟩)
      rw [find?, if_neg different]
      exact ih once held

theorem mem_keys {entries : Keyed α} {key : String} (held : key ∈ keys entries) :
    ∃ value, (key, value) ∈ entries := by
  obtain ⟨⟨_, value⟩, there, rfl⟩ := List.mem_map.mp held
  exact ⟨value, there⟩

end Keyed

namespace Value

/-- A property of all values: of those that hold no others, and of objects and lists if it is one of
what they hold. -/
theorem nested {P : Value → Prop}
    (plain : ∀ v, (∀ fields, v ≠ .object fields) → (∀ items, v ≠ .list items) → P v)
    (object : ∀ fields, (∀ e ∈ fields, P e.2) → P (.object fields))
    (list : ∀ items, (∀ v ∈ items, P v) → P (.list items)) : ∀ v, P v
  | .object fields => object fields fun e _held => nested plain object list e.2
  | .list items => list items fun v _held => nested plain object list v
  | .null | .bool _ | .int _ | .float _ | .decimal _ | .string _ | .timestamp _ | .date _
  | .dateTime _ => plain _ nofun nofun
termination_by v => sizeOf v
decreasing_by
  · have inner := List.sizeOf_lt_of_mem _held
    cases e
    simp at inner ⊢
    omega
  · have inner := List.sizeOf_lt_of_mem _held
    simp at inner ⊢
    omega

mutual

/-- Values as they are stored: whole numbers have 64 bits, and the keys of an object differ. -/
def proper : Value → Bool
  | .int i => (Number.int64? i).isSome
  | .object fields => decide (Keyed.keys fields).Nodup && properFields fields
  | .list items => properItems items
  | _ => true

def properFields : List (String × Value) → Bool
  | [] => true
  | (_, value) :: rest => value.proper && properFields rest

def properItems : List Value → Bool
  | [] => true
  | item :: rest => item.proper && properItems rest

end

mutual

def holdsNaN : Value → Bool
  | .float x => x.isNaN
  | .object fields => fieldsHoldNaN fields
  | .list items => itemsHoldNaN items
  | _ => false

def fieldsHoldNaN : List (String × Value) → Bool
  | [] => false
  | (_, value) :: rest => value.holdsNaN || fieldsHoldNaN rest

def itemsHoldNaN : List Value → Bool
  | [] => false
  | item :: rest => item.holdsNaN || itemsHoldNaN rest

end

section
variable {fields : List (String × Value)} {items : List Value}

theorem proper_object : (object fields).proper = true ↔
    (Keyed.keys fields).Nodup ∧ ∀ e ∈ fields, e.2.proper = true := by
  have each : properFields fields = true ↔ ∀ e ∈ fields, e.2.proper = true := by
    induction fields with
    | nil => simp [properFields]
    | cons e rest ih => simp [properFields, ih]
  rw [proper, Bool.and_eq_true, decide_eq_true_iff, each]

theorem proper_list : (list items).proper = true ↔ ∀ v ∈ items, v.proper = true := by
  rw [proper]
  induction items with
  | nil => simp [properItems]
  | cons v rest ih => simp [properItems, ih]

theorem holdsNaN_object : (object fields).holdsNaN = false ↔ ∀ e ∈ fields, e.2.holdsNaN = false := by
  rw [holdsNaN]
  induction fields with
  | nil => simp [fieldsHoldNaN]
  | cons e rest ih => simp [fieldsHoldNaN, ih]

theorem holdsNaN_list : (list items).holdsNaN = false ↔ ∀ v ∈ items, v.holdsNaN = false := by
  rw [holdsNaN]
  induction items with
  | nil => simp [itemsHoldNaN]
  | cons v rest ih => simp [itemsHoldNaN, ih]

end

section
variable {a b : List (String × Value)} {as bs : List Value}

theorem same_object : (object a).same (.object b) = true ↔ a.length = b.length ∧
    ∀ e ∈ a, ∃ w, Keyed.find? b e.1 = some w ∧ e.2.same w = true := by
  have each : sameFields a b = true ↔
      ∀ e ∈ a, ∃ w, Keyed.find? b e.1 = some w ∧ e.2.same w = true := by
    induction a with
    | nil => simp [sameFields]
    | cons e rest ih =>
      rw [sameFields, Bool.and_eq_true, ih, List.forall_mem_cons]
      cases Keyed.find? b e.1 <;> simp
  rw [same, Bool.and_eq_true, beq_iff_eq, each]

theorem same_list : (list as).same (.list bs) = true ↔ as.length = bs.length ∧
    ∀ (i : Nat) (v : Value), as[i]? = some v → ∃ w, bs[i]? = some w ∧ v.same w = true := by
  rw [same]
  induction as generalizing bs with
  | nil => cases bs <;> simp [sameItems]
  | cons a rest ih =>
    cases bs with
    | nil => simp [sameItems]
    | cons b others =>
      rw [sameItems, Bool.and_eq_true, ih, List.length_cons, List.length_cons, Nat.add_right_cancel_iff]
      constructor
      · rintro ⟨first, lengths, each⟩
        refine ⟨lengths, fun i v held => ?_⟩
        cases i with
        | zero =>
          obtain rfl := Option.some.inj held
          exact ⟨b, rfl, first⟩
        | succ i => exact each i v held
      · rintro ⟨lengths, each⟩
        obtain ⟨_, found, first⟩ := each 0 a rfl
        obtain rfl := Option.some.inj found
        exact ⟨first, lengths, fun i v held => each (i + 1) v held⟩

end

theorem same_trans (a : Value) :
    ∀ {b c : Value}, a.same b = true → b.same c = true → a.same c = true := by
  induction a using nested with
  | plain a notObject notList =>
    intro b c first second
    cases a with
    | object fields => exact absurd rfl (notObject fields)
    | list items => exact absurd rfl (notList items)
    | null => cases b <;> first | exact absurd first Bool.false_ne_true | exact second
    | _ =>
      cases b <;> first | exact absurd first Bool.false_ne_true | skip
      cases c <;> first | exact absurd second Bool.false_ne_true | exact BEq.trans first second
  | object fields ih =>
    intro b c first second
    cases b <;> first | exact absurd first Bool.false_ne_true | skip
    cases c <;> first | exact absurd second Bool.false_ne_true | skip
    rw [same_object] at first second ⊢
    refine ⟨first.1.trans second.1, fun e held => ?_⟩
    obtain ⟨v, found, same⟩ := first.2 e held
    obtain ⟨w, found', same'⟩ := second.2 (e.1, v) (Keyed.mem_of_find? found)
    exact ⟨w, found', ih e held same same'⟩
  | list items ih =>
    intro b c first second
    cases b <;> first | exact absurd first Bool.false_ne_true | skip
    cases c <;> first | exact absurd second Bool.false_ne_true | skip
    rw [same_list] at first second ⊢
    refine ⟨first.1.trans second.1, fun i v held => ?_⟩
    obtain ⟨w, found, same⟩ := first.2 i v held
    obtain ⟨u, found', same'⟩ := second.2 i w found
    exact ⟨u, found', ih v (List.mem_of_getElem? held) same same'⟩

theorem same_symm (a : Value) :
    ∀ {b : Value}, a.proper = true → b.proper = true → a.same b = true → b.same a = true := by
  induction a using nested with
  | plain a notObject notList =>
    intro b _ _ first
    cases a with
    | object fields => exact absurd rfl (notObject fields)
    | list items => exact absurd rfl (notList items)
    | null => cases b <;> first | exact absurd first Bool.false_ne_true | rfl
    | _ => cases b <;> first | exact absurd first Bool.false_ne_true | exact BEq.symm first
  | object fields ih =>
    intro b left right first
    cases b <;> first | exact absurd first Bool.false_ne_true | skip
    rename_i others
    obtain ⟨once, properly⟩ := proper_object.mp left
    obtain ⟨once', properly'⟩ := proper_object.mp right
    obtain ⟨lengths, each⟩ := same_object.mp first
    -- The keys of the one are among those of the other, and as many.
    have keys : (Keyed.keys fields).Perm (Keyed.keys others) := by
      apply (List.subperm_of_subset once ?_).perm_of_length_le
      · simp [Keyed.keys, lengths]
      · intro key held
        obtain ⟨v, held⟩ := Keyed.mem_keys held
        obtain ⟨w, found, -⟩ := each _ held
        exact List.mem_map.mpr ⟨_, Keyed.mem_of_find? found, rfl⟩
    refine same_object.mpr ⟨lengths.symm, fun e held => ?_⟩
    obtain ⟨v, there⟩ := Keyed.mem_keys (keys.mem_iff.mpr (List.mem_map.mpr ⟨e, held, rfl⟩))
    obtain ⟨w, found, same⟩ := each _ there
    obtain rfl : e.2 = w := Option.some.inj ((Keyed.find?_of_mem once' held).symm.trans found)
    exact ⟨v, Keyed.find?_of_mem once there, ih _ there (properly _ there) (properly' e held) same⟩
  | list items ih =>
    intro b left right first
    cases b <;> first | exact absurd first Bool.false_ne_true | skip
    rename_i others
    rw [proper_list] at left right
    obtain ⟨lengths, each⟩ := same_list.mp first
    refine same_list.mpr ⟨lengths.symm, fun i w found => ?_⟩
    have inside : i < items.length := lengths ▸ (List.getElem?_eq_some_iff.mp found).1
    have held : items[i]? = some items[i] := List.getElem?_eq_getElem inside
    obtain ⟨w', found', same⟩ := each i _ held
    obtain rfl := Option.some.inj (found.symm.trans found')
    have there := List.mem_of_getElem? held
    exact ⟨_, held, ih _ there (left _ there) (right _ (List.mem_of_getElem? found)) same⟩

def aligned? (v : Value) : Option Int := v.asDecimal?.map Decimal.aligned

theorem compareDecimal_aligned (a b : Value) : compareDecimal a b =
    a.aligned?.bind fun x => b.aligned?.map fun y => Ord.compare x y := by
  simp only [compareDecimal, aligned?]
  cases a.asDecimal? <;> cases b.asDecimal? <;> rfl

theorem compareFloat_swap (x y : Float) :
    compareFloat y x = (compareFloat x y).map Ordering.swap := by
  by_cases nan : x.isNaN = true ∨ y.isNaN = true
  · rw [Number.compareFloat_nan nan, Number.compareFloat_nan nan.symm]
    rfl
  · simp only [not_or, Bool.not_eq_true] at nan
    rw [Number.compareFloat_rank nan.1 nan.2, Number.compareFloat_rank nan.2 nan.1,
      ← Int.compare_swap]
    rfl

theorem compareDecimal_swap (a b : Value) :
    compareDecimal b a = (compareDecimal a b).map Ordering.swap := by
  rw [compareDecimal_aligned, compareDecimal_aligned]
  cases a.aligned? with
  | none => cases b.aligned? <;> rfl
  | some x =>
    cases b.aligned? with
    | none => rfl
    | some y => exact congrArg some (Int.compare_swap x y).symm

theorem compareDouble_swap (a b : Value) :
    compareDouble b a = (compareDouble a b).map Ordering.swap := by
  unfold compareDouble
  cases a.asFloat? with
  | none => cases b.asFloat? <;> rfl
  | some x =>
    cases b.asFloat? with
    | none => rfl
    | some y => exact compareFloat_swap x y

theorem compare?_swap (a b : Value) : b.compare? a = (a.compare? b).map Ordering.swap := by
  cases a <;> cases b
  case int.int i j => exact congrArg some (Int.compare_swap i j).symm
  case bool.bool x y => exact congrArg some Std.OrientedCmp.eq_swap
  case string.string x y => exact congrArg some Std.OrientedCmp.eq_swap
  case timestamp.timestamp x y => exact congrArg some Std.OrientedCmp.eq_swap
  case date.date x y => exact congrArg some Std.OrientedCmp.eq_swap
  case dateTime.dateTime x y => exact congrArg some Std.OrientedCmp.eq_swap
  all_goals first | rfl | exact compareDecimal_swap _ _ | exact compareDouble_swap _ _

theorem compareFloat_eq_iff {x y : Float} : compareFloat x y = some .eq ↔ (x == y) = true := by
  unfold compareFloat
  split
  · next less =>
    rw [Number.lt_iff_compare] at less
    rw [Number.beq_iff_compare, less]
  · split
    · next equal => simp [equal]
    · next different =>
      split <;> simp [different]

theorem aligned?_of_beq {x y : Float} (equal : (x == y) = true) :
    (float x).aligned? = (float y).aligned? := by
  have zeros : (float 0).aligned? = (float (-0)).aligned? := by decide +kernel
  obtain ⟨-, -, rfl | ⟨rfl, rfl⟩ | ⟨rfl, rfl⟩⟩ := Float.beq_iff_ne_nan_and_eq.mp equal
  · rfl
  · exact zeros
  · exact zeros.symm

theorem beq_iff_rank {x y : Float} : (x == y) = true ↔
    x.isNaN = false ∧ y.isNaN = false ∧ Number.rank x = Number.rank y := by
  rw [← compareFloat_eq_iff]
  by_cases nan : x.isNaN = true ∨ y.isNaN = true
  · rw [Number.compareFloat_nan nan]
    constructor
    · rintro ⟨⟩
    · rintro ⟨left, right, -⟩
      rcases nan with nan | nan
      · cases left.symm.trans nan
      · cases right.symm.trans nan
  · simp only [not_or, Bool.not_eq_true] at nan
    obtain ⟨left, right⟩ := nan
    rw [Number.compareFloat_rank left right]
    simp only [Option.some.injEq, compare_eq_iff_eq, left, right, true_and]

theorem compareFloat_congr {x y : Float} (equal : (x == y) = true) (z : Float) :
    compareFloat x z = compareFloat y z := by
  obtain ⟨left, right, ranks⟩ := beq_iff_rank.mp equal
  cases nan : z.isNaN with
  | true => rw [Number.compareFloat_nan (.inr nan), Number.compareFloat_nan (.inr nan)]
  | false => rw [Number.compareFloat_rank left nan, Number.compareFloat_rank right nan, ranks]

theorem compare?_congr {a b c : Value} (numeric : a.isNumeric = true) (same : a.same b = true) :
    a.compare? c = b.compare? c := by
  cases a with
  | int i =>
    cases b <;> first | exact absurd same Bool.false_ne_true | skip
    obtain rfl := eq_of_beq same
    rfl
  | float x =>
    cases b <;> first | exact absurd same Bool.false_ne_true | skip
    rename_i y
    have decimals : compareDecimal (float x) c = compareDecimal (float y) c := by
      rw [compareDecimal_aligned, compareDecimal_aligned, aligned?_of_beq same]
    have doubles : compareDouble (float x) c = compareDouble (float y) c := by
      unfold compareDouble
      cases c.asFloat? with
      | none => rfl
      | some z => exact compareFloat_congr same z
    cases c <;> first | exact decimals | exact doubles
  | decimal d =>
    cases b <;> first | exact absurd same Bool.false_ne_true | skip
    rename_i e
    have equal : (decimal d).aligned? = (decimal e).aligned? := congrArg some (eq_of_beq same)
    have decimals : compareDecimal (decimal d) c = compareDecimal (decimal e) c := by
      rw [compareDecimal_aligned, compareDecimal_aligned, equal]
    cases c <;> exact decimals
  | _ => cases numeric

theorem same_self (v : Value) : v.proper = true → (v.same v = true ↔ v.holdsNaN = false) := by
  induction v using nested with
  | plain v notObject notList =>
    intro _
    cases v with
    | object fields => exact absurd rfl (notObject fields)
    | list items => exact absurd rfl (notList items)
    | null => exact ⟨fun _ => rfl, fun _ => rfl⟩
    | float x =>
      show (x == x) = true ↔ x.isNaN = false
      rw [Float.beq_self_iff]
      simp
    | decimal d => exact ⟨fun _ => rfl, fun _ => beq_self_eq_true d.aligned⟩
    | _ => exact ⟨fun _ => rfl, fun _ => beq_self_eq_true _⟩
  | object fields ih =>
    intro properly
    obtain ⟨once, each⟩ := proper_object.mp properly
    rw [same_object, holdsNaN_object]
    constructor
    · rintro ⟨-, same⟩ e held
      obtain ⟨w, found, same⟩ := same e held
      obtain rfl := Option.some.inj ((Keyed.find?_of_mem once held).symm.trans found)
      exact (ih e held (each e held)).mp same
    · intro numbers
      exact ⟨rfl, fun e held => ⟨e.2, Keyed.find?_of_mem once held,
        (ih e held (each e held)).mpr (numbers e held)⟩⟩
  | list items ih =>
    intro properly
    have each := proper_list.mp properly
    rw [same_list, holdsNaN_list]
    constructor
    · rintro ⟨-, same⟩ v held
      obtain ⟨i, found⟩ := List.getElem?_of_mem held
      obtain ⟨w, found', same⟩ := same i v found
      obtain rfl := Option.some.inj (found.symm.trans found')
      exact (ih v held (each v held)).mp same
    · intro numbers
      refine ⟨rfl, fun i v found => ⟨v, found, ?_⟩⟩
      have held := List.mem_of_getElem? found
      exact (ih v held (each v held)).mpr (numbers v held)

theorem isNumeric_of_same {a b : Value} (same : a.same b = true) : a.isNumeric = b.isNumeric := by
  cases a <;> cases b <;> first | rfl | exact absurd same Bool.false_ne_true

theorem typeName_of_same {v w : Value} (met : v.same w = true) : v.typeName = w.typeName := by
  cases v <;> cases w <;> first | rfl | exact absurd met Bool.false_ne_true

theorem equals_of_typeName {v w : Value} (named : v.typeName = w.typeName) :
    v.equals w = v.same w := by
  cases v with
  | int i =>
    cases w with
    | int j =>
      rw [Bool.eq_iff_iff, ordered_int.equals, compare_eq_iff_eq]
      exact beq_iff_eq.symm
    | float | decimal => simp [typeName] at named
    | _ => rfl
  | float x =>
    cases w with
    | float y =>
      show (compareFloat x y == some .eq) = (x == y)
      rw [Bool.eq_iff_iff, beq_iff_eq, compareFloat_eq_iff]
    | int | decimal => simp [typeName] at named
    | _ => rfl
  | decimal d =>
    cases w with
    | decimal e =>
      rw [Bool.eq_iff_iff, ordered_decimal.equals, Decimal.compare, compare_eq_iff_eq]
      exact beq_iff_eq.symm
    | int | float => simp [typeName] at named
    | _ => rfl
  | _ => rfl

theorem equals_self (v : Value) : v.equals v = v.same v :=
  equals_of_typeName rfl

theorem equals_congr {a b c : Value} (left : a.proper = true) (right : b.proper = true)
    (same : a.same b = true) : a.equals c = b.equals c := by
  have kinds := isNumeric_of_same same
  unfold equals
  rw [← kinds]
  cases numeric : a.isNumeric && c.isNumeric with
  | true =>
    rw [if_pos rfl, if_pos rfl, compare?_congr (Bool.and_eq_true_iff.mp numeric).1 same]
  | false =>
    rw [if_neg Bool.false_ne_true, if_neg Bool.false_ne_true, Bool.eq_iff_iff]
    exact ⟨same_trans b (same_symm a left right same), same_trans a same⟩

theorem equals_symm {a b : Value} (left : a.proper = true) (right : b.proper = true) :
    a.equals b = b.equals a := by
  unfold equals
  rw [Bool.and_comm b.isNumeric]
  split
  · rw [compare?_swap a b]
    cases a.compare? b with
    | none => rfl
    | some o => cases o <;> rfl
  · rw [Bool.eq_iff_iff]
    exact ⟨same_symm a left right, same_symm b right left⟩

theorem equals_of_same {a b : Value} (left : a.proper = true) (right : b.proper = true)
    (same : a.same b = true) : a.equals b = true := by
  have own : b.same b = true := same_trans b (same_symm a left right same) same
  rw [equals_congr left right same, equals_self, own]

end Value

end EntitySearch
