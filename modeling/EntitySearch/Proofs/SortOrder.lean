import EntitySearch.Proofs.Equality

/-! The order of sorting.

Null comes first, and values without an order tie. Ties with such values are not
transitive, and nor are those of numbers: some pairs of numbers meet as decimals
and others as doubles, which round. What follows from two comparisons depends on
the classes of the three values.
-/

set_option autoImplicit false

namespace EntitySearch.Value

/-- What matters for sorting: the kind, where a kind is ordered. -/
inductive SortClass
  | null
  | kind (k : Kind)
  /-- Doubles that are numbers. -/
  | double
  /-- Doubles that are no numbers, objects and lists. -/
  | unordered
  deriving DecidableEq, Repr

def sortClass (v : Value) : SortClass :=
  match v.kind? with
  | some k => .kind k
  | none =>
    match v with
    | .null => .null
    | .float x => if x.isNaN then .unordered else .double
    | _ => .unordered

namespace SortClass

def isNumeric : SortClass → Bool
  | .kind .int | .kind .decimal | .double => true
  | _ => false

/-- Whether values of two classes are compared and do not simply tie. -/
def meets (A B : SortClass) : Bool :=
  (A.isNumeric && B.isNumeric) || (A == B && A != .null && A != .unordered)

/-- Whether numbers of two classes meet as decimals or whole numbers, which are exact. -/
def exact (A B : SortClass) : Bool :=
  A == .kind .decimal || B == .kind .decimal || (A == .kind .int && B == .kind .int)

/-- Classes of numbers that keep to one way of comparison, as far as it matters. -/
def agree (A B C : SortClass) : Bool :=
  if exact A C then exact A B && exact B C && B != .double else B != .kind .decimal

/-- Whether the order of values of two neighbouring pairs of classes settles that of the outer pair. -/
def settled (A B C : SortClass) : Bool :=
  A == .null || B == .null || C == .null || !A.meets C ||
    (A.meets B && (!A.isNumeric || agree A B C))

section
variable {A B : SortClass}

theorem isNumeric_of_meets (meet : A.meets B = true) (numeric : A.isNumeric = true) :
    B.isNumeric = true := by
  simp only [meets, Bool.or_eq_true, Bool.and_eq_true, beq_iff_eq] at meet
  obtain ⟨-, numeric'⟩ | ⟨⟨rfl, -⟩, -⟩ := meet
  · exact numeric'
  · exact numeric

theorem kind_of_meets (meet : A.meets B = true) (plain : A.isNumeric = false) :
    ∃ k, A = .kind k ∧ B = .kind k := by
  simp only [meets, plain, Bool.false_and, Bool.false_or, Bool.and_eq_true, beq_iff_eq,
    bne_iff_ne] at meet
  obtain ⟨⟨rfl, notNull⟩, ordered⟩ := meet
  cases A with
  | kind k => exact ⟨k, rfl, rfl⟩
  | null => exact absurd rfl notNull
  | unordered => exact absurd rfl ordered
  | double => cases plain

theorem meets_symm (meet : A.meets B = true) : B.meets A = true := by
  cases numeric : A.isNumeric with
  | true => simp [meets, numeric, isNumeric_of_meets meet numeric]
  | false =>
    obtain ⟨k, rfl, rfl⟩ := kind_of_meets meet numeric
    exact meet

theorem meets_trans {C : SortClass} (first : A.meets B = true) (second : B.meets C = true) :
    A.meets C = true := by
  cases numeric : A.isNumeric with
  | true =>
    have numeric' := isNumeric_of_meets second (isNumeric_of_meets first numeric)
    simp [meets, numeric, numeric']
  | false =>
    obtain ⟨k, rfl, rfl⟩ := kind_of_meets first numeric
    exact second

end

end SortClass

theorem sortClass_null {v : Value} (h : v.sortClass = .null) : v = .null := by
  cases v with
  | null => rfl
  | float x =>
    simp only [sortClass, kind?] at h
    split at h <;> cases h
  | _ => cases h

theorem sortClass_kind {v : Value} {k : Kind} (h : v.sortClass = .kind k) : v.kind? = some k := by
  cases v with
  | float x =>
    simp only [sortClass, kind?] at h
    split at h <;> cases h
  | null => cases h
  | object => cases h
  | list => cases h
  | _ =>
    cases h
    rfl

theorem sortClass_float {x : Float} (number : x.isNaN = false) : (float x).sortClass = .double := by
  simp only [sortClass, kind?, number]
  rfl

theorem number_cases {v : Value} (numeric : v.sortClass.isNumeric = true) :
    (∃ i, v = .int i) ∨ (∃ d, v = .decimal d) ∨ ∃ x, v = .float x ∧ x.isNaN = false := by
  cases v with
  | int i => exact .inl ⟨i, rfl⟩
  | decimal d => exact .inr (.inl ⟨d, rfl⟩)
  | float x =>
    refine .inr (.inr ⟨x, rfl, ?_⟩)
    cases nan : x.isNaN with
    | false => rfl
    | true =>
      simp only [sortClass, kind?, nan] at numeric
      cases numeric
  | _ => cases numeric

section
variable (a b : Value)

theorem sortOrder_reverse : b.sortOrder a = (a.sortOrder b).swap := by
  unfold sortOrder
  cases a.isNull <;> cases b.isNull
  · rw [compare?_swap a b]
    cases a.compare? b <;> rfl
  all_goals rfl

theorem sortOrder_self : a.sortOrder a = .eq := by
  have own := sortOrder_reverse a a
  revert own
  cases a.sortOrder a <;> decide

end

section
variable {a b : Value}

theorem aligned?_int {i : Int} (stored : (int i).proper = true) :
    (int i).aligned? = some (i * Int.pow 10 28) := by
  rw [proper] at stored
  obtain ⟨d, made, -, whole, places⟩ := Decimal.exists_ofInt? (Number.natAbs_of_int64? stored)
  rw [aligned?, asDecimal?, made, Option.map_some, Decimal.aligned, whole, places]

theorem sortOrder_exact (left : a.proper = true) (right : b.proper = true)
    (numeric : a.sortClass.isNumeric = true) (numeric' : b.sortClass.isNumeric = true)
    (exact : SortClass.exact a.sortClass b.sortClass = true) :
    a.sortOrder b = (compareDecimal a b).getD .eq := by
  obtain ⟨i, rfl⟩ | ⟨d, rfl⟩ | ⟨x, rfl, number⟩ := number_cases numeric
  · obtain ⟨j, rfl⟩ | ⟨e, rfl⟩ | ⟨y, rfl, number⟩ := number_cases numeric'
    · have scales : StrictMono fun i : Int => i * Int.pow 10 28 := by
        intro i j less
        have positive : Int.pow 10 28 = 10000000000000000000000000000 := rfl
        simp only [positive]
        omega
      have scaled := scales.cmp_map_eq i j
      rw [cmp_eq_compare, cmp_eq_compare] at scaled
      rw [compareDecimal_aligned, aligned?_int left, aligned?_int right]
      exact scaled.symm
    · rfl
    · rw [sortClass_float number] at exact
      cases exact
  · obtain ⟨j, rfl⟩ | ⟨e, rfl⟩ | ⟨y, rfl, -⟩ := number_cases numeric' <;> rfl
  · rw [sortClass_float number] at exact
    obtain ⟨j, rfl⟩ | ⟨e, rfl⟩ | ⟨y, rfl, number'⟩ := number_cases numeric'
    · cases exact
    · rfl
    · rw [sortClass_float number'] at exact
      cases exact

theorem isLE_exact (left : a.proper = true) (right : b.proper = true)
    (numeric : a.sortClass.isNumeric = true) (numeric' : b.sortClass.isNumeric = true)
    (exact : SortClass.exact a.sortClass b.sortClass = true) :
    (a.sortOrder b).isLE = true ↔ ∀ x ∈ a.aligned?, ∀ y ∈ b.aligned?, x ≤ y := by
  rw [sortOrder_exact left right numeric numeric' exact, compareDecimal_aligned]
  cases a.aligned? with
  | none => simp
  | some x =>
    cases b.aligned? with
    | none => simp
    | some y => simpa using Std.isLE_compare

def standing : Value → Int
  | .int i => Number.rank (Number.floatOfInt i)
  | .float x => Number.rank x
  | _ => 0

theorem isLE_rough (numeric : a.sortClass.isNumeric = true) (numeric' : b.sortClass.isNumeric = true)
    (rough : SortClass.exact a.sortClass b.sortClass = false) :
    (a.sortOrder b).isLE = true ↔ a.standing ≤ b.standing := by
  have meet : ∀ {x y : Float}, x.isNaN = false → y.isNaN = false →
      (((compareFloat x y).getD .eq).isLE = true ↔ Number.rank x ≤ Number.rank y) := by
    intro x y number number'
    rw [Number.compareFloat_rank number number']
    exact Std.isLE_compare
  obtain ⟨i, rfl⟩ | ⟨d, rfl⟩ | ⟨x, rfl, number⟩ := number_cases numeric
  · obtain ⟨j, rfl⟩ | ⟨e, rfl⟩ | ⟨y, rfl, number⟩ := number_cases numeric'
    · cases rough
    · cases rough
    · exact meet (Number.floatOfInt_number i) number
  · cases rough
  · obtain ⟨j, rfl⟩ | ⟨e, rfl⟩ | ⟨y, rfl, number'⟩ := number_cases numeric'
    · exact meet number (Number.floatOfInt_number j)
    · rw [sortClass_float number] at rough
      cases rough
    · exact meet number number'

theorem standing_mono (numeric : a.sortClass.isNumeric = true)
    (numeric' : b.sortClass.isNumeric = true) (left : a.sortClass ≠ .kind .decimal)
    (right : b.sortClass ≠ .kind .decimal) (le : (a.sortOrder b).isLE = true) :
    a.standing ≤ b.standing := by
  cases exact : SortClass.exact a.sortClass b.sortClass with
  | false => exact (isLE_rough numeric numeric' exact).mp le
  | true =>
    simp only [SortClass.exact, Bool.or_eq_true, Bool.and_eq_true, beq_iff_eq, left, right,
      false_or] at exact
    obtain ⟨i, rfl⟩ := ordered_int.covers a (sortClass_kind exact.1)
    obtain ⟨j, rfl⟩ := ordered_int.covers b (sortClass_kind exact.2)
    exact Number.rank_floatOfInt_mono (Std.isLE_compare.mp le)

end

section
variable {a b c : Value}

theorem isLE_trans_numbers (left : a.proper = true) (middle : b.proper = true)
    (right : c.proper = true) (numeric : a.sortClass.isNumeric = true)
    (numeric' : b.sortClass.isNumeric = true) (numeric'' : c.sortClass.isNumeric = true)
    (agree : a.sortClass.agree b.sortClass c.sortClass = true)
    (first : (a.sortOrder b).isLE = true) (second : (b.sortOrder c).isLE = true) :
    (a.sortOrder c).isLE = true := by
  unfold SortClass.agree at agree
  split at agree
  · next outer =>
    simp only [Bool.and_eq_true, bne_iff_ne] at agree
    obtain ⟨⟨inner, inner'⟩, whole⟩ := agree
    rw [isLE_exact left middle numeric numeric' inner] at first
    rw [isLE_exact middle right numeric' numeric'' inner'] at second
    rw [isLE_exact left right numeric numeric'' outer]
    -- What lies between has a coefficient, and the comparisons go through it.
    obtain ⟨y, held⟩ : ∃ y, b.aligned? = some y := by
      obtain ⟨j, rfl⟩ | ⟨e, rfl⟩ | ⟨y, rfl, number⟩ := number_cases numeric'
      · exact ⟨_, aligned?_int middle⟩
      · exact ⟨_, rfl⟩
      · exact absurd (sortClass_float number) whole
    intro x there z there'
    exact (first x there y held).trans (second y held z there')
  · next outer =>
    have rough := Bool.eq_false_iff.mpr outer
    simp only [SortClass.exact, Bool.or_eq_true, beq_iff_eq, not_or] at outer
    obtain ⟨⟨plain, plain''⟩, -⟩ := outer
    have plain' := bne_iff_ne.mp agree
    rw [isLE_rough numeric numeric'' rough]
    exact (standing_mono numeric numeric' plain plain' first).trans
      (standing_mono numeric' numeric'' plain' plain'' second)

theorem compare?_nan {x : Float} (nan : x.isNaN = true) (v : Value) : (float x).compare? v = none := by
  have infinite : Number.isFiniteFloat x = false := by
    have beyond : ¬x.toBits.toNat % 2 ^ 63 ≤ 2047 * 2 ^ 52 := by
      rw [← Number.isNaN_iff_bits, nan]
      decide
    have sizes : Nat.pow 2 52 = 2 ^ 52 ∧ Nat.pow 2 11 = 2 ^ 11 := ⟨rfl, rfl⟩
    simp only [Number.isFiniteFloat, sizes, bne_eq_false_iff_eq]
    have whole := x.toBits.toNat_lt
    omega
  have decimals : compareDecimal (float x) v = none := by
    have unfit : Decimal.ofFloat? x = none := by
      rw [Decimal.ofFloat?, infinite]
      rfl
    rw [compareDecimal, asDecimal?, unfit]
    rfl
  cases v with
  | int j => exact Number.compareFloat_nan (.inl nan)
  | float y => exact Number.compareFloat_nan (.inl nan)
  | decimal d => exact decimals
  | _ => rfl

theorem meets_of_compare? {o : Ordering} (met : a.compare? b = some o) :
    a.sortClass.meets b.sortClass = true := by
  have number : ∀ {x v o}, (float x).compare? v = some o → (float x).sortClass = .double := by
    intro x v o met
    apply sortClass_float
    cases nan : x.isNaN with
    | false => rfl
    | true => cases (compare?_nan nan v).symm.trans met
  have back : b.compare? a = some o.swap := by
    rw [compare?_swap, met]
    rfl
  cases a <;> cases b <;> first | rfl | cases met | skip
  case float.float =>
    rw [number met, number back]
    rfl
  case float.int | float.decimal =>
    rw [number met]
    rfl
  case int.float | decimal.float =>
    rw [number back]
    rfl

theorem sortOrder_apart (left : a.isNull = false) (right : b.isNull = false)
    (apart : a.sortClass.meets b.sortClass = false) : a.sortOrder b = .eq := by
  have none : a.compare? b = none := by
    cases met : a.compare? b with
    | none => rfl
    | some o => cases (meets_of_compare? met).symm.trans apart
  simp only [sortOrder, left, right, none]
  rfl

theorem null_isLE (null : a.isNull = true) : (a.sortOrder b).isLE = true := by
  rw [sortOrder, null]
  cases b.isNull <;> rfl

theorem present_of_isLE (present : a.isNull = false) (le : (a.sortOrder b).isLE = true) :
    b.isNull = false := by
  rw [sortOrder, present] at le
  cases null : b.isNull with
  | false => rfl
  | true =>
    rw [null] at le
    cases le

/-- What is settled of three classes holds of their values. -/
theorem isLE_trans_settled (left : a.proper = true) (middle : b.proper = true)
    (right : c.proper = true) (settled : a.sortClass.settled b.sortClass c.sortClass = true)
    (first : (a.sortOrder b).isLE = true) (second : (b.sortOrder c).isLE = true) :
    (a.sortOrder c).isLE = true := by
  rcases Bool.eq_false_or_eq_true a.isNull with null | present
  · exact null_isLE null
  have present' := present_of_isLE present first
  have present'' := present_of_isLE present' second
  rcases Bool.eq_false_or_eq_true (a.sortClass.meets c.sortClass) with outer | apart
  swap
  · rw [sortOrder_apart present present'' apart, Ordering.isLE_eq]
  have named : ∀ {v : Value}, v.isNull = false → v.sortClass ≠ .null := by
    rintro v present null
    obtain rfl := sortClass_null null
    cases present
  simp only [SortClass.settled, named present, named present', named present'', outer, beq_iff_eq,
    Bool.or_eq_true, Bool.and_eq_true, Bool.not_eq_true', Bool.not_true, false_or,
    Bool.false_eq_true] at settled
  obtain ⟨inner, agree⟩ := settled
  cases numeric : a.sortClass.isNumeric with
  | true =>
    have numeric' := SortClass.isNumeric_of_meets inner numeric
    have numeric'' := SortClass.isNumeric_of_meets outer numeric
    have agree := agree.resolve_left (by rw [numeric]; decide)
    exact isLE_trans_numbers left middle right numeric numeric' numeric'' agree first second
  | false =>
    obtain ⟨k, kind, kind'⟩ := SortClass.kind_of_meets inner numeric
    obtain ⟨k', same, kind''⟩ := SortClass.kind_of_meets outer numeric
    obtain rfl := SortClass.kind.inj (kind.symm.trans same)
    exact (transCmp_ofKind k).isLE_trans (a := ⟨a, sortClass_kind kind⟩)
      (b := ⟨b, sortClass_kind kind'⟩) (c := ⟨c, sortClass_kind kind''⟩) first second

end

def ofDecimal (i : Int) : Value := .decimal ((Decimal.ofInt? i).getD .zero)

def ofDouble (i : Int) : Value := .float (Number.floatOfInt i)

namespace SortClass

def sample (high : Bool) : SortClass → Value
  | .null => .null
  | .kind .bool => .bool high
  | .kind .int => .int high.toNat
  | .kind .decimal => ofDecimal high.toNat
  | .kind .string => .string (if high then "b" else "a")
  | .kind .timestamp => .timestamp ⟨⟨⟨high.toNat⟩, .midnight⟩⟩
  | .kind .date => .date ⟨high.toNat⟩
  | .kind .dateTime => .dateTime ⟨⟨high.toNat⟩, .midnight⟩
  | .double => ofDouble high.toNat
  | .unordered => .list []

/-- Numbers of three classes that do not agree, the first after the last. -/
def conflict : SortClass → SortClass → SortClass → Value × Value × Value
  -- Above `2 ^ 53`, doubles skip every other whole number.
  | .kind .int, .double, .kind .int =>
    (.int 9007199254740993, ofDouble 9007199254740992, .int 9007199254740992)
  | .kind .int, .double, .kind .decimal =>
    (.int 9007199254740993, ofDouble 9007199254740992, ofDecimal 9007199254740992)
  | .kind .decimal, .kind .int, .double =>
    (ofDecimal 9007199254740993, .int 9007199254740993, ofDouble 9007199254740992)
  | .kind .decimal, .double, .kind .int =>
    (ofDecimal 9007199254740996, ofDouble 9007199254740996, .int 9007199254740995)
  | .double, .kind .int, .kind .decimal =>
    (ofDouble 9007199254740996, .int 9007199254740995, ofDecimal 9007199254740995)
  -- Decimals keep fewer places of a double than it has.
  | .kind .int, .kind .decimal, .double => (.int 1, ofDecimal 1, .float 0.9999999999999999)
  | .double, .kind .decimal, C => (.float 1.0000000000000002, ofDecimal 1, C.sample true)
  -- Doubles beyond all decimals tie with decimals.
  | .kind .decimal, .double, C => (ofDecimal 1, ofDouble (Int.negOfNat (2 ^ 96)), C.sample false)
  | A, _, C => (A.sample true, ofDouble (2 ^ 96), C.sample false)

/-- Values of three classes that are in order pair by pair, but not the first and the last. -/
structure Breaks (A B C : SortClass) (a b c : Value) : Prop where
  classes : a.sortClass = A ∧ b.sortClass = B ∧ c.sortClass = C
  stored : a.proper = true ∧ b.proper = true ∧ c.proper = true
  first : (a.sortOrder b).isLE = true
  second : (b.sortOrder c).isLE = true
  outer : a.sortOrder c = .gt

section
variable {A B C : SortClass}

theorem numeric_cases (numeric : A.isNumeric = true) :
    A = .kind .int ∨ A = .kind .decimal ∨ A = .double := by
  cases A with
  | kind k => cases k <;> first | decide | cases numeric
  | double => exact .inr (.inr rfl)
  | _ => cases numeric

theorem sample_class (high : Bool) (A : SortClass) : (A.sample high).sortClass = A := by
  cases A with
  | kind k => cases k <;> rfl
  | double => exact sortClass_float (Number.floatOfInt_number _)
  | _ => rfl

theorem sample_proper (high : Bool) (A : SortClass) : (A.sample high).proper = true := by
  cases A with
  | kind k => cases k <;> cases high <;> rfl
  | _ => rfl

theorem sample_null {high : Bool} (ordinary : A ≠ .null) : (A.sample high).isNull = false := by
  cases A with
  | kind k => cases k <;> rfl
  | null => exact absurd rfl ordinary
  | _ => rfl

theorem sample_gt (meet : A.meets C = true) :
    (A.sample true).sortOrder (C.sample false) = .gt := by
  cases numeric : A.isNumeric with
  | true =>
    rcases numeric_cases numeric with rfl | rfl | rfl <;>
      rcases numeric_cases (isNumeric_of_meets meet numeric) with rfl | rfl | rfl <;>
      decide +kernel
  | false =>
    obtain ⟨k, rfl, rfl⟩ := kind_of_meets meet numeric
    cases k <;> decide +kernel

theorem conflict_breaks (numeric : A.isNumeric = true) (numeric' : B.isNumeric = true)
    (numeric'' : C.isNumeric = true) (clash : agree A B C = false) :
    Breaks A B C (conflict A B C).1 (conflict A B C).2.1 (conflict A B C).2.2 := by
  rcases numeric_cases numeric with rfl | rfl | rfl <;>
    rcases numeric_cases numeric' with rfl | rfl | rfl <;>
    rcases numeric_cases numeric'' with rfl | rfl | rfl <;>
    first
    | exact absurd clash (by decide)
    | exact ⟨by decide +kernel, by decide +kernel, by decide +kernel, by decide +kernel,
        by decide +kernel⟩

theorem sample_breaks (ordinary : A ≠ .null) (ordinary' : B ≠ .null) (ordinary'' : C ≠ .null)
    (outer : A.meets C = true) (apart : A.meets B = false) (apart' : B.meets C = false) :
    Breaks A B C (A.sample true) (B.sample true) (C.sample false) where
  classes := ⟨sample_class _ A, sample_class _ B, sample_class _ C⟩
  stored := ⟨sample_proper _ A, sample_proper _ B, sample_proper _ C⟩
  first := by
    rw [sortOrder_apart (sample_null ordinary) (sample_null ordinary')
      (by rw [sample_class, sample_class, apart]), Ordering.isLE_eq]
  second := by
    rw [sortOrder_apart (sample_null ordinary') (sample_null ordinary'')
      (by rw [sample_class, sample_class, apart']), Ordering.isLE_eq]
  outer := sample_gt outer

theorem exists_breaks (unsettled : settled A B C = false) : ∃ a b c, Breaks A B C a b c := by
  simp only [settled, Bool.or_eq_false_iff, Bool.not_eq_false', beq_eq_false_iff_ne] at unsettled
  obtain ⟨⟨⟨⟨ordinary, ordinary'⟩, ordinary''⟩, outer⟩, clash⟩ := unsettled
  cases inner : A.meets B with
  | false =>
    have apart : B.meets C = false := by
      by_contra met
      exact Bool.false_ne_true (inner.symm.trans (meets_trans outer (meets_symm (by simpa using met))))
    exact ⟨_, _, _, sample_breaks ordinary ordinary' ordinary'' outer inner apart⟩
  | true =>
    simp only [inner, Bool.true_and, Bool.or_eq_false_iff, Bool.not_eq_false'] at clash
    obtain ⟨numeric, clash⟩ := clash
    exact ⟨_, _, _, conflict_breaks numeric (isNumeric_of_meets inner numeric)
      (isNumeric_of_meets outer numeric) clash⟩

end

end SortClass

/-- Sorting compares alike in either direction. For values of three classes, what is in order pair
by pair is in order if and only if their classes are settled. -/
theorem sorting_order (A B C : SortClass) : (∀ a : Value, a.sortOrder a = .eq) ∧
    (∀ a b : Value, b.sortOrder a = (a.sortOrder b).swap) ∧
    (A.settled B C = true ↔ ∀ a b c : Value,
      a.proper = true → b.proper = true → c.proper = true →
      a.sortClass = A → b.sortClass = B → c.sortClass = C →
      (a.sortOrder b).isLE = true → (b.sortOrder c).isLE = true →
      (a.sortOrder c).isLE = true) := by
  refine ⟨sortOrder_self, sortOrder_reverse, ?_, ?_⟩
  · rintro settled a b c left middle right rfl rfl rfl
    exact isLE_trans_settled left middle right settled
  · intro transitive
    by_contra unsettled
    obtain ⟨a, b, c, broken⟩ := SortClass.exists_breaks (Bool.not_eq_true _ ▸ unsettled)
    obtain ⟨class₁, class₂, class₃⟩ := broken.classes
    obtain ⟨left, middle, right⟩ := broken.stored
    have order := transitive a b c left middle right class₁ class₂ class₃ broken.first broken.second
    rw [broken.outer] at order
    cases order

/-- Decimals and a double are settled where decimals come first. -/
theorem sorting_order_decimals :
    SortClass.settled (.kind .decimal) (.kind .decimal) .double = true ∧
    (ofDecimal 1).sortOrder (ofDouble 3) ≠ .gt := by
  have settled : SortClass.settled (.kind .decimal) (.kind .decimal) .double = true := by decide
  have order := (sorting_order (.kind .decimal) (.kind .decimal) .double).2.2.mp settled
    (ofDecimal 1) (ofDecimal 2) (ofDouble 3) rfl rfl rfl rfl rfl
    (sortClass_float (Number.floatOfInt_number 3)) (by decide +kernel) (by decide +kernel)
  exact ⟨settled, Ordering.isLE_iff_ne_gt.mp order⟩

/-- A whole number, a double it ties with, and a smaller whole number that ties as well. -/
theorem sorting_not_transitive :
    ((int 9007199254740993).sortOrder (ofDouble 9007199254740992)).isLE = true ∧
    ((ofDouble 9007199254740992).sortOrder (int 9007199254740992)).isLE = true ∧
    (int 9007199254740993).sortOrder (int 9007199254740992) = .gt := by
  decide +kernel

end EntitySearch.Value
