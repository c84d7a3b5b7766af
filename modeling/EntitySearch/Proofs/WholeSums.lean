import Mathlib
import EntitySearch.Proofs.Execution

/-! Sums of whole numbers.

A sum of whole numbers is whole as long as no sum of a front part leaves 64
bits, and from there on a decimal. As decimals the same numbers add up exactly,
so that the order of the rows decides on the kind of the sum only.
-/

set_option autoImplicit false

namespace EntitySearch

namespace Number

theorem int64?_eq_some {i n : Int} : int64? i = some n ↔ (int64? i).isSome ∧ i = n := by
  unfold int64? within
  split <;> simp

end Number

namespace Decimal

theorem roundHalfEven_one (n : Nat) : Number.roundHalfEven n 1 = n := by
  simp [Number.roundHalfEven, Nat.mod_one]

theorem fit?_whole (negative : Bool) (units : Nat) :
    fit? negative units 0 = of? negative units 0 := by
  have whole : surplus? units 0 = if units < Nat.pow 2 96 then some 0 else none := by
    rw [surplus?]
    by_cases fits : units < Nat.pow 2 96 <;> simp [fits]
  rw [fit?, whole]
  split
  · simp [roundHalfEven_one]
    cases of? negative units 0 <;> rfl
  · next wide =>
    have beyond : ¬(units < Nat.pow 2 96 ∧ 0 ≤ 28) := fun h => wide h.1
    rw [of?, dif_neg beyond]
    rfl

theorem add?_ofInt? {i k : Int} {a b : Decimal} (hi : i.natAbs < 2 ^ 96) (hk : k.natAbs < 2 ^ 96)
    (left : ofInt? i = some a) (right : ofInt? k = some b) : a.add? b = ofInt? (i + k) := by
  obtain ⟨_, same, units, value, scale⟩ := exists_ofInt? hi
  obtain rfl := Option.some.inj (left.symm.trans same)
  obtain ⟨_, same, units', value', scale'⟩ := exists_ofInt? hk
  obtain rfl := Option.some.inj (right.symm.trans same)
  rw [add?]
  split
  · next zero =>
    obtain rfl : i = 0 := by omega
    rw [Int.zero_add, right]
  split
  · next zero =>
    obtain rfl : k = 0 := by omega
    rw [Int.add_zero, left]
  · simp [value, value', scale, scale', fit?_whole, ofInt?]

end Decimal

namespace Aggregate

/-- The sums of all front parts, from that of none to that of all. -/
def partialSums (ns : List Int) : List Int := ns.scanl (· + ·) 0

/-- No sum of a front part leaves 64 bits. -/
def StaysWhole (ns : List Int) : Prop := ∀ s ∈ partialSums ns, (Number.int64? s).isSome

instance (ns : List Int) : Decidable (StaysWhole ns) :=
  inferInstanceAs (Decidable (∀ s ∈ partialSums ns, (Number.int64? s).isSome))

section
variable {total : Int} {ns : List Int}

theorem sum_mem_partialSums (ns : List Int) : ns.sum ∈ partialSums ns := by
  have last : ∀ total, total + ns.sum ∈ ns.scanl (· + ·) total := by
    induction ns with
    | nil => simp
    | cons n rest ih =>
      intro total
      rw [List.scanl_cons, List.sum_cons, ← Int.add_assoc]
      exact List.mem_cons_of_mem _ (ih _)
  simpa [partialSums] using last 0

theorem mem_scanl_start (total : Int) (ns : List Int) : total ∈ ns.scanl (· + ·) total := by
  cases ns <;> simp

/-- Adding with a limit of 64 bits gives the sum if no sum on the way leaves the limit. -/
theorem wholeSum?_eq_some (start : (Number.int64? total).isSome) {sum : Int} :
    wholeSum? total ns = some sum ↔
      (∀ s ∈ ns.scanl (· + ·) total, (Number.int64? s).isSome) ∧ total + ns.sum = sum := by
  induction ns generalizing total with
  | nil => simp [wholeSum?, start]
  | cons n rest ih =>
    rw [wholeSum?, List.scanl_cons, List.forall_mem_cons, List.sum_cons, ← Int.add_assoc]
    cases next : Number.int64? (total + n) with
    | none =>
      constructor
      · exact fun found => nomatch found
      · rintro ⟨⟨-, each⟩, -⟩
        have within := each _ (mem_scanl_start (total + n) rest)
        rw [next] at within
        cases within
    | some m =>
      obtain ⟨stays, rfl⟩ := Number.int64?_eq_some.mp next
      exact (ih stays).trans (and_congr_left' (by simp [start]))

theorem decimalSum_eq {d : Decimal} (begun : Decimal.ofInt? total = some d)
    (stored : ∀ n ∈ ns, (Number.int64? n).isSome)
    (fits : ∀ s ∈ ns.scanl (· + ·) total, s.natAbs < 2 ^ 96) :
    decimalSum d (ns.map .int) = .ok (Decimal.ofInt? (total + ns.sum)) := by
  induction ns generalizing total d with
  | nil => simp [decimalSum, begun]
  | cons n rest ih =>
    rw [List.forall_mem_cons] at stored
    rw [List.scanl_cons, List.forall_mem_cons] at fits
    have small : n.natAbs < 2 ^ 96 := Number.natAbs_of_int64? stored.1
    obtain ⟨a, made, -⟩ := Decimal.exists_ofInt? small
    obtain ⟨b, sum, -⟩ := Decimal.exists_ofInt? (fits.2 _ (mem_scanl_start (total + n) rest))
    rw [List.map_cons, decimalSum, Value.asDecimal?, made]
    simp only [Decimal.add?_ofInt? fits.1 small begun made, sum]
    rw [ih sum stored.2 fits.2, List.sum_cons, Int.add_assoc]

/-- The sum of whole numbers is whole as long as no sum of a front part leaves 64 bits, and a
decimal otherwise. -/
theorem total_whole (filled : ns ≠ []) (stored : ∀ n ∈ ns, (Number.int64? n).isSome)
    (fits : ∀ s ∈ partialSums ns, s.natAbs < 2 ^ 96) {d : Decimal}
    (sum : Decimal.ofInt? ns.sum = some d) :
    Aggregate.total (ns.map .int) =
      .ok (if StaysWhole ns then .int ns.sum else .decimal d) := by
  have present : (ns.map Value.int).isEmpty = false := by simpa using filled
  have whole : (ns.map Value.int).mapM Value.asInt? = some ns := by
    clear filled present stored fits sum
    induction ns with
    | nil => rfl
    | cons n rest ih => simp [ih, Value.asInt?]
  rw [Aggregate.total, present, if_neg Bool.false_ne_true]
  simp only [whole, Option.bind_some, Option.isSome_some, Bool.true_or, if_true]
  by_cases stays : StaysWhole ns
  · rw [if_pos stays, (wholeSum?_eq_some rfl).mpr ⟨stays, Int.zero_add _⟩]
  · have leaves : wholeSum? 0 ns = none := by
      rw [Option.eq_none_iff_forall_ne_some]
      exact fun s found => stays ((wholeSum?_eq_some rfl).mp found).1
    rw [if_neg stays, leaves]
    simp only [decimalSum_eq (d := .zero) rfl stored fits, Int.zero_add, sum]
    rfl

end

end Aggregate

/-- What the sum of whole numbers should be: whole if it has 64 bits, otherwise a decimal. -/
def Value.ofWhole? (sum : Int) : Option Value :=
  if (Number.int64? sum).isSome then some (.int sum) else (Decimal.ofInt? sum).map .decimal

namespace Expr

def wholes (e : Expr) (unit : List Row) : List Int :=
  unit.filterMap fun row => (e.eval row).toOption.bind Value.asInt?

/-- On every row, the expression is a whole number of 64 bits or null. -/
def ReadsWhole (e : Expr) (unit : List Row) : Prop :=
  ∀ row ∈ unit, e.eval row = .ok .null ∨ ∃ i, e.eval row = .ok (.int i) ∧ (Number.int64? i).isSome

variable {e : Expr} {unit : List Row}

theorem ReadsWhole.stored (h : e.ReadsWhole unit) :
    ∀ n ∈ e.wholes unit, (Number.int64? n).isSome := by
  intro n held
  obtain ⟨row, there, found⟩ := List.mem_filterMap.mp held
  rcases h row there with value | ⟨i, value, stays⟩
  · rw [value] at found
    cases found
  · rw [value] at found
    obtain rfl : i = n := Option.some.inj found
    exact stays

theorem ReadsWhole.present (h : e.ReadsWhole unit) (others : List Expr) :
    ∃ values, unit.mapM (Expr.aggregated (e :: others)) = .ok values ∧
      (values.filter fun v => !v.isNull) = (e.wholes unit).map .int := by
  induction unit with
  | nil => exact ⟨[], rfl, rfl⟩
  | cons row rest ih =>
    obtain ⟨first, h⟩ := List.forall_mem_cons.mp h
    obtain ⟨values, read, present⟩ := ih h
    rw [List.mapM_cons, read, Expr.aggregated, wholes, List.filterMap_cons]
    rcases first with value | ⟨i, value, -⟩
    · rw [value]
      exact ⟨.null :: values, rfl, present⟩
    · rw [value]
      exact ⟨.int i :: values, rfl, congrArg (Value.int i :: ·) present⟩

theorem ReadsWhole.perm {other : List Row} (h : e.ReadsWhole unit) (same : other.Perm unit) :
    e.ReadsWhole other :=
  fun row there => h row (same.mem_iff.mp there)

open Aggregate in
theorem ReadsWhole.evalGroup {name : String} (sums : Aggregate.ofName? name = some .sum)
    (others : List Expr) (whole : e.ReadsWhole unit) (filled : e.wholes unit ≠ [])
    (fits : ∀ s ∈ partialSums (e.wholes unit), s.natAbs < 2 ^ 96) {d : Decimal} (sum : Decimal.ofInt? (e.wholes unit).sum = some d) :
    (Expr.call name (e :: others)).evalGroup unit =
      .ok (if StaysWhole (e.wholes unit) then .int (e.wholes unit).sum else .decimal d) := by
  obtain ⟨values, read, present⟩ := whole.present others
  rw [Expr.evalGroup, sums]
  show (do Aggregate.sum.apply (← unit.mapM (Expr.aggregated (e :: others)))) = _
  rw [read]
  show Aggregate.sum.apply values = _
  rw [Aggregate.apply, present]
  exact total_whole filled whole.stored fits sum

open Aggregate in
/-- The sum of whole numbers has the value it should have; it is a decimal where it should be whole
exactly if some sum of a front part leaves 64 bits. The same rows in another order have the same sum
exactly if that is so, or not so, of both orders. -/
theorem whole_sums {name : String} (sums : Aggregate.ofName? name = some .sum)
    (others : List Expr) (whole : e.ReadsWhole unit) (filled : e.wholes unit ≠ [])
    (fits : ∀ s ∈ partialSums (e.wholes unit), s.natAbs < 2 ^ 96) :
    ∃ v sum, (Expr.call name (e :: others)).evalGroup unit = .ok v ∧
      Value.ofWhole? (e.wholes unit).sum = some sum ∧ v.equals sum = true ∧
      (v = sum ↔ Number.int64? (e.wholes unit).sum = none ∨ StaysWhole (e.wholes unit)) ∧
      ∀ other : List Row, other.Perm unit →
        (∀ s ∈ partialSums (e.wholes other), s.natAbs < 2 ^ 96) →
          ((Expr.call name (e :: others)).evalGroup other = .ok v ↔
            (StaysWhole (e.wholes other) ↔ StaysWhole (e.wholes unit))) := by
  obtain ⟨d, exact_sum, -⟩ := Decimal.exists_ofInt? (fits _ (sum_mem_partialSums _))
  have value := whole.evalGroup sums others filled fits exact_sum
  have expected : Value.ofWhole? (e.wholes unit).sum =
      some (if (Number.int64? (e.wholes unit).sum).isSome then .int (e.wholes unit).sum
        else .decimal d) := by
    rw [Value.ofWhole?, exact_sum]
    split <;> rfl
  have within : StaysWhole (e.wholes unit) → (Number.int64? (e.wholes unit).sum).isSome :=
    fun stays => stays _ (sum_mem_partialSums _)
  refine ⟨_, _, value, expected, ?_, ?_, fun other same fits' => ?_⟩
  · by_cases stays : StaysWhole (e.wholes unit)
    · rw [if_pos stays, if_pos (within stays)]
      simp [Value.equals, Value.isNumeric, Value.compare?]
    · rw [if_neg stays]
      split <;> simp [Value.equals, Value.isNumeric, Value.compare?, Value.compareDecimal,
        Value.asDecimal?, exact_sum, Decimal.compare]
  · by_cases stays : StaysWhole (e.wholes unit)
    · simp [stays, within stays]
    · cases fit : Number.int64? (e.wholes unit).sum <;> simp [stays]
  · have perm : (e.wholes other).Perm (e.wholes unit) := same.filterMap _
    have filled' : e.wholes other ≠ [] := fun none => filled (none ▸ perm).nil_eq.symm
    have value' := (whole.perm same).evalGroup sums others filled' fits' (perm.sum_eq ▸ exact_sum)
    rw [value', perm.sum_eq]
    by_cases stays : StaysWhole (e.wholes unit) <;>
      by_cases stays' : StaysWhole (e.wholes other) <;> simp [stays, stays']

end Expr

namespace Sample

def holding (v : Value) : Row := ⟨[("n", v)], []⟩

def summed : Expr := .call "sum" [.field ⟨.root, ["n"], "n"⟩]

def overflowing : List Row := [holding (.int (2 ^ 63 - 1)), holding .null, holding (.int 1)]

/-- The sum of the first two numbers leaves 64 bits, that of all three does not. -/
def returning : List Row :=
  [holding (.int (2 ^ 63 - 1)), holding (.int 1), holding (.int (-1))]

end Sample

namespace Expr

/-- A total beyond 64 bits is the decimal that it should be. -/
theorem whole_sums_overflowing :
    Aggregate.ofName? "sum" = some .sum ∧
      ReadsWhole (.field ⟨.root, ["n"], "n"⟩) Sample.overflowing ∧
      ∃ v, Sample.summed.evalGroup Sample.overflowing = .ok v ∧
        Value.ofWhole? (2 ^ 63) = some v := by
  have sums : Aggregate.ofName? "sum" = some .sum := by decide +kernel
  have whole : ReadsWhole (.field ⟨.root, ["n"], "n"⟩) Sample.overflowing := by
    intro row there
    simp only [Sample.overflowing, List.mem_cons, List.not_mem_nil, or_false] at there
    rcases there with rfl | rfl | rfl
    · exact .inr ⟨_, rfl, by decide⟩
    · exact .inl rfl
    · exact .inr ⟨_, rfl, by decide⟩
  obtain ⟨v, sum, value, expected, -, same, -⟩ :=
    whole_sums sums [] whole (by decide) (by decide)
  have beyond : Number.int64? (2 ^ 63) = none := by decide
  obtain rfl := same.mpr (.inl beyond)
  exact ⟨sums, whole, v, value, expected⟩

/-- In one order the sum is a decimal, although it has 64 bits; in another order it is whole. -/
theorem whole_sums_fail :
    Value.ofWhole? (wholes (.field ⟨.root, ["n"], "n"⟩) Sample.returning).sum =
        some (.int (2 ^ 63 - 1)) ∧
      (∃ d, Sample.summed.evalGroup Sample.returning = .ok (.decimal d)) ∧
      Sample.summed.evalGroup Sample.returning.reverse = .ok (.int (2 ^ 63 - 1)) :=
  ⟨rfl, ⟨_, rfl⟩, rfl⟩

end Expr

end EntitySearch
