import SignificantFigures.Double.Arithmetic
import SignificantFigures.Proofs.Double.Order
import SignificantFigures.Proofs.Double.Range

/-!
The arithmetic of doubles is the exact result, rounded. It is finite just inside the range, where
its value is that of the nearest double; past the end of the range it is the infinity of the sign of
the exact result.
-/

set_option autoImplicit false

namespace SignificantFigures.Double

/-- The double of an exact number: its size is rounded, and the sign is that of the number. A zero may
have either sign. -/
def IsRounded (q : Rat) (z : Double) : Prop :=
  ∃ negative, z = ofSize negative |q| ∧ (q ≠ 0 → negative = decide (q < 0))

/-- Doubles that compare equal: two of one value, or one infinity. -/
inductive Equal : Double → Double → Prop
  | values {x y : Finite} (same : x.same y = true) : Equal (.finite x) (.finite y)
  | infinite (negative : Bool) : Equal (.infinite negative) (.infinite negative)

theorem isRounded_ofSize (negative : Bool) {size : Rat} (nonneg : 0 ≤ size) :
    IsRounded (if negative then -size else size) (ofSize negative size) := by
  cases negative with
  | true =>
    refine ⟨true, by simp [abs_of_nonneg nonneg], fun nonzero => ?_⟩
    have positive : 0 < size := lt_of_le_of_ne nonneg (by simpa [eq_comm] using nonzero)
    simp [positive]
  | false => exact ⟨false, by simp [abs_of_nonneg nonneg], fun _ => by simp [nonneg]⟩

theorem isRounded_nearest (q : Rat) : IsRounded q (nearest q) := by
  unfold nearest
  split
  · next below => simpa using isRounded_ofSize true (neg_nonneg.mpr below.le)
  · next above => exact isRounded_ofSize false (not_lt.mp above)

section Operations

variable (x y : Finite)

theorem isRounded_finite : IsRounded x.value (.finite x) := by
  have rounded := isRounded_ofSize x.negative x.size_nonneg
  rwa [ofSize_size] at rounded

theorem isRounded_add : IsRounded (x.value + y.value) (x.add y) := by
  unfold Finite.add
  dsimp only
  split
  · next zero =>
    have rounded := isRounded_finite (.zero (x.negative && y.negative))
    rwa [Finite.value, Finite.size_zero, neg_zero, ite_self, ← zero] at rounded
  · exact isRounded_nearest _

theorem isRounded_sub : IsRounded (x.value - y.value) (x.sub y) := by
  have sum := isRounded_add x y.neg
  rwa [Finite.neg_value, ← sub_eq_add_neg] at sum

theorem isRounded_mul : IsRounded (x.value * y.value) (x.mul y) := by
  have signed : x.value * y.value =
      if x.negative != y.negative then -(x.size * y.size) else x.size * y.size := by
    cases left : x.negative <;> cases right : y.negative <;> simp [Finite.value, left, right]
  rw [signed]
  exact isRounded_ofSize _ (mul_nonneg x.size_nonneg y.size_nonneg)

theorem isRounded_div : IsRounded (x.value / y.value) (x.div y) := by
  have signed : x.value / y.value =
      if x.negative != y.negative then -(x.size / y.size) else x.size / y.size := by
    cases left : x.negative <;> cases right : y.negative <;>
      simp [Finite.value, left, right, neg_div, div_neg]
  rw [signed]
  exact isRounded_ofSize _ (div_nonneg x.size_nonneg y.size_nonneg)

protected theorem Finite.add_comm : x.add y = y.add x := by
  rw [Finite.add, Finite.add, Rat.add_comm, Bool.and_comm]

protected theorem Finite.mul_comm : x.mul y = y.mul x := by
  rw [Finite.mul, Finite.mul, Rat.mul_comm, bne_comm]

end Operations

namespace IsRounded

variable {q : Rat} {z : Double} (rounded : IsRounded q z)

include rounded

/-- Past the end of the range there is an infinity. -/
theorem eq_infinite (past : rangeEnd ≤ |q|) : z = .infinite (decide (q < 0)) := by
  obtain ⟨negative, rfl, sign⟩ := rounded
  have nonzero : q ≠ 0 := abs_pos.mp (rangeEnd_pos.trans_le past)
  rw [ofSize_eq_infinite negative past, sign nonzero]

/-- Inside the range there is a finite double. -/
theorem exists_finite (inside : |q| < rangeEnd) : ∃ x, z = .finite x := by
  obtain ⟨negative, rfl, -⟩ := rounded
  exact exists_ofSize_eq_finite negative (abs_nonneg q) inside

/-- The finite doubles of one number are the same but for the sign of zero. -/
theorem same {w : Double} (other : IsRounded q w) {x y : Finite} (first : z = .finite x)
    (second : w = .finite y) : x.same y = true := by
  obtain ⟨negative, rfl, sign⟩ := rounded
  obtain ⟨negative', rfl, sign'⟩ := other
  obtain ⟨rfl, size⟩ := (ofSize_eq_finite_iff (abs_nonneg q)).mp first
  obtain ⟨rfl, size'⟩ := (ofSize_eq_finite_iff (abs_nonneg q)).mp second
  rw [Finite.same, beq_iff_eq, Finite.value, Finite.value, size, size']
  by_cases zero : q = 0
  · simp [zero]
  · rw [sign zero, sign' zero]

/-- The doubles of one number are equal. -/
theorem equal {w : Double} (other : IsRounded q w) : Equal z w := by
  rcases lt_or_ge |q| rangeEnd with inside | past
  · obtain ⟨x, first⟩ := rounded.exists_finite inside
    obtain ⟨y, second⟩ := other.exists_finite inside
    have same := rounded.same other first second
    rw [first, second]
    exact .values same
  · rw [rounded.eq_infinite past, other.eq_infinite past]
    exact .infinite _

end IsRounded

end SignificantFigures.Double
