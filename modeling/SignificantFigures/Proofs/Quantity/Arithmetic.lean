import SignificantFigures.Proofs.Double.Arithmetic
import SignificantFigures.Proofs.Quantity.Error
import SignificantFigures.Proofs.Quantity.Formula

/-!
When arithmetic of quantities has a result. The magnitude is the exact result, rounded to a double;
there is none where a divisor is zero and where the exact result lies past the range of doubles. The
first failure names the dividend, if this can be written. The second has another form for a product
or quotient without a figure, whose last place depends on the magnitude.
-/

set_option autoImplicit false

namespace SignificantFigures.Quantity

open Double (rangeEnd IsRounded)

namespace Operation

/-- The exact result of an operation on two numbers. -/
def unrounded : Operation → Rat → Rat → Rat
  | add, x, y => x + y
  | subtract, x, y => x - y
  | multiply, x, y => x * y
  | divide, x, y => x / y

/-- The double result of an operation on two finite doubles. -/
def result : Operation → Double.Finite → Double.Finite → Double
  | add => Double.Finite.add
  | subtract => Double.Finite.sub
  | multiply => Double.Finite.mul
  | divide => Double.Finite.div

theorem isRounded_result (operation : Operation) (x y : Double.Finite) :
    IsRounded (operation.unrounded x.value y.value) (operation.result x y) := by
  cases operation with
  | add => exact Double.isRounded_add x y
  | subtract => exact Double.isRounded_sub x y
  | multiply => exact Double.isRounded_mul x y
  | divide => exact Double.isRounded_div x y

/-- A quotient by zero. -/
def DividesByZero (operation : Operation) (b : Quantity) : Prop :=
  operation = divide ∧ b.magnitude.value = 0

theorem not_dividesByZero {operation : Operation} (other : operation ≠ divide) (b : Quantity) :
    ¬ operation.DividesByZero b :=
  fun zero => other zero.1

/-- A product or a quotient of which an operand has no significant figure. -/
def LacksFigures [PowersOfTen] (operation : Operation) (a b : Quantity) : Prop :=
  operation.IsProduct ∧ ∃ count < 1, a.precision.lower b.precision = .figures count

end Operation

section Apply

theorem value_eq_zero_iff {x : Double.Finite} : x.isZero = true ↔ x.value = 0 := by
  rw [Double.Finite.isZero_iff, Double.Finite.value]
  cases x.negative <;> simp

variable [PowersOfTen] {operation : Operation} {a b : Quantity}

theorem apply_of_dividesByZero (zero : operation.DividesByZero b) :
    operation.apply a b = .error (Error.divisionByZero a).raised := by
  obtain ⟨rfl, zero⟩ := zero
  exact if_pos (value_eq_zero_iff.mpr zero)

theorem apply_of_isSum (sum : operation.IsSum) : operation.apply a b =
    atPlace (operation.result a.magnitude b.magnitude) (a.lastPlace.coarser b.lastPlace) := by
  rcases sum with rfl | rfl <;> rfl

theorem apply_of_isProduct (product : operation.IsProduct) (nonzero : ¬ operation.DividesByZero b) :
    operation.apply a b =
      atPrecision (operation.result a.magnitude b.magnitude) (a.precision.lower b.precision) := by
  rcases product with rfl | rfl
  · rfl
  · exact if_neg fun zero => nonzero ⟨rfl, value_eq_zero_iff.mp zero⟩

/-- An operation with a finite double result has that magnitude. -/
theorem apply_of_finite (nonzero : ¬ operation.DividesByZero b) {x : Double.Finite}
    (finite : operation.result a.magnitude b.magnitude = .finite x) :
    ∃ r, operation.apply a b = .ok r ∧ r.magnitude = x := by
  rcases operation.isSum_or_isProduct with sum | product
  · rw [apply_of_isSum sum, finite]
    exact ⟨_, rfl, rfl⟩
  · rw [apply_of_isProduct product nonzero, finite]
    exact ⟨_, rfl, rfl⟩

/-- An operation with an infinite double result fails; without a figure it does so where the decade
of the result is asked for. -/
theorem apply_of_infinite (nonzero : ¬ operation.DividesByZero b) {negative : Bool}
    (infinite : operation.result a.magnitude b.magnitude = .infinite negative) :
    (operation.LacksFigures a b → operation.apply a b = .error .tooGreat) ∧
    (¬ operation.LacksFigures a b →
      operation.apply a b = .error (.notFinite (.infinite negative))) := by
  rcases operation.isSum_or_isProduct with sum | product
  · have other : ¬ operation.LacksFigures a b := by
      rintro ⟨product, -⟩
      rcases sum with rfl | rfl <;> rcases product with same | same <;> exact nomatch same
    rw [apply_of_isSum sum, infinite]
    exact ⟨fun lacks => absurd lacks other, fun _ => rfl⟩
  · rw [apply_of_isProduct product nonzero, infinite]
    constructor
    · rintro ⟨-, count, below, lowest⟩
      rw [lowest]
      exact if_neg (not_le.mpr below)
    · intro figures
      cases lowest : a.precision.lower b.precision with
      | exact => rfl
      | figures count =>
        exact if_pos (not_lt.mp fun below => figures ⟨product, count, below, lowest⟩)

end Apply

/-- The ways in which an operation on two quantities ends, each with what decides for it. -/
inductive Ends [PowersOfTen] (operation : Operation) (a b : Quantity) : Except Error Quantity → Prop where
  | divided (zero : operation.DividesByZero b) (writable : a.Writable) :
    Ends operation a b (.error (.divisionByZero a))
  | unwritable (zero : operation.DividesByZero b) (long : ¬ a.Writable) :
    Ends operation a b (.error .unwritable)
  | overflowed (nonzero : ¬ operation.DividesByZero b)
      (past : rangeEnd ≤ |operation.unrounded a.magnitude.value b.magnitude.value|)
      (figures : ¬ operation.LacksFigures a b) :
      Ends operation a b (.error (.notFinite (operation.result a.magnitude b.magnitude)))
  | undecided (nonzero : ¬ operation.DividesByZero b)
      (past : rangeEnd ≤ |operation.unrounded a.magnitude.value b.magnitude.value|)
      (lacks : operation.LacksFigures a b) : Ends operation a b (.error .tooGreat)
  | finished (nonzero : ¬ operation.DividesByZero b)
      (inside : |operation.unrounded a.magnitude.value b.magnitude.value| < rangeEnd) {r : Quantity}
      (finite : operation.result a.magnitude b.magnitude = .finite r.magnitude)
      (nearest : ∃ n, Double.nearest (operation.unrounded a.magnitude.value b.magnitude.value) =
        .finite n ∧ r.magnitude.same n = true) :
      Ends operation a b (.ok r)

theorem ends_apply [PowersOfTen] (operation : Operation) (a b : Quantity) :
    Ends operation a b (operation.apply a b) := by
  have rounded := operation.isRounded_result a.magnitude b.magnitude
  by_cases zero : operation.DividesByZero b
  · rw [apply_of_dividesByZero zero]
    by_cases writable : a.Writable
    · rw [Error.raised_of_writable (Error.writable_divisionByZero_iff.mpr writable)]
      exact .divided zero writable
    · rw [Error.raised_of_not_writable (Error.writable_divisionByZero_iff.not.mpr writable)]
      exact .unwritable zero writable
  rcases lt_or_ge |operation.unrounded a.magnitude.value b.magnitude.value| rangeEnd with inside | past
  · obtain ⟨x, finite⟩ := rounded.exists_finite inside
    obtain ⟨r, applied, rfl⟩ := apply_of_finite zero finite
    have nearest := Double.isRounded_nearest (operation.unrounded a.magnitude.value b.magnitude.value)
    obtain ⟨n, closest⟩ := nearest.exists_finite inside
    rw [applied]
    exact .finished zero inside finite ⟨n, closest, rounded.same nearest finite closest⟩
  · have infinite := rounded.eq_infinite past
    obtain ⟨lost, failed⟩ := apply_of_infinite zero infinite
    by_cases lacks : operation.LacksFigures a b
    · rw [lost lacks]
      exact .undecided zero past lacks
    · rw [failed lacks, ← infinite]
      exact .overflowed zero past lacks

end SignificantFigures.Quantity
