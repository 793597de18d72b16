import SignificantFigures.Proofs.Quantity.Equality
import SignificantFigures.Quantity.Construction

/-!
The laws that arithmetic of quantities keeps. The operands of a sum or a product may change places,
and an exact one or zero on the right changes nothing: it bounds neither the figures nor the last
place, and the precision that is carried through a product leads back to the last place.
-/

set_option autoImplicit false

namespace SignificantFigures

theorem LastPlace.coarser_exact (place : LastPlace) : place.coarser .exact = place := by
  cases place <;> rfl

theorem Precision.lower_exact (precision : Precision) : precision.lower .exact = precision := by
  cases precision <;> rfl

namespace Quantity

variable {x e : Quantity}

protected theorem add_comm (x y : Quantity) : x.add y = y.add x := by
  rw [add, add, Double.Finite.add_comm, LastPlace.coarser_comm]

variable [PowersOfTen]

theorem multiply_comm (x y : Quantity) : x.multiply y = y.multiply x := by
  rw [multiply, multiply, Double.Finite.mul_comm, Precision.lower_comm]

/-- An exact operand on the right that leaves the number as it is leaves the quantity as it is. -/
theorem apply_neutral (operation : Operation) (exact : e.lastPlace = .exact)
    (divisor : ¬ operation.DividesByZero e)
    (kept : operation.unrounded x.magnitude.value e.magnitude.value = x.magnitude.value) :
    ∃ r, operation.apply x e = .ok r ∧ r.same x = true := by
  have rounded := operation.isRounded_result x.magnitude e.magnitude
  rw [kept] at rounded
  have equal := rounded.equal (Double.isRounded_finite x.magnitude)
  have alike : EndsAlike (operation.apply x e) (.ok x) := by
    rcases operation.isSum_or_isProduct with sum | product
    · rw [apply_of_isSum sum, exact, LastPlace.coarser_exact]
      exact atPlace_alike equal x.lastPlace
    · have again : atPrecision (.finite x.magnitude) x.precision = .ok x :=
        congrArg Except.ok (ofPrecision_precision x)
      rw [apply_of_isProduct product divisor, precision_eq_exact.mpr exact, Precision.lower_exact,
        ← again]
      exact atPrecision_alike equal x.precision
  generalize operation.apply x e = applied at alike
  cases alike with
  | ok same => exact ⟨_, rfl, same⟩

/-- Sums and products do not depend on the order of their operands, in their results and in their
errors. With an exact one a product and a quotient have a result that is equal to the other operand,
and with an exact zero a sum and a difference have, whatever that operand is significant to. -/
theorem arithmetic_laws :
    (∀ x y : Quantity, x.add y = y.add x ∧ x.multiply y = y.multiply x) ∧
    ∃ one zero : Quantity,
      buildExact (.double (Double.nearest 1)) = .ok one ∧
      buildExact (.double (Double.nearest 0)) = .ok zero ∧
      ∀ x : Quantity,
        (∃ r, x.multiply one = .ok r ∧ r.same x = true) ∧
        (∃ r, x.divide one = .ok r ∧ r.same x = true) ∧
        (∃ r, x.add zero = .ok r ∧ r.same x = true) ∧
        ∃ r, x.subtract zero = .ok r ∧ r.same x = true := by
  let one : Double.Finite := ⟨false, 4503599627370496, -52, by decide⟩
  have nearest_one : Double.nearest 1 = .finite one := by decide +kernel
  have value_one : one.value = 1 := by decide +kernel
  have value_zero : (Double.Finite.zero false).value = 0 := Double.Finite.value_of_isZero rfl
  refine ⟨fun x y => ⟨Quantity.add_comm x y, multiply_comm x y⟩, ofExact one, ofExact (.zero false),
    ?_, ?_, fun x => ⟨?_, ?_, ?_, ?_⟩⟩
  · rw [nearest_one]
    rfl
  · rw [Double.nearest_zero]
    rfl
  · have kept : x.magnitude.value * one.value = x.magnitude.value := by
      rw [value_one, mul_one]
    exact apply_neutral .multiply rfl (Operation.not_dividesByZero (by decide) _) kept
  · have kept : x.magnitude.value / one.value = x.magnitude.value := by
      rw [value_one, div_one]
    have divisor : ¬ Operation.divide.DividesByZero (ofExact one) := by
      rintro ⟨-, zero⟩
      exact one_ne_zero (value_one.symm.trans zero)
    exact apply_neutral .divide rfl divisor kept
  · have kept : x.magnitude.value + (Double.Finite.zero false).value = x.magnitude.value := by
      rw [value_zero, add_zero]
    exact apply_neutral .add rfl (Operation.not_dividesByZero (by decide) _) kept
  · have kept : x.magnitude.value - (Double.Finite.zero false).value = x.magnitude.value := by
      rw [value_zero, sub_zero]
    exact apply_neutral .subtract rfl (Operation.not_dividesByZero (by decide) _) kept

end Quantity

end SignificantFigures
