import SignificantFigures.Proofs.Rational.Order
import SignificantFigures.Text.Integer

/-!
An integer has a text just when it lies below the power of ten that has one digit more than the limit.
-/

set_option autoImplicit false

namespace SignificantFigures.Text

variable {n : Int}

/-- Integers with no more digits than the limit. -/
def Writable (n : Int) : Prop :=
  n.natAbs < 10 ^ digitLimit

theorem writable_iff : Writable n ↔ Rational.digitCount n.natAbs ≤ digitLimit :=
  (Rational.digitCount_le_iff (by decide)).symm

theorem ofInteger?_of_writable (writable : Writable n) : ofInteger? n = some (integerText n) :=
  if_pos (writable_iff.mp writable)

theorem ofInteger?_of_not_writable (long : ¬ Writable n) : ofInteger? n = none :=
  if_neg (writable_iff.not.mp long)

theorem ofInteger?_eq_none_iff : ofInteger? n = none ↔ ¬ Writable n := by
  refine ⟨fun none writable => ?_, ofInteger?_of_not_writable⟩
  rw [ofInteger?_of_writable writable] at none
  cases none

theorem not_writable_pow : ¬ Writable (10 ^ digitLimit) := by
  have size (k : Nat) : ((10 : Int) ^ k).natAbs = 10 ^ k := Int.natAbs_pow 10 k
  exact not_lt.mpr (size digitLimit).ge

end SignificantFigures.Text
