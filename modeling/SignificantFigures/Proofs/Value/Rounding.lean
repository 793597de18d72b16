import SignificantFigures.Proofs.Double.Order
import SignificantFigures.Proofs.Quantity.Rounding
import SignificantFigures.Value.Number

/-!
Rounding a double at a place. At any place within the limits of decimal arithmetic it succeeds: the
result is the double nearest to the multiple of the place that is closest to the shortest decimal, a
tie going away from zero. So it keeps the order, it commutes with the sign, and a result that is
rounded again stays.
-/

set_option autoImplicit false

namespace SignificantFigures

open Rational

namespace Decimal

/-- The number of units of a place, with the sign of the decimal. -/
theorem halfAway_value (d : Decimal) (place : Int) :
    halfAway (d.value / (10 : Rat) ^ place) =
      if d.negative then -(d.unitsAt place : Int) else d.unitsAt place := by
  have nonneg : 0 ≤ d.size / (10 : Rat) ^ place := div_nonneg d.size_nonneg (ten_zpow_pos place).le
  have units : halfAway (d.size / (10 : Rat) ^ place) = d.unitsAt place := by
    rw [halfAway_of_nonneg nonneg, unitsAt, Int.toNat_of_nonneg (halfUp_nonneg nonneg)]
  unfold value
  split_ifs
  · rw [neg_div, halfAway_neg, units]
  · exact units

section Shortest

variable {x y : Double.Finite}

theorem shortest_value (x : Double.Finite) :
    (shortest x).value = if x.negative then -(shortest x).size else (shortest x).size := by
  rw [value, shortest_negative]

theorem shortest_value_neg (x : Double.Finite) : (shortest x.neg).value = -(shortest x).value := by
  have size : (shortest x.neg).size = (shortest x).size := shortest_size_congr rfl
  rw [shortest_value, shortest_value, size, Double.Finite.neg]
  cases x.negative <;> simp

private theorem shortest_size_eq_zero (zero : x.size = 0) : (shortest x).size = 0 := by
  rw [shortest_of_size_eq_zero zero, size, Nat.cast_zero, zero_mul]

/-- The shortest decimal keeps the order. -/
theorem shortest_value_mono (ordered : x.value ≤ y.value) :
    (shortest x).value ≤ (shortest y).value := by
  have nonnegX := size_nonneg (shortest x)
  have nonnegY := size_nonneg (shortest y)
  rw [shortest_value, shortest_value]
  rw [Double.Finite.value, Double.Finite.value] at ordered
  split_ifs at ordered ⊢
  · exact neg_le_neg (shortest_size_mono (neg_le_neg_iff.mp ordered))
  · linarith
  · -- only two zeros are in this order
    have zeroX : x.size = 0 := by linarith [x.size_nonneg, y.size_nonneg]
    have zeroY : y.size = 0 := by linarith [x.size_nonneg, y.size_nonneg]
    rw [shortest_size_eq_zero zeroX, shortest_size_eq_zero zeroY, neg_zero]
  · exact shortest_size_mono ordered

end Shortest

end Decimal

namespace Double.Finite

variable {x y v : Finite} {place : Int}

/-- The number of units of a place that is closest to a double as it is written. -/
def closestUnits (x : Finite) (place : Int) : Int :=
  halfAway ((Decimal.shortest x).value / (10 : Rat) ^ place)

theorem closestUnits_mono (ordered : x.value ≤ y.value) :
    x.closestUnits place ≤ y.closestUnits place :=
  halfAway_mono ((div_le_div_iff_of_pos_right (ten_zpow_pos place)).mpr
    (Decimal.shortest_value_mono ordered))

theorem closestUnits_neg (x : Finite) (place : Int) :
    x.neg.closestUnits place = -x.closestUnits place := by
  rw [closestUnits, Decimal.shortest_value_neg, neg_div, halfAway_neg, closestUnits]

/-- The result of rounding is the double nearest to the closest multiple of the place. -/
theorem roundedTo_eq_nearest (x : Finite) (place : Int) :
    x.roundedTo place = nearest ((x.closestUnits place : Rat) * (10 : Rat) ^ place) := by
  have unit := ten_zpow_pos place
  rw [roundedTo_eq, closestUnits, Decimal.halfAway_value, units]
  split_ifs with none negative negative
  · rw [none, Nat.cast_zero, neg_zero, Int.cast_zero, zero_mul, nearest_zero]
  · rw [none, Nat.cast_zero, Int.cast_zero, zero_mul, nearest_zero]
  · have some : (0 : Rat) < (Decimal.shortest x).unitsAt place := by
      exact_mod_cast Nat.pos_of_ne_zero none
    have below : -(((Decimal.shortest x).unitsAt place : Rat) * (10 : Rat) ^ place) < 0 :=
      neg_neg_of_pos (mul_pos some unit)
    rw [Decimal.nearest_eq, Decimal.roundedAt_size, Decimal.roundedAt_negative, negative,
      Int.cast_neg, Int.cast_natCast, neg_mul, nearest_of_neg below, neg_neg]
  · rw [Decimal.nearest_eq, Decimal.roundedAt_size, Decimal.roundedAt_negative,
      Bool.eq_false_iff.mpr negative, Int.cast_natCast, nearest_of_nonneg (by positivity)]

theorem roundedTo_mono (ordered : x.value ≤ y.value) :
    (x.roundedTo place).AtMost (y.roundedTo place) := by
  have units : (x.closestUnits place : Rat) ≤ y.closestUnits place := by
    exact_mod_cast closestUnits_mono ordered
  rw [roundedTo_eq_nearest, roundedTo_eq_nearest]
  exact nearest_mono (mul_le_mul_of_nonneg_right units (ten_zpow_pos place).le)

/-- The opposite is rounded to the opposite, unless the result is zero, which has no sign. -/
theorem roundedTo_neg (x : Finite) (place : Int) :
    x.neg.roundedTo place = (x.roundedTo place).neg ∨
      (x.roundedTo place = .finite (zero false) ∧ x.neg.roundedTo place = .finite (zero false)) := by
  rw [roundedTo_eq_nearest, roundedTo_eq_nearest, closestUnits_neg, Int.cast_neg, neg_mul]
  by_cases none : (x.closestUnits place : Rat) * (10 : Rat) ^ place = 0
  · rw [none, neg_zero, nearest_zero]
    exact Or.inr ⟨rfl, rfl⟩
  · exact Or.inl (nearest_neg none)

theorem eq_zero_of_roundedTo (rounded : x.roundedTo place = .finite v) (zero : v.size = 0) :
    v = .zero false := by
  rcases x.size_nonneg.eq_or_lt with nothing | positive
  · rw [roundedTo_of_size_eq_zero nothing.symm] at rounded
    exact (Double.finite.inj rounded).symm
  · rcases roundedTo_spec positive rounded with ⟨none, -⟩ | ⟨-, nonzero, -⟩
    · exact none
    · exact absurd zero nonzero.ne'

theorem roundedTo_roundedTo (rounded : x.roundedTo place = .finite v) :
    v.roundedTo place = .finite v := by
  rcases v.size_nonneg.eq_or_lt with nothing | nonzero
  · rw [eq_zero_of_roundedTo rounded nothing.symm]
    exact roundedTo_of_size_eq_zero (size_zero false) place
  · have positive : 0 < x.size := by
      refine lt_of_le_of_ne x.size_nonneg fun zero => ?_
      rw [roundedTo_of_size_eq_zero zero.symm] at rounded
      rw [← Double.finite.inj rounded, size_zero] at nonzero
      exact lt_irrefl _ nonzero
    exact roundedTo_of_le_exponent nonzero (le_exponent_of_roundedTo positive rounded nonzero)

end Double.Finite

namespace Value

open Double

theorem roundedAt_double [PowersOfTen] (x : Double.Finite) {place : Int}
    (range : Decimal.checkPlace place = .ok ()) :
    roundedAt (.double (.finite x)) (.integer place) = .ok (x.roundedTo place) := by
  have checked : roundedAt (.double (.finite x)) (.integer place) =
      roundedDecimal place (.finite (Decimal.shortest x)) := by
    change ((Decimal.checkPlace place).mapError Fault.decimal >>= fun _ =>
      roundedDecimal place (.finite (Decimal.shortest x))) = _
    rw [range]
    rfl
  rw [checked, roundedDecimal, Decimal.quantized_workingDigits]
  rfl

/-- Rounding finite doubles at a place within the limits always succeeds. It keeps their order,
rounds the opposite to the opposite up to the sign of zero, and a zero result has no sign. The result
is the double nearest to the multiple of the place closest to the shortest decimal, of two that are
equally close the one farther from zero; if it is finite, no finite double is closer, and rounding it
again gives it back. -/
theorem rounding_at_place [PowersOfTen] (x y : Double.Finite) (place : Int)
    (low : -1000000 ≤ place) (high : place ≤ 999999) :
    ∃ r s opposite : Double,
      roundedAt (.double (.finite x)) (.integer place) = .ok r ∧
      roundedAt (.double (.finite y)) (.integer place) = .ok s ∧
      roundedAt (.double (.finite x.neg)) (.integer place) = .ok opposite ∧
      (x.value ≤ y.value → r.AtMost s) ∧
      (opposite = r.neg ∨ (r = .finite (.zero false) ∧ opposite = .finite (.zero false))) ∧
      (∀ v, r = .finite v → v.size = 0 → v = .zero false) ∧
      ∃ m : Int, IsClosestMultiple (Decimal.shortest x).value ((10 : Rat) ^ place) m ∧
        r = nearest ((m : Rat) * (10 : Rat) ^ place) ∧
        ∀ v, r = .finite v →
          (∀ z : Double.Finite, |v.value - (m : Rat) * (10 : Rat) ^ place| ≤
            |z.value - (m : Rat) * (10 : Rat) ^ place|) ∧
          roundedAt (.double (.finite v)) (.integer place) = .ok r := by
  have range : Decimal.checkPlace place = .ok () := by
    rw [Decimal.checkPlace_eq_ok_iff]
    simp only [Decimal.shiftLimit, Decimal.leadingLimit, Decimal.digitLimit]
    omega
  refine ⟨x.roundedTo place, y.roundedTo place, x.neg.roundedTo place, roundedAt_double x range,
    roundedAt_double y range, roundedAt_double x.neg range, Finite.roundedTo_mono,
    Finite.roundedTo_neg x place, fun v => Finite.eq_zero_of_roundedTo, x.closestUnits place,
    isClosestMultiple_halfAway (ten_zpow_pos place) _, Finite.roundedTo_eq_nearest x place, ?_⟩
  intro v rounded
  constructor
  · rw [Finite.roundedTo_eq_nearest] at rounded
    exact abs_sub_le_of_nearest rounded
  · rw [roundedAt_double v range, rounded, Finite.roundedTo_roundedTo rounded]

/-- The double nearest to 1.005 lies below it, but as it is written it is half way between two
multiples, and so is its opposite. -/
theorem rounding_at_place_tie :
    let x : Double.Finite := ⟨false, 4526117625507348, -52, by decide⟩
    let v : Double.Finite := ⟨false, 4548635623644201, -52, by decide⟩
    x.value < 1005 / 1000 ∧
      roundedAt (.double (.finite x)) (.integer (-2)) = .ok (.finite v) ∧
      roundedAt (.double (.finite x.neg)) (.integer (-2)) = .ok (.finite v.neg) ∧
      roundedAt (.double (.finite v)) (.integer (-2)) = .ok (.finite v) := by
  intro x v
  have value : roundedAt (.double (.finite x)) (.integer (-2)) = .ok (.finite v) := by
    decide +kernel
  obtain ⟨r, s, opposite, first, -, third, -, odd, -, m, -, -, again⟩ :=
    rounding_at_place x x (-2) (by decide) (by decide)
  rw [value] at first
  obtain rfl := Except.ok.inj first
  refine ⟨by decide +kernel, value, ?_, (again v rfl).2⟩
  rcases odd with negated | ⟨zero, -⟩
  · rwa [negated] at third
  · exact absurd zero (by decide)

end Value

end SignificantFigures
