import SignificantFigures.Proofs.Decade
import SignificantFigures.Proofs.Double.Mantissa

/-!
The mantissa of a double in its decade. It is the one at the leading digit, except that an overshot
double has the mantissa ten.
-/

set_option autoImplicit false

namespace SignificantFigures.Double.Finite

open Rational

/-- Ten, with a sign. -/
def ten (negative : Bool) : Finite :=
  ⟨negative, 5629499534213120, -49, by decide⟩

@[simp]
theorem size_ten (negative : Bool) : (ten negative).size = 10 := by
  simp only [ten, size]
  norm_num

theorem shortest_ten (negative : Bool) : Decimal.shortest (ten negative) = ⟨negative, 1, 1⟩ := by
  cases negative <;> decide +kernel

/-- The text of ten shows a one and zeros. -/
theorem shownUnits_ten (negative : Bool) (places : Nat) :
    (ten negative).shownUnits places = 10 ^ (places + 1) := by
  have exact : (10 : Rat) * (10 : Rat) ^ (places : Int) = ((10 ^ (places + 1) : Nat) : Int) := by
    rw [zpow_natCast]
    push_cast
    ring
  rw [shownUnits, size_ten, exact, halfEven_intCast, Int.toNat_natCast]

variable [PowersOfTen] [PowersOfTen.Close] {x m : Finite}

/-- The shortest decimal of an overshot double is a power of ten, and behind its first digit there
is one place more than the decade says. -/
theorem Overshot.mantissa_eq (overshot : x.Overshot) :
    x.mantissa x.decade = .ok (.finite (ten x.negative)) := by
  have lowest := x.neg_324_le_decade
  have highest := x.decade_le
  have moved : (Decimal.shortest x).shifted (-x.decade) = .ok ⟨x.negative, 1, 1⟩ := by
    have near : ¬ Decimal.shiftLimit < (-x.decade).natAbs := by
      simp only [Decimal.shiftLimit, Decimal.leadingLimit, Decimal.digitLimit]
      omega
    rw [Decimal.shifted, if_neg near, overshot.shortest_eq, overshot.decade_eq]
    simp only [show x.leading + -(x.leading - 1) = 1 by ring]
    cases x.negative <;> decide +kernel
  rw [mantissa, moved]
  cases x.negative <;> decide +kernel

/-- An overshot double is shown as a one with zeros. -/
theorem Overshot.units_eq {place : Int} (overshot : x.Overshot) (inside : place ≤ x.leading) :
    (x.units place : Rat) = (10 : Rat) ^ (x.leading - place) := by
  have size := Decimal.size_eq_units (d := Decimal.shortest x) (overshot.shortest_exponent ▸ inside)
  have power : (Decimal.shortest x).size = (10 : Rat) ^ x.leading := by
    rw [overshot.shortest_eq, Decimal.size, Nat.cast_one, one_mul]
  rw [zpow_sub₀ (by norm_num), ← power, size, mul_div_cancel_right₀ _ (ten_zpow_pos place).ne']
  rfl

theorem exists_mantissa_decade (positive : 0 < x.size) :
    ∃ m : Finite, x.mantissa x.decade = .ok (.finite m) := by
  by_cases overshot : x.Overshot
  · exact ⟨_, overshot.mantissa_eq⟩
  · obtain ⟨m, found, -⟩ := exists_mantissa positive
    exact ⟨m, by rw [decade_eq_leading overshot, found]⟩

section Found

variable (found : x.mantissa x.decade = .ok (.finite m))

include found

theorem eq_ten_of_overshot (overshot : x.Overshot) : m = ten x.negative := by
  rw [overshot.mantissa_eq] at found
  exact (Double.finite.inj (Except.ok.inj found)).symm

variable (positive : 0 < x.size)

include positive

theorem isMantissaOf_of_reached (reached : ¬ x.Overshot) : m.IsMantissaOf x := by
  obtain ⟨m', found', mantissa⟩ := exists_isMantissaOf positive
  rw [decade_eq_leading reached, found'] at found
  obtain rfl := Double.finite.inj (Except.ok.inj found)
  exact mantissa

/-- A mantissa has the sign of the double, and it is not less than one. -/
theorem mantissa_bounds : m.negative = x.negative ∧ 1 ≤ m.size := by
  by_cases overshot : x.Overshot
  · rw [eq_ten_of_overshot found overshot, size_ten]
    exact ⟨rfl, by norm_num⟩
  · have mantissa := isMantissaOf_of_reached found positive overshot
    exact ⟨mantissa.negative, mantissa.one_le⟩

/-- The text of a mantissa is not all zeros. -/
theorem shownUnits_mantissa_ne_zero (places : Nat) : m.shownUnits places ≠ 0 := by
  by_cases overshot : x.Overshot
  · rw [eq_ten_of_overshot found overshot, shownUnits_ten]
    exact (Nat.pow_pos (by decide)).ne'
  · exact (isMantissaOf_of_reached found positive overshot).shownUnits_ne_zero

end Found

end SignificantFigures.Double.Finite
