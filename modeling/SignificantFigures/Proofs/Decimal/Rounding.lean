import SignificantFigures.Decimal.Rounding
import SignificantFigures.Proofs.Decimal.Nearest

/-!
Rounding a decimal at a place gives the number of units of that place closest to its size. It leaves
a decimal that ends at the place or before it as it is, and it does not cross a power of ten.
-/

set_option autoImplicit false

namespace SignificantFigures.Decimal

open Rational

/-- The number of units of a place that a decimal is rounded to. -/
def unitsAt (d : Decimal) (place : Int) : Nat :=
  (halfUp (d.size / (10 : Rat) ^ place)).toNat

private theorem coarsened_eq (coefficient step : Nat) :
    coarsened coefficient step = (halfUp ((coefficient : Rat) / (10 : Rat) ^ step)).toNat := by
  have power : ((Nat.pow 10 step : Nat) : Rat) = (10 : Rat) ^ step := by simp
  unfold coarsened
  rw [power]
  split
  · next short =>
    have bound : coefficient * 10 ≤ 10 ^ step := by
      have digits := lt_pow_digitCount coefficient
      calc coefficient * 10 ≤ 10 ^ digitCount coefficient * 10 := by gcongr
        _ = 10 ^ (digitCount coefficient + 1) := (Nat.pow_succ ..).symm
        _ ≤ 10 ^ step := Nat.pow_le_pow_right (by decide) short
    have bound' : (coefficient : Rat) * 10 ≤ (10 : Rat) ^ step := by exact_mod_cast bound
    have small : (coefficient : Rat) / (10 : Rat) ^ step ≤ 1 / 10 := by
      rw [div_le_div_iff₀ (by positivity) (by norm_num)]
      linarith
    have nonneg : 0 ≤ (coefficient : Rat) / (10 : Rat) ^ step := by positivity
    rw [halfUp_eq_of_abs_lt (n := 0)]
    · rfl
    · rw [Int.cast_zero, sub_zero, abs_of_nonneg nonneg]
      linarith
  · rfl

variable (d : Decimal) (place : Int)

theorem roundedAt_of_le {d : Decimal} {place : Int} (h : place ≤ d.exponent) :
    d.roundedAt place = d :=
  if_pos h

@[simp] theorem roundedAt_negative : (d.roundedAt place).negative = d.negative := by
  unfold roundedAt
  split_ifs <;> rfl

theorem roundedAt_size :
    (d.roundedAt place).size = (d.unitsAt place : Rat) * (10 : Rat) ^ place := by
  unfold roundedAt unitsAt
  split_ifs with coarse
  · -- the decimal is a whole number of units already
    obtain ⟨step, hstep⟩ := Int.eq_ofNat_of_zero_le (sub_nonneg.mpr coarse)
    have whole : d.size / (10 : Rat) ^ place = ((d.coefficient * 10 ^ step : Nat) : Int) := by
      rw [size, show d.exponent = step + place by omega, ten_zpow_add, zpow_natCast, ← mul_assoc,
        mul_div_cancel_right₀ _ (ten_zpow_pos place).ne']
      push_cast
      ring
    rw [whole, halfUp_intCast, Int.toNat_natCast, ← Int.cast_natCast (R := Rat), ← whole,
      div_mul_cancel₀ _ (ten_zpow_pos place).ne']
  · obtain ⟨step, hstep⟩ := Int.eq_ofNat_of_zero_le (sub_nonneg.mpr (not_le.mp coarse).le)
    have quotient : d.size / (10 : Rat) ^ place = (d.coefficient : Rat) / (10 : Rat) ^ step := by
      rw [size, show place = step + d.exponent by omega, ten_zpow_add, zpow_natCast,
        mul_div_mul_right _ _ (ten_zpow_pos d.exponent).ne']
    rw [size, hstep, Int.toNat_natCast, coarsened_eq, quotient]

/-- A decimal that ends at a place or before it is a whole number of its units. -/
theorem size_eq_units {d : Decimal} {place : Int} (h : place ≤ d.exponent) :
    d.size = (d.unitsAt place : Rat) * (10 : Rat) ^ place := by
  rw [← roundedAt_size, roundedAt_of_le h]

theorem roundedAt_coefficient_eq_zero_iff :
    (d.roundedAt place).coefficient = 0 ↔ d.unitsAt place = 0 := by
  rw [← size_eq_zero_iff, roundedAt_size, mul_eq_zero, or_iff_left (ten_zpow_pos place).ne',
    Nat.cast_eq_zero]

private theorem halfUp_ten_zpow {j : Int} (h : place ≤ j) :
    (((halfUp ((10 : Rat) ^ j / (10 : Rat) ^ place)).toNat : Nat) : Rat) * (10 : Rat) ^ place =
      (10 : Rat) ^ j := by
  obtain ⟨step, hstep⟩ := Int.eq_ofNat_of_zero_le (sub_nonneg.mpr h)
  have whole : (10 : Rat) ^ j / (10 : Rat) ^ place = ((10 ^ step : Nat) : Int) := by
    rw [show j = step + place by omega, ten_zpow_add, zpow_natCast,
      mul_div_cancel_right₀ _ (ten_zpow_pos place).ne']
    push_cast
    rfl
  rw [whole, halfUp_intCast, Int.toNat_natCast, ← Int.cast_natCast (R := Rat), ← whole,
    div_mul_cancel₀ _ (ten_zpow_pos place).ne']

variable {d place}

/-- A power of ten below a decimal stays below it where it is a multiple of the unit. -/
theorem ten_zpow_le_units {j : Int} (h : place ≤ j) (low : (10 : Rat) ^ j ≤ d.size) :
    (10 : Rat) ^ j ≤ (d.unitsAt place : Rat) * (10 : Rat) ^ place := by
  have unit := ten_zpow_pos place
  rw [← halfUp_ten_zpow place h]
  unfold unitsAt
  have := Int.toNat_le_toNat (halfUp_mono ((div_le_div_iff_of_pos_right unit).mpr low))
  gcongr

theorem units_le_ten_zpow {j : Int} (h : place ≤ j) (high : d.size ≤ (10 : Rat) ^ j) :
    (d.unitsAt place : Rat) * (10 : Rat) ^ place ≤ (10 : Rat) ^ j := by
  have unit := ten_zpow_pos place
  rw [← halfUp_ten_zpow place h]
  unfold unitsAt
  have := Int.toNat_le_toNat (halfUp_mono ((div_le_div_iff_of_pos_right unit).mpr high))
  gcongr

/-- A rounded decimal reaches at most the place above the leading digit, or its own place. -/
private theorem roundedAt_leading_le (nonzero : (d.roundedAt place).coefficient ≠ 0) :
    (d.roundedAt place).leading ≤ max place (d.leading + 1) := by
  have filled : d.coefficient ≠ 0 := by
    intro zero
    rw [ne_eq, roundedAt_coefficient_eq_zero_iff, unitsAt, size_eq_zero_iff.mpr zero, zero_div] at nonzero
    exact nonzero (congrArg Int.toNat (halfUp_intCast 0))
  have below : d.size ≤ (10 : Rat) ^ (d.leading + 1) := by
    refine le_of_lt ?_
    rw [lt_ten_zpow_iff (size_pos_iff.mpr filled), ← leading_eq_decimalOrder filled]
    omega
  have bound : (d.roundedAt place).size ≤ (10 : Rat) ^ max place (d.leading + 1) := by
    rw [roundedAt_size]
    exact units_le_ten_zpow (le_max_left ..)
      (below.trans (ten_zpow_le_iff_le.mpr (le_max_right ..)))
  have inside : (d.roundedAt place).size < (10 : Rat) ^ (max place (d.leading + 1) + 1) :=
    bound.trans_lt (ten_zpow_lt_iff_lt.mpr (by omega))
  rw [lt_ten_zpow_iff (size_pos_iff.mpr nonzero), ← leading_eq_decimalOrder nonzero] at inside
  omega

/-- The digits that are set for rounding at a place are always enough. -/
theorem quantized_workingDigits (d : Decimal) (place : Int) :
    d.quantized place (d.workingDigits place) = .ok (d.roundedAt place) := by
  unfold quantized
  refine if_neg ?_
  rintro ⟨nonzero, lacking⟩
  have reached := roundedAt_leading_le nonzero
  unfold workingDigits digitLimit at lacking
  omega

end SignificantFigures.Decimal
