import SignificantFigures.Decimal.Nearest
import SignificantFigures.Proofs.Double.Nearest

/-!
The size of a decimal lies in the decade of its leading digit, and the nearest double is the one
nearest to that size: the shortcuts for far exponents change nothing.
-/

set_option autoImplicit false

namespace SignificantFigures

open Rational

theorem ten_zpow_pos (k : Int) : (0 : Rat) < (10 : Rat) ^ k :=
  zpow_pos (by norm_num) k

theorem ten_zpow_add (j k : Int) : (10 : Rat) ^ (j + k) = (10 : Rat) ^ j * (10 : Rat) ^ k :=
  zpow_add₀ (by norm_num) j k

theorem ten_zpow_le_iff_le {j k : Int} : (10 : Rat) ^ j ≤ (10 : Rat) ^ k ↔ j ≤ k :=
  zpow_le_zpow_iff_right₀ (by norm_num)

theorem ten_zpow_lt_iff_lt {j k : Int} : (10 : Rat) ^ j < (10 : Rat) ^ k ↔ j < k :=
  zpow_lt_zpow_iff_right₀ (by norm_num)

/-- A power of ten with a natural exponent is at least the power of two with three times it. -/
private theorem two_zpow_le_ten_pow (k : Nat) : (2 : Rat) ^ (3 * k : Int) ≤ (10 : Rat) ^ (k : Int) := by
  rw [zpow_mul, zpow_natCast, zpow_natCast]
  exact pow_le_pow_left₀ (by norm_num) (by norm_num) k

namespace Decimal

theorem size_nonneg (d : Decimal) : 0 ≤ d.size := by
  have := ten_zpow_pos d.exponent
  unfold size
  positivity

theorem size_eq_zero_iff {d : Decimal} : d.size = 0 ↔ d.coefficient = 0 := by
  have := ten_zpow_pos d.exponent
  simp [size, this.ne']

theorem size_pos_iff {d : Decimal} : 0 < d.size ↔ d.coefficient ≠ 0 := by
  rw [d.size_nonneg.lt_iff_ne', ne_eq, size_eq_zero_iff]

/-- The leading digit of a nonzero decimal stands at the order of its size. -/
theorem leading_eq_decimalOrder {d : Decimal} (nonzero : d.coefficient ≠ 0) :
    d.leading = decimalOrder d.size := by
  have positive := size_pos_iff.mpr nonzero
  have unit := ten_zpow_pos d.exponent
  have count := digitCount_pos d.coefficient
  have low : (10 : Rat) ^ d.leading ≤ d.size := by
    have digits : (10 : Rat) ^ (digitCount d.coefficient - 1) ≤ d.coefficient := by
      exact_mod_cast pow_digitCount_pred_le nonzero
    have split : d.leading = ((digitCount d.coefficient - 1 : Nat) : Int) + d.exponent := by
      unfold leading
      omega
    rw [split, ten_zpow_add, zpow_natCast, size]
    gcongr
  have high : d.size < (10 : Rat) ^ (d.leading + 1) := by
    have digits : (d.coefficient : Rat) < (10 : Rat) ^ digitCount d.coefficient := by
      exact_mod_cast lt_pow_digitCount d.coefficient
    have split : d.leading + 1 = (digitCount d.coefficient : Int) + d.exponent := by
      unfold leading
      omega
    rw [split, ten_zpow_add, zpow_natCast, size]
    gcongr
  rw [ten_zpow_le_iff positive] at low
  rw [lt_ten_zpow_iff positive] at high
  omega

/-- Sizes below every double round to zero. -/
theorem roundedSize_eq_zero {q : Rat} (nonneg : 0 ≤ q) (small : q < (2 : Rat) ^ (-1075 : Int)) :
    Double.roundedSize q = 0 := by
  by_contra nonzero
  have positive : 0 < Double.roundedSize q :=
    lt_of_le_of_ne (Double.roundedSize_nonneg nonneg) (Ne.symm nonzero)
  have least := (Double.representable_roundedSize nonneg).least_le positive
  have double := Double.roundedSize_le_two_mul nonneg
  rw [show (-1074 : Int) = 1 + -1075 by norm_num, Double.two_zpow_add, zpow_one] at least
  linarith

section Clamps

variable {d : Decimal}

private theorem roundedSize_eq_zero_of_leading (nonzero : d.coefficient ≠ 0)
    (low : d.leading < -400) : Double.roundedSize d.size = 0 := by
  have order := leading_eq_decimalOrder nonzero
  have small : d.size < (10 : Rat) ^ (-400 : Int) := by
    rw [lt_ten_zpow_iff (size_pos_iff.mpr nonzero)]
    omega
  have power := two_zpow_le_ten_pow 400
  apply roundedSize_eq_zero d.size_nonneg
  refine small.trans_le ?_
  rw [zpow_neg]
  calc ((10 : Rat) ^ (400 : Int))⁻¹ ≤ ((2 : Rat) ^ (1200 : Int))⁻¹ :=
        inv_anti₀ (Double.two_zpow_pos _) power
    _ ≤ (2 : Rat) ^ (-1075 : Int) := by
        rw [← zpow_neg]
        exact Double.two_zpow_le (by norm_num)

private theorem sizeLimit_le_of_leading (nonzero : d.coefficient ≠ 0) (high : 400 < d.leading) :
    Double.sizeLimit ≤ Double.roundedSize d.size := by
  have order := leading_eq_decimalOrder nonzero
  have large : (10 : Rat) ^ (400 : Int) ≤ d.size := by
    rw [ten_zpow_le_iff (size_pos_iff.mpr nonzero)]
    omega
  have limit : Double.sizeLimit ≤ d.size :=
    calc Double.sizeLimit ≤ (2 : Rat) ^ (1200 : Int) := Double.two_zpow_le (by norm_num)
      _ ≤ (10 : Rat) ^ (400 : Int) := two_zpow_le_ten_pow 400
      _ ≤ d.size := large
  have held : Double.Representable Double.sizeLimit :=
    Double.representable_two_zpow (by norm_num)
  rw [← Double.roundedSize_eq_self held]
  exact Double.roundedSize_mono held.nonneg limit

end Clamps

/-- The nearest double to a decimal is the nearest one to its size, with its sign. -/
theorem nearest_eq (d : Decimal) : d.nearest = Double.ofSize d.negative d.size := by
  unfold nearest
  split_ifs with low high
  · -- nothing, or less than every double
    symm
    rw [Double.ofSize_eq_finite_iff d.size_nonneg, Double.Finite.size_zero]
    refine ⟨rfl, Eq.symm ?_⟩
    by_cases nothing : d.coefficient = 0
    · rw [size_eq_zero_iff.mpr nothing, Double.roundedSize_zero]
    · exact roundedSize_eq_zero_of_leading nothing (low.resolve_left nothing)
  · symm
    rw [Double.ofSize_eq_infinite_iff d.size_nonneg]
    exact ⟨rfl, sizeLimit_le_of_leading (fun nothing => low (Or.inl nothing)) high⟩
  · rfl

theorem nearest_eq_finite_iff {d : Decimal} {x : Double.Finite} :
    d.nearest = .finite x ↔ x.negative = d.negative ∧ x.size = Double.roundedSize d.size := by
  rw [nearest_eq, Double.ofSize_eq_finite_iff d.size_nonneg]

end Decimal

end SignificantFigures
