import SignificantFigures.Proofs.Decimal.Shortest

/-!
The place of the leading digit of a double, as its shortest decimal shows it. The power of ten there
may lie above the double, but only a little.
-/

set_option autoImplicit false

namespace SignificantFigures.Double.Finite

open Rational

variable {x : Finite}

/-- The exponent of the leading digit of the shortest decimal. -/
def leading (x : Finite) : Int :=
  (Decimal.shortest x).leading

theorem leading_of_size_eq_zero (zero : x.size = 0) : x.leading = 0 := by
  rw [leading, Decimal.shortest_of_size_eq_zero zero]
  simp [Decimal.leading, digitCount]

theorem exponent_le_leading (x : Finite) : (Decimal.shortest x).exponent ≤ x.leading := by
  have := digitCount_pos (Decimal.shortest x).coefficient
  rw [leading, Decimal.leading]
  omega

section Positive

variable (positive : 0 < x.size)

include positive

theorem leading_eq_decimalOrder : x.leading = decimalOrder (Decimal.shortest x).size :=
  Decimal.leading_eq_decimalOrder (Decimal.shortest_coefficient_ne_zero positive)

theorem ten_zpow_leading_le : (10 : Rat) ^ x.leading ≤ (Decimal.shortest x).size := by
  have nonzero := Decimal.shortest_coefficient_ne_zero positive
  rw [ten_zpow_le_iff (Decimal.size_pos_iff.mpr nonzero), leading_eq_decimalOrder positive]

theorem lt_ten_zpow_leading : (Decimal.shortest x).size < (10 : Rat) ^ (x.leading + 1) := by
  have nonzero := Decimal.shortest_coefficient_ne_zero positive
  rw [lt_ten_zpow_iff (Decimal.size_pos_iff.mpr nonzero), leading_eq_decimalOrder positive]
  omega

/-- No shortest decimal reaches the first power of ten past the range. -/
private theorem leading_le_of_pos : x.leading ≤ 308 := by
  have held : Representable sizeLimit := representable_two_zpow (by norm_num)
  by_contra past
  have reached : (10 : Rat) ^ (309 : Int) ≤ (Decimal.shortest x).size :=
    (ten_zpow_le_iff_le.mpr (by omega)).trans (ten_zpow_leading_le positive)
  have rounded := roundedSize_mono held.nonneg (sizeLimit_lt_ten_zpow.le.trans reached)
  rw [roundedSize_eq_self held, Decimal.reads_shortest positive] at rounded
  exact absurd x.size_lt_sizeLimit (not_lt.mpr rounded)

/-- A double lies less than a twentieth below the power of ten of its leading digit. -/
theorem leading_close : 19 * (10 : Rat) ^ x.leading < 20 * x.size := by
  have unit := ten_zpow_pos x.leading
  rcases le_or_gt ((10 : Rat) ^ x.leading) x.size with reached | below
  · linarith
  · have power := x.reads_size.between (Decimal.reads_shortest positive) x.size_nonneg below.le
      (ten_zpow_leading_le positive)
    exact power.power_close positive below.le

/-- The double nearest to a power of ten lies above a double just when the power lies above its
shortest decimal: if the two doubles were the same, the power itself would be a decimal as short. -/
theorem roundedSize_ten_zpow_le_iff {k : Int} :
    roundedSize ((10 : Rat) ^ k) ≤ x.size ↔ k ≤ x.leading := by
  have sizePos := Decimal.size_pos_iff.mpr (Decimal.shortest_coefficient_ne_zero positive)
  constructor
  · intro reached
    by_contra above
    rw [leading_eq_decimalOrder positive, ← ten_zpow_le_iff sizePos] at above
    have rounded := roundedSize_mono sizePos.le (not_le.mp above).le
    rw [Decimal.reads_shortest positive] at rounded
    have unit : x.Reads (((1 : Nat) : Rat) * (10 : Rat) ^ k) := by
      rw [Nat.cast_one, one_mul]
      exact le_antisymm reached rounded
    have ends := Decimal.le_shortest_exponent positive unit
    have := exponent_le_leading x
    rw [ten_zpow_le_iff sizePos, ← leading_eq_decimalOrder positive] at above
    omega
  · intro below
    rw [← Decimal.reads_shortest positive]
    exact roundedSize_mono (ten_zpow_pos k).le
      ((ten_zpow_le_iff_le.mpr below).trans (ten_zpow_leading_le positive))

/-- The place of the leading digit grows with the size. -/
theorem leading_mono {y : Finite} (ordered : x.size ≤ y.size) : x.leading ≤ y.leading := by
  rw [← roundedSize_ten_zpow_le_iff (positive.trans_le ordered)]
  exact ((roundedSize_ten_zpow_le_iff positive).mpr le_rfl).trans ordered

end Positive

theorem leading_le (x : Finite) : x.leading ≤ 308 := by
  rcases x.size_nonneg.eq_or_lt with zero | positive
  · rw [leading_of_size_eq_zero zero.symm]
    norm_num
  · exact leading_le_of_pos positive

theorem neg_324_le_leading (x : Finite) : -324 ≤ x.leading := by
  rcases x.size_nonneg.eq_or_lt with zero | positive
  · rw [leading_of_size_eq_zero zero.symm]
    norm_num
  · exact (Decimal.neg_324_le_shortest_exponent positive).trans (exponent_le_leading x)

end SignificantFigures.Double.Finite
