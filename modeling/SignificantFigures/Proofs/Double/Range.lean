import SignificantFigures.Proofs.Double.Figures

/-!
The end of the range of doubles. A size is read as a finite double up to half way between the
greatest one and the power of two that follows. The texts of a finite double stay below: one with a
fixed number of places is at most half a unit too great, and so is the mantissa in front of an
exponent.
-/

set_option autoImplicit false

namespace SignificantFigures.Double

open Rational

/-- Half the distance of the greatest doubles. -/
def halfStep : Rat := (2 : Rat) ^ (970 : Int)

/-- The size half way between the greatest finite double and the power of two that follows. -/
def rangeEnd : Rat := sizeLimit - halfStep

theorem halfStep_pos : 0 < halfStep :=
  two_zpow_pos 970

theorem sizeLimit_eq : sizeLimit = 18014398509481984 * halfStep := by
  rw [sizeLimit, halfStep, show (1024 : Int) = 54 + 970 by norm_num, two_zpow_add]
  norm_num

private theorem representable_sizeLimit : Representable sizeLimit :=
  representable_two_zpow (by norm_num)

/-- The greatest size of a finite double. -/
private theorem representable_greatest : Representable (sizeLimit - 2 * halfStep) := by
  refine ⟨9007199254740991, 971, by norm_num, by norm_num, ?_⟩
  rw [sizeLimit_eq, show (971 : Int) = 1 + 970 by norm_num, two_zpow_add, zpow_one]
  show _ = _ * (2 * halfStep)
  push_cast
  ring

theorem Finite.size_le_greatest (x : Finite) : x.size ≤ sizeLimit - 2 * halfStep := by
  have gap := (representable_size x).gap representable_sizeLimit x.size_lt_sizeLimit
  have step := sizeLimit_eq
  linarith

theorem rangeEnd_eq : rangeEnd = 18014398509481983 * halfStep := by
  rw [rangeEnd, sizeLimit_eq]
  ring

theorem ten_zpow_308_lt_rangeEnd : (10 : Rat) ^ (308 : Int) < rangeEnd := by
  have step := halfStep_pos
  have power := Finite.ten_zpow_308_le
  rw [show (1022 : Int) = 52 + 970 by norm_num, two_zpow_add, two_zpow_52] at power
  rw [rangeEnd_eq]
  exact power.trans_lt (by rw [← mul_assoc]; exact mul_lt_mul_of_pos_right (by norm_num) step)

theorem roundedSize_lt_sizeLimit {q : Rat} (nonneg : 0 ≤ q) (inside : q < rangeEnd) :
    roundedSize q < sizeLimit := by
  have step := halfStep_pos
  by_contra reached
  rw [not_lt] at reached
  have half := representable_greatest.add_le_two_mul nonneg (by linarith)
  unfold rangeEnd at inside
  linarith

theorem rangeEnd_pos : 0 < rangeEnd :=
  (ten_zpow_pos 308).trans ten_zpow_308_lt_rangeEnd

/-- The end of the range is a tie, which goes to the even significand past it. -/
private theorem roundedSize_rangeEnd : roundedSize rangeEnd = sizeLimit := by
  decide +kernel

theorem roundedSize_lt_sizeLimit_iff {q : Rat} (nonneg : 0 ≤ q) :
    roundedSize q < sizeLimit ↔ q < rangeEnd := by
  refine ⟨fun inside => ?_, roundedSize_lt_sizeLimit nonneg⟩
  by_contra past
  have reached := roundedSize_mono rangeEnd_pos.le (not_lt.mp past)
  rw [roundedSize_rangeEnd] at reached
  exact absurd inside (not_lt.mpr reached)

/-- Inside the range a size is read as a finite double. -/
theorem exists_ofSize_eq_finite (negative : Bool) {q : Rat} (nonneg : 0 ≤ q) (inside : q < rangeEnd) :
    ∃ x, ofSize negative q = .finite x := by
  rcases ofSize_spec negative nonneg with ⟨x, found, -⟩ | ⟨-, limit⟩
  · exact ⟨x, found⟩
  · exact absurd (roundedSize_lt_sizeLimit nonneg inside) (not_lt.mpr limit)

/-- From the end of the range on a size is read as infinite. -/
theorem ofSize_eq_infinite (negative : Bool) {q : Rat} (past : rangeEnd ≤ q) :
    ofSize negative q = .infinite negative := by
  have nonneg := rangeEnd_pos.le.trans past
  rw [ofSize_eq_infinite_iff nonneg, ← not_lt, roundedSize_lt_sizeLimit_iff nonneg, not_lt]
  exact ⟨rfl, past⟩

/-- A size past the end of the range is read as no finite double. -/
theorem Finite.Reads.le_rangeEnd {x : Finite} {q : Rat} (reads : x.Reads q) (nonneg : 0 ≤ q) :
    q ≤ rangeEnd := by
  have half := representable_sizeLimit.two_mul_le_add nonneg (reads.trans_lt x.size_lt_sizeLimit)
  have greatest := x.size_le_greatest
  rw [reads] at half
  unfold rangeEnd
  linarith

namespace Finite

variable {x : Finite}

/-- The size that a text with a fixed number of places shows is in the range. -/
theorem shownUnits_lt_rangeEnd (x : Finite) (places : Nat) :
    (x.shownUnits places : Rat) * (10 : Rat) ^ (-(places : Int)) < rangeEnd := by
  have small : (10 : Rat) ^ (-(places : Int)) ≤ (10 : Rat) ^ (0 : Int) :=
    ten_zpow_le_iff_le.mpr (by omega)
  have near := x.shownUnits_mul_le places
  have greatest := x.size_le_greatest
  have one : 1 ≤ halfStep := one_le_zpow₀ (by norm_num) (by norm_num)
  unfold rangeEnd
  rw [zpow_zero] at small
  linarith

section Rounding

variable {place : Int} (positive : 0 < x.size)

include positive

/-- Past the 308th place every double is rounded to nothing. -/
private theorem units_eq_zero (above : 308 < place) : x.units place = 0 := by
  have unit := ten_zpow_pos place
  have limit := (Decimal.reads_shortest positive).le_rangeEnd (Decimal.size_nonneg _)
  have step := halfStep_pos
  have power : (10 : Rat) ^ (309 : Int) ≤ (10 : Rat) ^ place := ten_zpow_le_iff_le.mpr (by omega)
  have small : 2 * (Decimal.shortest x).size < (10 : Rat) ^ place := by
    unfold rangeEnd at limit
    linarith [two_mul_sizeLimit_lt_ten_zpow]
  have nothing : halfUp ((Decimal.shortest x).size / (10 : Rat) ^ place) = 0 := by
    apply halfUp_eq_of_abs_lt
    rw [Int.cast_zero, sub_zero, abs_of_nonneg (div_nonneg (Decimal.size_nonneg _) unit.le),
      div_lt_div_iff₀ unit two_pos]
    linarith
  rw [units, Decimal.unitsAt, nothing]
  rfl

/-- A place takes a double out of the range with units that reach the end of it. -/
private theorem rangeEnd_le_units (infinite : (x.roundedTo place).isFinite = false) :
    place ≤ 308 ∧ rangeEnd ≤ (x.units place : Rat) * (10 : Rat) ^ place := by
  rw [roundedTo_eq] at infinite
  have nonzero : x.units place ≠ 0 := by
    intro nothing
    rw [if_pos nothing] at infinite
    exact nomatch infinite
  rw [if_neg nonzero, Decimal.nearest_eq] at infinite
  rcases ofSize_spec ((Decimal.shortest x).roundedAt place).negative (Decimal.size_nonneg _) with
    ⟨y, found, -⟩ | ⟨-, limit⟩
  · rw [found] at infinite
    exact nomatch infinite
  · refine ⟨?_, ?_⟩
    · by_contra above
      exact nonzero (units_eq_zero positive (not_le.mp above))
    · by_contra inside
      rw [units, ← Decimal.roundedAt_size, not_le] at inside
      exact absurd limit (not_le.mpr (roundedSize_lt_sizeLimit (Decimal.size_nonneg _) inside))

/-- Units of a place up to a power of ten in the range do not take a double out of it. -/
private theorem lt_of_units_le {k : Int} (infinite : (x.roundedTo place).isFinite = false)
    (power : (x.units place : Rat) * (10 : Rat) ^ place ≤ (10 : Rat) ^ k) : 308 < k := by
  by_contra inside
  have reached := (rangeEnd_le_units positive infinite).2.trans power
  have least : (10 : Rat) ^ k ≤ (10 : Rat) ^ (308 : Int) :=
    ten_zpow_le_iff_le.mpr (not_lt.mp inside)
  exact absurd (reached.trans least) (not_le.mpr ten_zpow_308_lt_rangeEnd)

/-- Only a place within the figures of a double can take it out of the range. -/
theorem le_leading_of_roundedTo_not_finite (infinite : (x.roundedTo place).isFinite = false) :
    place ≤ x.leading := by
  by_contra outside
  rw [not_le] at outside
  have power : (10 : Rat) ^ (x.leading + 1) ≤ (10 : Rat) ^ place := ten_zpow_le_iff_le.mpr outside
  have units_le : (x.units place : Rat) * (10 : Rat) ^ place ≤ (10 : Rat) ^ place :=
    Decimal.units_le_ten_zpow le_rfl ((lt_ten_zpow_leading positive).le.trans power)
  have above := lt_of_units_le positive infinite units_le
  have inside := (rangeEnd_le_units positive infinite).1
  omega

/-- Only a double with a leading digit at the greatest place can be taken out of the range. -/
theorem leading_of_roundedTo_not_finite (infinite : (x.roundedTo place).isFinite = false) :
    x.leading = 308 := by
  have within := le_leading_of_roundedTo_not_finite positive infinite
  have units_le : (x.units place : Rat) * (10 : Rat) ^ place ≤ (10 : Rat) ^ (x.leading + 1) :=
    Decimal.units_le_ten_zpow (by omega) (lt_ten_zpow_leading positive).le
  have above := lt_of_units_le positive infinite units_le
  have highest := leading_le x
  omega

end Rounding

end Finite

end SignificantFigures.Double
