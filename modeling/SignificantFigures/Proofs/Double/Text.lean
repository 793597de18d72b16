import SignificantFigures.Double.Text
import SignificantFigures.Proofs.Double.Reads
import SignificantFigures.Proofs.Numeral.Digits

/-!
The text of a double with a fixed number of places. It shows the number of units of the last place
that is closest to the size, so a normal double that at most fifteen digits at a place are read as
has those digits in its text, and an integer has its own digits in it.
-/

set_option autoImplicit false

namespace SignificantFigures.Double.Finite

open Rational

variable {x : Finite} {units places : Nat}

/-- The units of the last place that the text with a fixed number of places shows. -/
def shownUnits (x : Finite) (places : Nat) : Nat :=
  (halfEven (x.size * (10 : Rat) ^ (places : Int))).toNat

/-- What is shown is at most half a unit of the last place off. -/
theorem abs_shownUnits_sub_le (x : Finite) (places : Nat) :
    |(x.shownUnits places : Rat) - x.size * (10 : Rat) ^ (places : Int)| ≤ 1 / 2 := by
  have power := ten_zpow_pos places
  have nonneg := halfEven_nonneg (mul_nonneg x.size_nonneg power.le)
  have near := abs_halfEven_sub_le (x.size * (10 : Rat) ^ (places : Int))
  unfold shownUnits
  rwa [← Int.cast_natCast, Int.toNat_of_nonneg nonneg]

theorem shownUnits_mul_le (x : Finite) (places : Nat) :
    (x.shownUnits places : Rat) * (10 : Rat) ^ (-(places : Int)) ≤
      x.size + (10 : Rat) ^ (-(places : Int)) / 2 := by
  have unit := ten_zpow_pos (-(places : Int))
  have near := mul_le_mul_of_nonneg_right (abs_le.mp (x.abs_shownUnits_sub_le places)).2 unit.le
  rw [sub_mul, mul_assoc, ← ten_zpow_add, add_neg_cancel, zpow_zero, mul_one] at near
  linarith

theorem shownUnits_eq_of_close (close : |x.size * (10 : Rat) ^ (places : Int) - units| < 1 / 2) :
    x.shownUnits places = units := by
  rw [shownUnits, halfEven_eq_of_abs_lt (n := units) (by rwa [Int.cast_natCast]), Int.toNat_natCast]

/-- The expansion of a double ends at the 1074th place. -/
private theorem exists_size_eq (x : Finite) :
    ∃ n : Nat, x.size * (10 : Rat) ^ (longestFraction : Int) = n := by
  obtain ⟨significand, exponent, -, least, size⟩ := representable_size x
  obtain ⟨step, hstep⟩ := Int.eq_ofNat_of_zero_le (sub_nonneg.mpr least)
  have below : exponent = step + -(longestFraction : Int) := by
    simp only [longestFraction]
    omega
  have cancel : (2 : Rat) ^ (-(longestFraction : Int)) * (2 : Rat) ^ longestFraction = 1 := by
    rw [zpow_neg, zpow_natCast, inv_mul_cancel₀ (pow_ne_zero _ (by norm_num))]
  refine ⟨significand * 2 ^ step * 5 ^ longestFraction, ?_⟩
  push_cast
  calc x.size * (10 : Rat) ^ (longestFraction : Int)
      = (significand : Rat) * (2 ^ step * (2 : Rat) ^ (-(longestFraction : Int))) *
          ((2 : Rat) ^ longestFraction * 5 ^ longestFraction) := by
        rw [size, below, two_zpow_add, zpow_natCast, zpow_natCast, ← mul_pow]
        norm_num
    _ = (significand : Rat) * 2 ^ step * 5 ^ longestFraction *
          ((2 : Rat) ^ (-(longestFraction : Int)) * (2 : Rat) ^ longestFraction) := by ring
    _ = (significand : Rat) * 2 ^ step * 5 ^ longestFraction := by rw [cancel, mul_one]

/-- Past the longest expansion further places are zeros. -/
private theorem shownUnits_add (x : Finite) (further : Nat) :
    x.shownUnits (longestFraction + further) = x.shownUnits longestFraction * 10 ^ further := by
  obtain ⟨n, whole⟩ := exists_size_eq x
  have longest : x.shownUnits longestFraction = n :=
    shownUnits_eq_of_close (by rw [whole]; norm_num)
  rw [longest]
  refine shownUnits_eq_of_close ?_
  push_cast
  rw [ten_zpow_add, ← mul_assoc, whole, zpow_natCast]
  norm_num

/-- The text with a fixed number of places is that of the shown units, however many places there
are. -/
theorem fixedText_eq (x : Finite) (places : Nat) :
    x.fixedText places =
      signed x.negative (Decimal.pointed (Nat.toDigits 10 (x.shownUnits places)) places) := by
  have power (k : Nat) : ((Nat.pow 10 k : Nat) : Rat) = (10 : Rat) ^ (k : Int) := by simp
  have computed (k : Nat) :
      (halfEven (x.size * (Nat.pow 10 k : Nat))).toNat = x.shownUnits k := by
    rw [power, shownUnits]
  simp only [fixedText, computed]
  rcases le_or_gt places longestFraction with short | long
  · simp only [Nat.min_eq_left short, Nat.sub_self, List.replicate_zero, List.append_nil]
  · obtain ⟨further, rfl⟩ := Nat.exists_eq_add_of_lt long
    rw [Nat.min_eq_right long.le, Nat.add_assoc, shownUnits_add, Nat.add_sub_cancel_left]
    by_cases nothing : x.shownUnits longestFraction = 0
    · rw [nothing, Nat.zero_mul]
      exact congrArg _ (Numeral.Mantissa.pointed_zeros (by omega))
    · rw [Numeral.toDigits_mul_pow nothing]

/-- Up to `2 * 10 ^ 15` units that are read as a normal double are closer to it than half a unit. -/
theorem close_of_reads (normal : (2 : Rat) ^ (-1022 : Int) ≤ x.size)
    (reads : x.Reads ((units : Rat) * (10 : Rat) ^ (-(places : Int))))
    (short : units ≤ 2000000000000000) :
    |x.size * (10 : Rat) ^ (places : Int) - units| < 1 / 2 := by
  have unit := ten_zpow_pos (-(places : Int))
  have nonneg : 0 ≤ (units : Rat) * (10 : Rat) ^ (-(places : Int)) := by positivity
  have error := reads.abs_sub_le_of_normal nonneg normal
  have twice := roundedSize_le_two_mul nonneg
  rw [reads] at twice
  have bound : (units : Rat) ≤ 2000000000000000 := by exact_mod_cast short
  have inverse : (10 : Rat) ^ (-(places : Int)) * (10 : Rat) ^ (places : Int) = 1 := by
    rw [← ten_zpow_add, neg_add_cancel, zpow_zero]
  have scaled : x.size * (10 : Rat) ^ (places : Int) - units =
      (x.size - (units : Rat) * (10 : Rat) ^ (-(places : Int))) * (10 : Rat) ^ (places : Int) := by
    rw [sub_mul, mul_assoc (units : Rat), inverse, mul_one]
  have up := ten_zpow_pos (places : Int)
  rw [scaled, abs_mul, abs_of_pos up]
  -- the error is at most the size over 2 ^ 53, so at most 4 * 10 ^ 15 / 2 ^ 53 units
  have error' := (mul_le_mul_of_nonneg_right (error.trans twice) up.le)
  have total : 2 * ((units : Rat) * (10 : Rat) ^ (-(places : Int))) * (10 : Rat) ^ (places : Int) =
      2 * units := by
    rw [mul_assoc, mul_assoc, inverse, mul_one]
  rw [total, mul_assoc] at error'
  linarith

/-- Without a place behind the point an integer is shown as it is. -/
theorem shownUnits_of_size_eq (size : x.size = units) : x.shownUnits 0 = units :=
  shownUnits_eq_of_close (by simp [size])

end SignificantFigures.Double.Finite
