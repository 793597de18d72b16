import Mathlib.Analysis.SpecialFunctions.Log.Base
import SignificantFigures.Proofs.Decade
import SignificantFigures.Proofs.Double.Figures
import SignificantFigures.Value.Number

/-!
Finding the decade of a double from an estimate of its logarithm, with the nearest doubles as powers
of ten. One step from the estimate leads to the leading digit of the shortest decimal just when the
estimate is at most one off, which a logarithm with an error of up to one half always is. The decade
is the only one whose powers of ten lie around the size.
-/

set_option autoImplicit false

namespace SignificantFigures

namespace Double.Finite

open Rational

variable {x : Finite}

section Nearest

variable [PowersOfTen] [PowersOfTen.Nearest]

theorem powerOfTen_le_size_iff_of_nearest {k : Int} (positive : 0 < x.size)
    (bound : k ≤ Decade.greatest) : Decade.powerOfTen k ≤ x.size ↔ k ≤ x.leading := by
  rw [PowersOfTen.Nearest.powerOfTen_eq bound, roundedSize_ten_zpow_le_iff positive]

/-- The decade is the only exponent whose power of ten is not above the size while the next one is. -/
theorem between_powers_iff {k : Int} (positive : 0 < x.size) :
    (k ≤ Decade.greatest ∧ Decade.powerOfTen k ≤ x.size ∧
      (k < Decade.greatest → x.size < Decade.powerOfTen (k + 1))) ↔ k = x.leading := by
  have highest : x.leading ≤ Decade.greatest := x.leading_le
  constructor
  · rintro ⟨bound, reached, above⟩
    rw [powerOfTen_le_size_iff_of_nearest positive bound] at reached
    rcases bound.eq_or_lt with last | inside
    · omega
    · have next := above inside
      rw [← not_le, powerOfTen_le_size_iff_of_nearest positive (by omega)] at next
      omega
  · rintro rfl
    refine ⟨highest, (powerOfTen_le_size_iff_of_nearest positive highest).mpr le_rfl,
      fun inside => ?_⟩
    rw [← not_le, powerOfTen_le_size_iff_of_nearest positive (by omega)]
    omega

end Nearest

section Logarithm

private theorem logb_ten_zpow (k : Int) : Real.logb 10 (((10 : Rat) ^ k : Rat) : ℝ) = k := by
  push_cast
  rw [← Real.rpow_intCast, Real.logb_rpow (by norm_num) (by norm_num)]

private theorem lt_logb_of_zpow_lt {q : Rat} {k : Int} (h : (10 : Rat) ^ k < q) :
    (k : ℝ) < Real.logb 10 q := by
  rw [← logb_ten_zpow k]
  exact Real.logb_lt_logb (by norm_num) (by exact_mod_cast ten_zpow_pos k) (by exact_mod_cast h)

private theorem logb_lt_of_lt_zpow {q : Rat} {k : Int} (positive : 0 < q)
    (h : q < (10 : Rat) ^ k) : Real.logb 10 q < k := by
  rw [← logb_ten_zpow k]
  exact Real.logb_lt_logb (by norm_num) (by exact_mod_cast positive) (by exact_mod_cast h)

private theorem logb_square (q : Rat) : Real.logb 10 ((q ^ 2 : Rat) : ℝ) = 2 * Real.logb 10 q := by
  push_cast
  rw [Real.logb_pow]
  norm_num

variable (positive : 0 < x.size)

include positive

/-- A size may lie below its decade, but by less than half a unit of the logarithm. -/
private theorem lt_logb_size :
    (x.leading : ℝ) - 1 / 2 < Real.logb 10 x.size := by
  have close := leading_close positive
  have power := ten_zpow_pos x.leading
  have square : (10 : Rat) ^ (2 * x.leading - 1) < x.size ^ 2 := by
    have split : (10 : Rat) ^ (2 * x.leading - 1) * 10 =
        ((10 : Rat) ^ x.leading) ^ 2 := by
      rw [← zpow_add_one₀ (by norm_num), sub_add_cancel, mul_comm, zpow_mul]
      rfl
    nlinarith
  have double := lt_logb_of_zpow_lt square
  rw [logb_square] at double
  push_cast at double
  linarith

private theorem logb_size_lt : Real.logb 10 x.size < x.leading + 1 := by
  exact_mod_cast logb_lt_of_lt_zpow positive (size_lt_next positive)

/-- The logarithm of a double ends well before the first power of ten past the range. -/
private theorem logb_size_lt_end : Real.logb 10 x.size < 617 / 2 := by
  have square : x.size ^ 2 < (10 : Rat) ^ (617 : Int) := by
    have limit : sizeLimit ^ 2 < (10 : Rat) ^ (617 : Int) := by
      have : (2 ^ 1024) ^ 2 < 10 ^ 617 := by decide +kernel
      unfold sizeLimit
      exact_mod_cast this
    exact (pow_lt_pow_left₀ x.size_lt_sizeLimit positive.le (by norm_num)).trans limit
  have double := logb_lt_of_lt_zpow (pow_pos positive 2) square
  rw [logb_square] at double
  push_cast at double
  linarith

/-- A logarithm with an error of up to one half is rounded down to an order at most one off, and to
none past the greatest. -/
theorem floor_of_near_logb {logarithm : ℝ} (near : |logarithm - Real.logb 10 x.size| ≤ 1 / 2) :
    |⌊logarithm⌋ - x.leading| ≤ 1 ∧ ⌊logarithm⌋ ≤ Decade.greatest := by
  obtain ⟨low, high⟩ := abs_le.mp near
  have above := lt_logb_size positive
  have below := logb_size_lt positive
  have ended := logb_size_lt_end positive
  have least : x.leading - 1 ≤ ⌊logarithm⌋ := by
    rw [Int.le_floor]
    push_cast
    linarith
  have most : ⌊logarithm⌋ < x.leading + 2 := by
    rw [Int.floor_lt]
    push_cast
    linarith
  have inside : ⌊logarithm⌋ < 309 := by
    rw [Int.floor_lt]
    push_cast
    linarith
  refine ⟨abs_le.mpr ⟨by omega, by omega⟩, ?_⟩
  unfold Decade.greatest
  omega

end Logarithm

end Double.Finite

namespace Value

open Double.Finite

section Nearest

variable [PowersOfTen] [PowersOfTen.Nearest]

theorem decadeFrom_eq_leading_iff {x : Double.Finite} {estimate : Int} (positive : 0 < x.size) :
    decadeFrom estimate x.size = .ok x.leading ↔
      |estimate - x.leading| ≤ 1 ∧ estimate ≤ Decade.greatest := by
  unfold decadeFrom
  split_ifs with past
  · exact iff_of_false (fun found => nomatch found) fun inside => not_lt.mpr inside.2 past
  · rw [Except.ok.injEq, Decade.stepped_eq_iff (not_lt.mp past) x.leading_le fun _ =>
      powerOfTen_le_size_iff_of_nearest positive]
    exact (and_iff_left (not_lt.mp past)).symm

/-- The decade of a nonzero double is the exponent of the leading digit of its shortest decimal. An
estimate leads to it just when it is at most one off and not past the greatest decade, as that of a
logarithm with an error of up to one half is. It is the only decade whose power of ten, as a double,
is not above the size while the next one is; so it grows with the size and does not depend on the
sign. -/
theorem decade_of_logarithm (x : Double.Finite) (positive : 0 < x.size) :
    decade (.double (.finite x)) = .ok (Decimal.shortest x).leading ∧
    ((10 : Rat) ^ (Decimal.shortest x).leading ≤ (Decimal.shortest x).size ∧
      (Decimal.shortest x).size < (10 : Rat) ^ ((Decimal.shortest x).leading + 1)) ∧
    (∀ estimate, decadeFrom estimate x.size = decade (.double (.finite x)) ↔
      |estimate - (Decimal.shortest x).leading| ≤ 1 ∧ estimate ≤ Decade.greatest) ∧
    (∀ logarithm : ℝ, |logarithm - Real.logb 10 x.size| ≤ 1 / 2 →
      decadeFrom ⌊logarithm⌋ x.size = decade (.double (.finite x))) ∧
    (∀ k, decade (.double (.finite x)) = .ok k ↔
      k ≤ Decade.greatest ∧ Decade.powerOfTen k ≤ x.size ∧
        (k < Decade.greatest → x.size < Decade.powerOfTen (k + 1))) ∧
    (∀ y j k, x.size ≤ y.size → decade (.double (.finite x)) = .ok j →
      decade (.double (.finite y)) = .ok k → j ≤ k) ∧
    decade (.double (.finite x.neg)) = decade (.double (.finite x)) := by
  have found (y : Double.Finite) : decade (.double (.finite y)) = .ok y.leading :=
    congrArg Except.ok (decade_eq_leading y.not_overshot)
  refine ⟨found x, ⟨ten_zpow_leading_le positive, lt_ten_zpow_leading positive⟩, ?_, ?_, ?_, ?_, ?_⟩
  · intro estimate
    rw [found x]
    exact decadeFrom_eq_leading_iff positive
  · intro logarithm near
    rw [found x, decadeFrom_eq_leading_iff positive]
    exact floor_of_near_logb positive near
  · intro k
    rw [found x, Except.ok.injEq, between_powers_iff positive, eq_comm]
  · intro y j k ordered first second
    rw [found x] at first
    rw [found y] at second
    rw [← Except.ok.inj first, ← Except.ok.inj second]
    exact leading_mono positive ordered
  · have opposite : x.neg.size = x.size := rfl
    exact congrArg Except.ok (decade_congr opposite)

end Nearest

/-- The double nearest to `10 ^ 23` lies below it, and its logarithm as well. With the nearest doubles
as powers of ten it is in the decade 23, and the estimate 22 leads there. -/
theorem decade_of_logarithm_below_power :
    letI := PowersOfTen.nearest
    let x : Double.Finite := ⟨false, 5960464477539062, 24, by decide⟩
    0 < x.size ∧ x.size < (10 : Rat) ^ (23 : Int) ∧ decade (.double (.finite x)) = .ok 23 ∧
      decadeFrom 22 x.size = .ok 23 := by
  intro x
  have positive : 0 < x.size := by decide +kernel
  have leading : (Decimal.shortest x).leading = 23 := by decide +kernel
  obtain ⟨found, -, estimated, -⟩ := @decade_of_logarithm .nearest _ x positive
  rw [leading] at found estimated
  refine ⟨positive, by decide +kernel, found, ?_⟩
  rw [(estimated 22).mpr (by decide), found]

end Value

end SignificantFigures
