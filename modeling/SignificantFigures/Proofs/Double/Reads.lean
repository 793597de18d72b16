import SignificantFigures.Proofs.Decimal.Nearest

/-!
The sizes that are read as a finite double. They form an interval around its own size that holds a
number of seventeen digits, a multiple of `10 ^ (-324)`, and no two powers of ten.
-/

set_option autoImplicit false

namespace SignificantFigures.Double.Finite

open Rational

/-- Whether a size is read as a double of this size. -/
def Reads (x : Finite) (q : Rat) : Prop :=
  roundedSize q = x.size

variable {x : Finite} {p q r : Rat}

theorem reads_size (x : Finite) : x.Reads x.size :=
  roundedSize_size x

/-- What lies between two sizes that are read as a double is read as it. -/
theorem Reads.between (low : x.Reads p) (high : x.Reads r) (nonneg : 0 ≤ p) (hp : p ≤ q)
    (hr : q ≤ r) : x.Reads q :=
  le_antisymm ((roundedSize_mono (nonneg.trans hp) hr).trans_eq high)
    (low.symm.le.trans (roundedSize_mono nonneg hp))

/-- The sizes read as a nonzero double lie within a factor of three. -/
theorem Reads.le_three_mul (low : x.Reads p) (high : x.Reads r) (positive : 0 < x.size)
    (nonnegP : 0 ≤ p) (nonnegR : 0 ≤ r) : r ≤ 3 * p := by
  have below := roundedSize_le_two_mul nonnegP
  have above := two_mul_le_of_roundedSize_pos nonnegR (by rwa [high])
  rw [low] at below
  rw [high] at above
  linarith

theorem Reads.pos (reads : x.Reads q) (positive : 0 < x.size) (nonneg : 0 ≤ q) : 0 < q := by
  rcases nonneg.eq_or_lt with rfl | above
  · rw [Reads, roundedSize_zero] at reads
    exact absurd reads positive.ne
  · exact above

/-- The power of ten that is read as a double differs from it by less than the factor that takes it
to the next one. -/
theorem Reads.power_le {j k : Int} (low : x.Reads ((10 : Rat) ^ j)) (high : x.Reads r)
    (positive : 0 < x.size) (nonneg : 0 ≤ r) (reached : (10 : Rat) ^ k ≤ r) : k ≤ j := by
  have factor := low.le_three_mul high positive (ten_zpow_pos j).le nonneg
  have bound : (10 : Rat) ^ k < (10 : Rat) ^ (j + 1) := by
    have := ten_zpow_pos j
    rw [ten_zpow_add, zpow_one]
    linarith
  have := ten_zpow_lt_iff_lt.mp bound
  omega

section Grid

/-- The multiple of a unit closest to the size of a double is at most half a unit away. -/
private theorem exists_multiple (x : Finite) {unit : Rat} (positive : 0 < unit) :
    ∃ n : Nat, |x.size - (n : Rat) * unit| ≤ unit / 2 := by
  have nonneg := halfEven_nonneg (div_nonneg x.size_nonneg positive.le)
  have near := abs_halfEven_sub_le (x.size / unit)
  obtain ⟨n, hn⟩ := Int.eq_ofNat_of_zero_le nonneg
  refine ⟨n, ?_⟩
  rw [hn, Int.cast_natCast, abs_sub_comm] at near
  have split : x.size - (n : Rat) * unit = (x.size / unit - n) * unit := by field_simp
  rw [split, abs_mul, abs_of_pos positive]
  calc |x.size / unit - n| * unit ≤ 1 / 2 * unit := by gcongr
    _ = unit / 2 := by ring

/-- A grid of seventeen digits has a number that is read as the double. -/
theorem exists_reads_seventeen (positive : 0 < x.size) :
    ∃ n : Nat, x.Reads ((n : Rat) * (10 : Rat) ^ (decimalOrder x.size - 16)) := by
  have unit := ten_zpow_pos (decimalOrder x.size - 16)
  obtain ⟨n, near⟩ := exists_multiple x unit
  refine ⟨n, roundedSize_eq_of_close (by positivity) (representable_size x) ?_⟩
  have order : (10 : Rat) ^ (decimalOrder x.size) ≤ x.size := by
    rw [ten_zpow_le_iff positive]
  have digits : (10 : Rat) ^ (decimalOrder x.size) =
      10000000000000000 * (10 : Rat) ^ (decimalOrder x.size - 16) := by
    rw [show decimalOrder x.size = 16 + (decimalOrder x.size - 16) by ring, ten_zpow_add]
    norm_num
  linarith

theorem ten_zpow_324_lt : (10 : Rat) ^ (-324 : Int) < (2 : Rat) ^ (-1074 : Int) := by
  rw [zpow_neg, zpow_neg]
  refine inv_strictAnti₀ (two_zpow_pos _) ?_
  have : 2 ^ 1074 < 10 ^ 324 := by decide +kernel
  exact_mod_cast this

/-- No double needs a decimal place beyond the 324th. -/
theorem exists_reads_least (x : Finite) :
    ∃ n : Nat, x.Reads ((n : Rat) * (10 : Rat) ^ (-324 : Int)) := by
  have unit := ten_zpow_pos (-324)
  obtain ⟨n, near⟩ := exists_multiple x unit
  refine ⟨n, roundedSize_eq_of_lt_least (by positivity) (representable_size x) ?_⟩
  linarith [ten_zpow_324_lt]

end Grid

section Range

theorem ten_zpow_308_le : (10 : Rat) ^ (308 : Int) ≤ 3 * (2 : Rat) ^ (1022 : Int) := by
  have : 10 ^ 308 ≤ 3 * 2 ^ 1022 := by decide +kernel
  exact_mod_cast this

theorem two_mul_sizeLimit_lt_ten_zpow : 2 * sizeLimit < (10 : Rat) ^ (309 : Int) := by
  have : 2 * 2 ^ 1024 < 10 ^ 309 := by decide +kernel
  unfold sizeLimit
  exact_mod_cast this

theorem sizeLimit_lt_ten_zpow : sizeLimit < (10 : Rat) ^ (309 : Int) := by
  have positive : 0 < sizeLimit := two_zpow_pos 1024
  exact (le_mul_of_one_le_left positive.le one_le_two).trans_lt two_mul_sizeLimit_lt_ten_zpow

theorem decimalOrder_le (positive : 0 < x.size) : decimalOrder x.size ≤ 308 := by
  have below := x.size_lt_sizeLimit.trans sizeLimit_lt_ten_zpow
  rw [lt_ten_zpow_iff positive] at below
  omega

theorem ten_zpow_323_bounds :
    2 * (2 : Rat) ^ (-1074 : Int) ≤ (10 : Rat) ^ (-323 : Int) ∧
      20 * (10 : Rat) ^ (-323 : Int) ≤ 41 * (2 : Rat) ^ (-1074 : Int) := by
  have low : 2 * 10 ^ 323 ≤ 2 ^ 1074 := by decide +kernel
  have high : 20 * 2 ^ 1074 ≤ 41 * 10 ^ 323 := by decide +kernel
  have low' : (2 : Rat) * 10 ^ 323 ≤ 2 ^ 1074 := by exact_mod_cast low
  have high' : (20 : Rat) * 2 ^ 1074 ≤ 41 * 10 ^ 323 := by exact_mod_cast high
  rw [zpow_neg, zpow_neg, show (1074 : Int) = ((1074 : Nat) : Int) by rfl,
    show (323 : Int) = ((323 : Nat) : Int) by rfl, zpow_natCast, zpow_natCast]
  constructor
  · rw [← div_eq_mul_inv, div_le_iff₀ (by positivity), ← div_eq_inv_mul, le_div_iff₀ (by positivity)]
    exact low'
  · rw [← div_eq_mul_inv, ← div_eq_mul_inv, div_le_div_iff₀ (by positivity) (by positivity)]
    exact high'

theorem least_le_ten_zpow : (2 : Rat) ^ (-1074 : Int) ≤ (10 : Rat) ^ (-323 : Int) := by
  have := ten_zpow_323_bounds.1
  have := two_zpow_pos (-1074)
  linarith

/-- Below the normal range the spacing is the least one. -/
private theorem spacing_eq_least (reads : x.Reads q) (nonneg : 0 ≤ q)
    (small : x.size < (2 : Rat) ^ (-1022 : Int)) : spacing q = -1074 := by
  by_contra above
  have start := two_zpow_spacing_le nonneg (lt_of_le_of_ne (le_spacing q) (Ne.symm above))
  have held : Representable ((2 : Rat) ^ (-1022 : Int)) := representable_two_zpow (by norm_num)
  have reached : (2 : Rat) ^ (-1022 : Int) ≤ q :=
    calc (2 : Rat) ^ (-1022 : Int) ≤ (2 : Rat) ^ (52 + spacing q) := by
          have least := le_spacing q
          exact two_zpow_le (by omega)
      _ = 4503599627370496 * (2 : Rat) ^ spacing q := by rw [two_zpow_add, two_zpow_52]
      _ ≤ q := start
  have := roundedSize_mono held.nonneg reached
  rw [roundedSize_eq_self held, reads] at this
  exact absurd small (not_lt.mpr this)

/-- In the normal range a size is read with an error of at most half a unit in the last place. -/
theorem Reads.abs_sub_le_of_normal (reads : x.Reads q) (nonneg : 0 ≤ q)
    (normal : (2 : Rat) ^ (-1022 : Int) ≤ x.size) : 9007199254740992 * |x.size - q| ≤ x.size := by
  have relative := abs_roundedSize_sub_le_relative nonneg (normal.trans_eq reads.symm)
  rwa [reads] at relative

/-- Below the normal range it is read with an error of at most half the least size. -/
theorem Reads.abs_sub_le_of_small (reads : x.Reads q) (nonneg : 0 ≤ q)
    (small : x.size < (2 : Rat) ^ (-1022 : Int)) :
    |x.size - q| ≤ (2 : Rat) ^ (-1074 : Int) / 2 := by
  have half := abs_roundedSize_sub_le_half q
  rwa [reads, spacing_eq_least reads nonneg small] at half

/-- A double that a power of ten above it is read as lies in the last twentieth before it. -/
theorem Reads.power_close {k : Int} (reads : x.Reads ((10 : Rat) ^ k)) (positive : 0 < x.size)
    (below : x.size ≤ (10 : Rat) ^ k) : 19 * (10 : Rat) ^ k < 20 * x.size := by
  have power := ten_zpow_pos k
  have distance : |x.size - (10 : Rat) ^ k| = (10 : Rat) ^ k - x.size := by
    rw [abs_sub_comm, abs_of_nonneg (sub_nonneg.mpr below)]
  rcases le_or_gt ((2 : Rat) ^ (-1022 : Int)) x.size with normal | small
  · have relative := reads.abs_sub_le_of_normal power.le normal
    rw [distance] at relative
    linarith
  · by_contra far
    rw [not_lt] at far
    -- with the least spacing the power is within twenty times the least size
    have half := reads.abs_sub_le_of_small power.le small
    rw [distance] at half
    obtain ⟨low, high⟩ := ten_zpow_323_bounds
    have least := (representable_size x).least_le positive
    have unit := two_zpow_pos (-1074)
    have least_power : (10 : Rat) ^ (-324 : Int) < (10 : Rat) ^ k := by
      linarith [ten_zpow_324_lt]
    have greatest_power : (10 : Rat) ^ k < (10 : Rat) ^ (-322 : Int) := by
      rw [show (-322 : Int) = 1 + -323 by norm_num, ten_zpow_add, zpow_one]
      linarith
    have k_eq : k = -323 := by
      have := ten_zpow_lt_iff_lt.mp least_power
      have := ten_zpow_lt_iff_lt.mp greatest_power
      omega
    -- twice the least size would be closer
    have nearer := abs_roundedSize_sub_le power.le
      (representable_two_zpow (by norm_num : (-1074 : Int) ≤ -1074)).double
    rw [reads, distance, k_eq, abs_sub_comm, abs_of_nonneg (sub_nonneg.mpr low)] at nearer
    rw [k_eq] at far
    linarith

end Range

end SignificantFigures.Double.Finite
