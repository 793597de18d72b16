import SignificantFigures.Rational.Order
import Mathlib.Data.Int.Log
import Mathlib.Data.Rat.Floor
import Mathlib.Algebra.Order.Field.Power
import Mathlib.Tactic.Linarith
import Mathlib.Tactic.Ring
import Mathlib.Tactic.Positivity
import Mathlib.Tactic.GCongr
import Mathlib.Tactic.NormNum

/-!
The order of a positive rational in base two and in base ten is its logarithm rounded down, so a
power lies below the rational exactly when its exponent does not exceed the order.
-/

set_option autoImplicit false

namespace SignificantFigures.Rational

theorem digitCount_le_iff {n k : Nat} (h : 0 < k) : digitCount n ≤ k ↔ n < 10 ^ k :=
  Nat.length_toDigits_le_iff (by decide) h

theorem digitCount_pos (n : Nat) : 0 < digitCount n :=
  Nat.length_toDigits_pos

theorem lt_pow_digitCount (n : Nat) : n < 10 ^ digitCount n :=
  (digitCount_le_iff (digitCount_pos n)).mp le_rfl

theorem lt_digitCount_iff {n k : Nat} (h : n ≠ 0) : k < digitCount n ↔ 10 ^ k ≤ n := by
  rcases Nat.eq_zero_or_pos k with rfl | positive
  · rw [pow_zero, Nat.one_le_iff_ne_zero]
    exact ⟨fun _ => h, fun _ => digitCount_pos n⟩
  · rw [← not_le, digitCount_le_iff positive, not_lt]

theorem pow_digitCount_pred_le {n : Nat} (h : n ≠ 0) : 10 ^ (digitCount n - 1) ≤ n :=
  (lt_digitCount_iff h).mp (Nat.sub_lt (digitCount_pos n) (by decide))

/-- The count of digits of a coefficient between two neighbouring powers of ten. -/
theorem digitCount_eq {n k : Nat} (low : 10 ^ k ≤ n) (high : n < 10 ^ (k + 1)) :
    digitCount n = k + 1 := by
  have nonzero : n ≠ 0 := by
    have := Nat.pow_pos (a := 10) (n := k) (by decide)
    omega
  have above := (lt_digitCount_iff nonzero).mpr low
  have below := (digitCount_le_iff (Nat.succ_pos k)).mpr high
  omega

/-- A guess at the logarithm that is too great by at most one is set right by one comparison. -/
private theorem log_eq_of_guess {b : Nat} (base : 1 < b) {q : Rat} (positive : 0 < q) {guess : Int}
    (low : (b : Rat) ^ (guess - 1) ≤ q) (high : q < (b : Rat) ^ (guess + 1)) :
    (if (b : Rat) ^ guess ≤ q then guess else guess - 1) = Int.log b q := by
  have least := (Int.zpow_le_iff_le_log base positive).mp low
  have greatest := (Int.lt_zpow_iff_log_lt base positive).mp high
  split_ifs with reached
  · have := (Int.zpow_le_iff_le_log base positive).mp reached
    omega
  · have := (Int.lt_zpow_iff_log_lt base positive).mp (not_le.mp reached)
    omega

/-- The powers around numerator and denominator bound the quotient. -/
private theorem quotient_bounds {b m n i j : Nat} (base : 1 < b) (positive : 0 < n)
    (lowM : b ^ i ≤ m) (highM : m < b ^ (i + 1)) (lowN : b ^ j ≤ n) (highN : n < b ^ (j + 1)) :
    (b : Rat) ^ ((i : Int) - j - 1) ≤ (m : Rat) / n ∧
      (m : Rat) / n < (b : Rat) ^ ((i : Int) - j + 1) := by
  have nonzero : (b : Rat) ≠ 0 := by
    have : b ≠ 0 := by omega
    exact_mod_cast this
  have bPos : (0 : Rat) < b := by positivity
  have nPos : (0 : Rat) < n := by exact_mod_cast positive
  have lowM' : (b : Rat) ^ i ≤ m := by exact_mod_cast lowM
  have highM' : (m : Rat) < (b : Rat) ^ (i + 1) := by exact_mod_cast highM
  have lowN' : (b : Rat) ^ j ≤ n := by exact_mod_cast lowN
  have highN' : (n : Rat) < (b : Rat) ^ (j + 1) := by exact_mod_cast highN
  have below : (b : Rat) ^ ((i : Int) - j - 1) * (b : Rat) ^ (j + 1) = (b : Rat) ^ i := by
    rw [← zpow_natCast, ← zpow_natCast, ← zpow_add₀ nonzero]
    congr 1
    push_cast
    ring
  have above : (b : Rat) ^ ((i : Int) - j + 1) * (b : Rat) ^ j = (b : Rat) ^ (i + 1) := by
    rw [← zpow_natCast, ← zpow_natCast, ← zpow_add₀ nonzero]
    congr 1
    push_cast
    ring
  constructor
  · rw [le_div_iff₀ nPos]
    calc (b : Rat) ^ ((i : Int) - j - 1) * n
        ≤ (b : Rat) ^ ((i : Int) - j - 1) * (b : Rat) ^ (j + 1) := by gcongr
      _ = (b : Rat) ^ i := below
      _ ≤ m := lowM'
  · rw [div_lt_iff₀ nPos]
    calc (m : Rat) < (b : Rat) ^ (i + 1) := highM'
      _ = (b : Rat) ^ ((i : Int) - j + 1) * (b : Rat) ^ j := above.symm
      _ ≤ (b : Rat) ^ ((i : Int) - j + 1) * n := by gcongr

private theorem num_div_den_of_pos {q : Rat} (positive : 0 < q) :
    0 < q.num.natAbs ∧ (q.num.natAbs : Rat) / q.den = q := by
  have numPos : 0 < q.num := Rat.num_pos.mpr positive
  have size : ((q.num.natAbs : Int) : Rat) = q.num := by rw [Int.natAbs_of_nonneg numPos.le]
  refine ⟨by omega, ?_⟩
  rw [← Int.cast_natCast, size, Rat.num_div_den]

theorem binaryOrder_eq_log {q : Rat} (positive : 0 < q) : binaryOrder q = Int.log 2 q := by
  obtain ⟨numPos, quotient⟩ := num_div_den_of_pos positive
  obtain ⟨low, high⟩ := quotient_bounds (b := 2) (by decide) q.den_pos
    (Nat.log2_self_le numPos.ne') Nat.lt_log2_self (Nat.log2_self_le q.den_ne_zero) Nat.lt_log2_self
  rw [quotient] at low high
  exact log_eq_of_guess (b := 2) (by decide) positive low high

theorem decimalOrder_eq_log {q : Rat} (positive : 0 < q) : decimalOrder q = Int.log 10 q := by
  obtain ⟨numPos, quotient⟩ := num_div_den_of_pos positive
  have count (n : Nat) : digitCount n - 1 + 1 = digitCount n := by
    have := digitCount_pos n
    omega
  obtain ⟨low, high⟩ := quotient_bounds (b := 10) (by decide) q.den_pos
    (pow_digitCount_pred_le numPos.ne') (by rw [count]; exact lt_pow_digitCount _)
    (pow_digitCount_pred_le q.den_ne_zero) (by rw [count]; exact lt_pow_digitCount _)
  rw [quotient] at low high
  have guess : ((digitCount q.num.natAbs - 1 : Nat) : Int) - ((digitCount q.den - 1 : Nat) : Int) =
      (digitCount q.num.natAbs : Int) - (digitCount q.den : Int) := by
    have := digitCount_pos q.num.natAbs
    have := digitCount_pos q.den
    omega
  rw [guess] at low high
  exact log_eq_of_guess (b := 10) (by decide) positive low high

theorem two_zpow_le_iff {q : Rat} (positive : 0 < q) (k : Int) :
    (2 : Rat) ^ k ≤ q ↔ k ≤ binaryOrder q := by
  rw [binaryOrder_eq_log positive, ← Int.zpow_le_iff_le_log (b := 2) (by decide) positive]
  norm_cast

theorem ten_zpow_le_iff {q : Rat} (positive : 0 < q) (k : Int) :
    (10 : Rat) ^ k ≤ q ↔ k ≤ decimalOrder q := by
  rw [decimalOrder_eq_log positive, ← Int.zpow_le_iff_le_log (b := 10) (by decide) positive]
  norm_cast

theorem lt_two_zpow_iff {q : Rat} (positive : 0 < q) (k : Int) :
    q < (2 : Rat) ^ k ↔ binaryOrder q < k := by
  rw [← not_le, two_zpow_le_iff positive, not_le]

theorem lt_ten_zpow_iff {q : Rat} (positive : 0 < q) (k : Int) :
    q < (10 : Rat) ^ k ↔ decimalOrder q < k := by
  rw [← not_le, ten_zpow_le_iff positive, not_le]

end SignificantFigures.Rational
