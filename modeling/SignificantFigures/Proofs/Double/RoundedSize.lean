import SignificantFigures.Double.Nearest
import SignificantFigures.Proofs.Rational.Order
import SignificantFigures.Proofs.Rational.Rounding

/-!
Rounding a size to the sizes that 53 bits hold, with no bound on the exponent above. The result is
as close as any size that 53 bits hold, so rounding is monotone and leaves such sizes as they are.
The nearest double has the rounded size where that is below the range's end and is infinite
elsewhere.
-/

set_option autoImplicit false

namespace SignificantFigures.Double

open Rational

/-- A size that 53 bits hold at an exponent that is not below the least one. -/
def Representable (size : Rat) : Prop :=
  ∃ (significand : Nat) (exponent : Int), significand < 9007199254740992 ∧ -1074 ≤ exponent ∧
    size = (significand : Rat) * (2 : Rat) ^ exponent

/-- The multiple of the spacing closest to a size, before the range is looked at. -/
def roundedSize (size : Rat) : Rat :=
  (halfEven (size / (2 : Rat) ^ spacing size) : Rat) * (2 : Rat) ^ spacing size

theorem two_zpow_pos (k : Int) : (0 : Rat) < (2 : Rat) ^ k :=
  zpow_pos (by norm_num) k

theorem two_zpow_add (j k : Int) : (2 : Rat) ^ (j + k) = (2 : Rat) ^ j * (2 : Rat) ^ k :=
  zpow_add₀ (by norm_num) j k

theorem two_zpow_le {j k : Int} (h : j ≤ k) : (2 : Rat) ^ j ≤ (2 : Rat) ^ k :=
  zpow_le_zpow_right₀ (by norm_num) h

theorem two_zpow_52 : (2 : Rat) ^ (52 : Int) = 4503599627370496 := by norm_num

theorem two_zpow_53 : (2 : Rat) ^ (53 : Int) = 9007199254740992 := by norm_num

section Spacing

variable {q : Rat}

theorem le_spacing (q : Rat) : -1074 ≤ spacing q := by
  unfold spacing
  split_ifs
  · exact le_rfl
  · exact le_max_left _ _

theorem lt_two_zpow_spacing (nonneg : 0 ≤ q) : q < 9007199254740992 * (2 : Rat) ^ spacing q := by
  rw [← two_zpow_53, ← two_zpow_add]
  rcases nonneg.eq_or_lt with rfl | positive
  · exact two_zpow_pos _
  · rw [lt_two_zpow_iff positive]
    unfold spacing
    rw [if_neg positive.ne']
    omega

/-- Above the least spacing a size fills all 53 bits. -/
theorem two_zpow_spacing_le (nonneg : 0 ≤ q) (above : -1074 < spacing q) :
    4503599627370496 * (2 : Rat) ^ spacing q ≤ q := by
  rw [← two_zpow_52, ← two_zpow_add]
  rcases nonneg.eq_or_lt with rfl | positive
  · simp [spacing] at above
  · rw [two_zpow_le_iff positive]
    unfold spacing at above ⊢
    rw [if_neg positive.ne'] at above ⊢
    omega

/-- What a size can round to, counted in its spacing. -/
theorem bounds_of_near (nonneg : 0 ≤ q) {k : Int}
    (near : |(k : Rat) - q / (2 : Rat) ^ spacing q| ≤ 1 / 2) :
    0 ≤ k ∧ k ≤ 9007199254740992 ∧ (-1074 < spacing q → 4503599627370496 ≤ k) := by
  have unit := two_zpow_pos (spacing q)
  obtain ⟨below, above⟩ := abs_le.mp near
  refine ⟨?_, ?_, fun filled => ?_⟩
  · have low : 0 ≤ q / (2 : Rat) ^ spacing q := by positivity
    have : (-1 : Rat) < k := by linarith
    have : -1 < k := by exact_mod_cast this
    omega
  · have high : q / (2 : Rat) ^ spacing q < 9007199254740992 := by
      rw [div_lt_iff₀ unit]
      exact lt_two_zpow_spacing nonneg
    have : (k : Rat) < 9007199254740993 := by linarith
    have : k < 9007199254740993 := by exact_mod_cast this
    omega
  · have low : 4503599627370496 ≤ q / (2 : Rat) ^ spacing q := by
      rw [le_div_iff₀ unit]
      exact two_zpow_spacing_le nonneg filled
    have : (4503599627370495 : Rat) < k := by linarith
    have : 4503599627370495 < k := by exact_mod_cast this
    omega

theorem significand_bounds (nonneg : 0 ≤ q) :
    0 ≤ halfEven (q / (2 : Rat) ^ spacing q) ∧
      halfEven (q / (2 : Rat) ^ spacing q) ≤ 9007199254740992 ∧
      (-1074 < spacing q → 4503599627370496 ≤ halfEven (q / (2 : Rat) ^ spacing q)) :=
  bounds_of_near nonneg (abs_halfEven_sub_le _)

end Spacing

theorem representable_size (x : Finite) : Representable x.size := by
  refine ⟨x.significand, x.exponent, ?_, ?_, rfl⟩
  · rcases x.canonical with ⟨small, -⟩ | ⟨-, small, -⟩
    · exact small.trans (by norm_num)
    · exact small
  · rcases x.canonical with ⟨-, least⟩ | ⟨-, -, least, -⟩
    · exact least.ge
    · exact least

theorem representable_zero : Representable 0 :=
  ⟨0, 0, by norm_num, by norm_num, by simp⟩

theorem representable_two_zpow {k : Int} (h : -1074 ≤ k) : Representable ((2 : Rat) ^ k) :=
  ⟨1, k, by norm_num, h, by simp⟩

/-- Twice a size that 53 bits hold is held by 53 bits. -/
theorem Representable.double {w : Rat} (h : Representable w) : Representable (2 * w) := by
  obtain ⟨significand, exponent, bound, least, rfl⟩ := h
  refine ⟨significand, exponent + 1, bound, by omega, ?_⟩
  rw [two_zpow_add, zpow_one]
  ring

theorem Representable.nonneg {w : Rat} (h : Representable w) : 0 ≤ w := by
  obtain ⟨significand, exponent, -, -, rfl⟩ := h
  positivity

theorem roundedSize_nonneg {q : Rat} (nonneg : 0 ≤ q) : 0 ≤ roundedSize q := by
  have := halfEven_nonneg (q := q / (2 : Rat) ^ spacing q) (by positivity)
  unfold roundedSize
  positivity

theorem representable_roundedSize {q : Rat} (nonneg : 0 ≤ q) : Representable (roundedSize q) := by
  obtain ⟨low, high, -⟩ := significand_bounds nonneg
  have least := le_spacing q
  unfold roundedSize
  generalize halfEven (q / (2 : Rat) ^ spacing q) = significand at low high ⊢
  obtain ⟨n, rfl⟩ := Int.eq_ofNat_of_zero_le low
  rcases high.lt_or_eq with small | full
  · exact ⟨n, spacing q, by omega, least, by simp⟩
  · -- all 53 bits rounded up: the next exponent takes half of it
    refine ⟨4503599627370496, spacing q + 1, by norm_num, by omega, ?_⟩
    rw [full, two_zpow_add]
    push_cast
    ring

/-- How far a multiple of the spacing lies from a size. -/
theorem abs_multiple_sub (q : Rat) (k : Int) : |(k : Rat) * (2 : Rat) ^ spacing q - q| =
    |(k : Rat) - q / (2 : Rat) ^ spacing q| * (2 : Rat) ^ spacing q := by
  have unit := two_zpow_pos (spacing q)
  have split : (k : Rat) * (2 : Rat) ^ spacing q - q =
      ((k : Rat) - q / (2 : Rat) ^ spacing q) * (2 : Rat) ^ spacing q := by
    field_simp
  rw [split, abs_mul, abs_of_pos unit]

/-- Rounding moves a size by at most half its spacing. -/
theorem abs_roundedSize_sub_le_half (q : Rat) :
    |roundedSize q - q| ≤ (2 : Rat) ^ spacing q / 2 := by
  have unit := two_zpow_pos (spacing q)
  have near := abs_halfEven_sub_le (q / (2 : Rat) ^ spacing q)
  unfold roundedSize
  rw [abs_multiple_sub]
  calc |(halfEven (q / (2 : Rat) ^ spacing q) : Rat) - q / (2 : Rat) ^ spacing q| *
        (2 : Rat) ^ spacing q
      ≤ 1 / 2 * (2 : Rat) ^ spacing q := by gcongr
    _ = (2 : Rat) ^ spacing q / 2 := by ring

private theorem abs_roundedSize_sub_le_multiple (q : Rat) (k : Int) :
    |roundedSize q - q| ≤ |(k : Rat) * (2 : Rat) ^ spacing q - q| := by
  have near := abs_sub_le_of_half (abs_halfEven_sub_le (q / (2 : Rat) ^ spacing q)) k
  unfold roundedSize
  rw [abs_multiple_sub, abs_multiple_sub]
  exact mul_le_mul_of_nonneg_right near (two_zpow_pos _).le

/-- A size that 53 bits hold is a multiple of the spacing around another, or it lies below the power
of two that starts the binade of the other. -/
theorem Representable.multiple_or_below {q w : Rat} (held : Representable w) (nonneg : 0 ≤ q) :
    (∃ k : Int, w = k * (2 : Rat) ^ spacing q) ∨
      (w < 4503599627370496 * (2 : Rat) ^ spacing q ∧
        4503599627370496 * (2 : Rat) ^ spacing q ≤ q) := by
  obtain ⟨significand, exponent, bound, least, rfl⟩ := held
  by_cases fine : spacing q ≤ exponent
  · obtain ⟨step, hstep⟩ := Int.eq_ofNat_of_zero_le (sub_nonneg.mpr fine)
    refine Or.inl ⟨(significand : Int) * 2 ^ step, ?_⟩
    rw [show exponent = step + spacing q by omega, two_zpow_add, zpow_natCast]
    push_cast
    ring
  · rw [not_le] at fine
    refine Or.inr ⟨?_, two_zpow_spacing_le nonneg (by omega)⟩
    have unit := two_zpow_pos exponent
    have bound' : (significand : Rat) < 9007199254740992 := by exact_mod_cast bound
    calc (significand : Rat) * (2 : Rat) ^ exponent
        < 9007199254740992 * (2 : Rat) ^ exponent := by gcongr
      _ = 4503599627370496 * (2 : Rat) ^ (exponent + 1) := by
          rw [two_zpow_add, zpow_one]
          ring
      _ ≤ 4503599627370496 * (2 : Rat) ^ spacing q := by
          have := two_zpow_le (show exponent + 1 ≤ spacing q by omega)
          gcongr

/-- What lies below the start of the binade of a size is farther from it than the rounded size. -/
theorem abs_roundedSize_sub_lt {q w : Rat} (below : w < 4503599627370496 * (2 : Rat) ^ spacing q)
    (start : 4503599627370496 * (2 : Rat) ^ spacing q ≤ q) : |roundedSize q - q| < |w - q| := by
  have multiple := abs_roundedSize_sub_le_multiple q 4503599627370496
  push_cast at multiple
  rw [abs_of_nonpos (by linarith : 4503599627370496 * (2 : Rat) ^ spacing q - q ≤ 0)] at multiple
  rw [abs_of_nonpos (by linarith : w - q ≤ 0)]
  linarith

/-- No size that 53 bits hold is closer than the rounded one. -/
theorem abs_roundedSize_sub_le {q w : Rat} (nonneg : 0 ≤ q) (held : Representable w) :
    |roundedSize q - q| ≤ |w - q| := by
  rcases held.multiple_or_below nonneg with ⟨k, rfl⟩ | ⟨below, start⟩
  · exact abs_roundedSize_sub_le_multiple q k
  · exact (abs_roundedSize_sub_lt below start).le

theorem roundedSize_eq_self {w : Rat} (held : Representable w) : roundedSize w = w := by
  have near := abs_roundedSize_sub_le held.nonneg held
  rw [sub_self, abs_zero] at near
  linarith [abs_eq_zero.mp (le_antisymm near (abs_nonneg _))]

@[simp] theorem roundedSize_zero : roundedSize 0 = 0 :=
  roundedSize_eq_self representable_zero

theorem roundedSize_size (x : Finite) : roundedSize x.size = x.size :=
  roundedSize_eq_self (representable_size x)

/-- A size that rounds to more than a held one is at least half way from it to the result. -/
theorem Representable.add_le_two_mul {q v : Rat} (held : Representable v) (nonneg : 0 ≤ q)
    (above : v < roundedSize q) : v + roundedSize q ≤ 2 * q := by
  have near := abs_roundedSize_sub_le nonneg held
  rcases abs_cases (roundedSize q - q) with ⟨own, _⟩ | ⟨own, _⟩ <;>
    rcases abs_cases (v - q) with ⟨other, _⟩ | ⟨other, _⟩ <;> linarith

/-- A size that rounds to less than a held one is at most half way from the result to it. -/
theorem Representable.two_mul_le_add {q v : Rat} (held : Representable v) (nonneg : 0 ≤ q)
    (below : roundedSize q < v) : 2 * q ≤ roundedSize q + v := by
  have near := abs_roundedSize_sub_le nonneg held
  rcases abs_cases (roundedSize q - q) with ⟨own, _⟩ | ⟨own, _⟩ <;>
    rcases abs_cases (v - q) with ⟨other, _⟩ | ⟨other, _⟩ <;> linarith

theorem roundedSize_mono {p q : Rat} (nonneg : 0 ≤ p) (h : p ≤ q) :
    roundedSize p ≤ roundedSize q := by
  by_contra crossed
  rw [not_le] at crossed
  -- the middle of the two results separates the sizes
  have above := (representable_roundedSize (nonneg.trans h)).add_le_two_mul nonneg crossed
  have below := (representable_roundedSize nonneg).two_mul_le_add (nonneg.trans h) crossed
  have same : p = q := by linarith
  rw [same] at crossed
  exact lt_irrefl _ crossed

/-- Two sizes that 53 bits hold differ by at least one unit in the last place of the greater. -/
theorem Representable.gap {v w : Rat} (hv : Representable v) (hw : Representable w) (h : v < w) :
    w ≤ 9007199254740992 * (w - v) := by
  obtain ⟨m, i, boundM, -, rfl⟩ := hv
  obtain ⟨n, j, boundN, -, rfl⟩ := hw
  have unitI := two_zpow_pos i
  have unitJ := two_zpow_pos j
  have boundM' : (m : Rat) ≤ 9007199254740991 := by exact_mod_cast (by omega : m ≤ 9007199254740991)
  have boundN' : (n : Rat) ≤ 9007199254740992 := by exact_mod_cast boundN.le
  rcases le_or_gt i j with fine | coarse
  · -- both are multiples of the lower spacing
    obtain ⟨step, hstep⟩ := Int.eq_ofNat_of_zero_le (sub_nonneg.mpr fine)
    have scaled : (2 : Rat) ^ j = (2 : Rat) ^ step * (2 : Rat) ^ i := by
      rw [show j = step + i by omega, two_zpow_add, zpow_natCast]
    rw [scaled, ← mul_assoc] at h ⊢
    have below : (m : Rat) < (n : Rat) * 2 ^ step := lt_of_mul_lt_mul_right h unitI.le
    have apart : (m : Rat) + 1 ≤ (n : Rat) * 2 ^ step := by
      exact_mod_cast (by exact_mod_cast below : m < n * 2 ^ step)
    have large : (n : Rat) * 2 ^ step ≤ 9007199254740992 * ((n : Rat) * 2 ^ step - m) := by
      linarith
    calc (n : Rat) * 2 ^ step * (2 : Rat) ^ i
        ≤ 9007199254740992 * ((n : Rat) * 2 ^ step - m) * (2 : Rat) ^ i := by gcongr
      _ = 9007199254740992 * ((n : Rat) * 2 ^ step * (2 : Rat) ^ i - m * (2 : Rat) ^ i) := by ring
  · obtain ⟨step, hstep⟩ := Int.eq_ofNat_of_zero_le (sub_nonneg.mpr coarse.le)
    have scaled : (2 : Rat) ^ i = (2 : Rat) ^ step * (2 : Rat) ^ j := by
      rw [show i = step + j by omega, two_zpow_add, zpow_natCast]
    rw [scaled, ← mul_assoc] at h ⊢
    have below : (m : Rat) * 2 ^ step < n := lt_of_mul_lt_mul_right h unitJ.le
    have apart : (m : Rat) * 2 ^ step + 1 ≤ n := by
      exact_mod_cast (by exact_mod_cast below : m * 2 ^ step < n)
    calc (n : Rat) * (2 : Rat) ^ j ≤ 9007199254740992 * 1 * (2 : Rat) ^ j := by gcongr; linarith
      _ ≤ 9007199254740992 * ((n : Rat) - m * 2 ^ step) * (2 : Rat) ^ j := by gcongr; linarith
      _ = 9007199254740992 * ((n : Rat) * (2 : Rat) ^ j - m * 2 ^ step * (2 : Rat) ^ j) := by ring

/-- With a significand of 53 bits that does not start its binade, no size that 53 bits hold lies
between it and the one before. -/
theorem Representable.le_of_lt {w : Rat} (held : Representable w) {n : Nat} {e : Int}
    (full : 4503599627370496 < n) (bound : n < 9007199254740992) (least : -1074 ≤ e)
    (above : ((n : Rat) - 1) * (2 : Rat) ^ e < w) : (n : Rat) * (2 : Rat) ^ e ≤ w := by
  have unit := two_zpow_pos e
  have before : Representable (((n : Rat) - 1) * (2 : Rat) ^ e) :=
    ⟨n - 1, e, by omega, least, by rw [Nat.cast_sub (by omega), Nat.cast_one]⟩
  have full' : (4503599627370497 : Rat) ≤ n := by exact_mod_cast full
  by_contra between
  rw [not_le] at between
  have low := before.gap held above
  have high := held.gap ⟨n, e, bound, least, rfl⟩ between
  have start : 4503599627370497 * (2 : Rat) ^ e ≤ (n : Rat) * (2 : Rat) ^ e := by gcongr
  linarith

/-- Two different sizes that 53 bits hold differ by at least the least size above zero. -/
theorem Representable.least_gap {v w : Rat} (hv : Representable v) (hw : Representable w)
    (h : v ≠ w) : (2 : Rat) ^ (-1074 : Int) ≤ |v - w| := by
  have multiple {z : Rat} (hz : Representable z) : ∃ n : Int, z = n * (2 : Rat) ^ (-1074 : Int) := by
    obtain ⟨significand, exponent, -, least, rfl⟩ := hz
    obtain ⟨step, hstep⟩ := Int.eq_ofNat_of_zero_le (sub_nonneg.mpr least)
    refine ⟨significand * 2 ^ step, ?_⟩
    rw [show exponent = step + -1074 by omega, two_zpow_add, zpow_natCast, Int.cast_mul,
      Int.cast_pow, Int.cast_natCast, Int.cast_ofNat, mul_assoc]
  obtain ⟨m, rfl⟩ := multiple hv
  obtain ⟨n, rfl⟩ := multiple hw
  have unit := two_zpow_pos (-1074)
  have apart : 1 ≤ |m - n| := by
    have differ : m - n ≠ 0 := fun equal => h (by rw [sub_eq_zero.mp equal])
    have := abs_pos.mpr differ
    omega
  rw [← sub_mul, abs_mul, abs_of_pos unit]
  have apart' : (1 : Rat) ≤ |(m : Rat) - n| := by exact_mod_cast apart
  calc (2 : Rat) ^ (-1074 : Int) = 1 * (2 : Rat) ^ (-1074 : Int) := (one_mul _).symm
    _ ≤ |(m : Rat) - n| * (2 : Rat) ^ (-1074 : Int) := by gcongr

/-- A size rounds to the held one that is more than twice as far from every other. -/
private theorem roundedSize_eq_of_lt_gap {q v : Rat} (nonneg : 0 ≤ q) (held : Representable v)
    (close : ∀ w, Representable w → w ≠ v → 2 * |v - q| < |w - v|) : roundedSize q = v := by
  by_contra differ
  have rounded := representable_roundedSize nonneg
  have near := abs_roundedSize_sub_le nonneg held
  have triangle := abs_sub_le (roundedSize q) q v
  rw [abs_sub_comm q v] at triangle
  linarith [close _ rounded differ]

/-- A size closer to a held one than a quarter of its last unit rounds to it. -/
theorem roundedSize_eq_of_close {q v : Rat} (nonneg : 0 ≤ q) (held : Representable v)
    (close : 18014398509481984 * |v - q| < v) : roundedSize q = v := by
  refine roundedSize_eq_of_lt_gap nonneg held fun w hw differ => ?_
  rcases lt_or_gt_of_ne differ with below | above
  · have gap := hw.gap held below
    rw [abs_of_neg (sub_neg.mpr below)]
    linarith
  · have gap := held.gap hw above
    rw [abs_of_pos (sub_pos.mpr above)]
    linarith

/-- A size closer to a held one than half the least size above zero rounds to it. -/
theorem roundedSize_eq_of_lt_least {q v : Rat} (nonneg : 0 ≤ q) (held : Representable v)
    (close : 2 * |v - q| < (2 : Rat) ^ (-1074 : Int)) : roundedSize q = v :=
  roundedSize_eq_of_lt_gap nonneg held fun _ hw differ =>
    close.trans_le (hw.least_gap held differ)

/-- In the normal range rounding moves a size by at most half a unit in its last place. -/
theorem abs_roundedSize_sub_le_relative {q : Rat} (nonneg : 0 ≤ q)
    (normal : (2 : Rat) ^ (-1022 : Int) ≤ roundedSize q) :
    9007199254740992 * |roundedSize q - q| ≤ roundedSize q := by
  have half := abs_roundedSize_sub_le_half q
  have unit : 4503599627370496 * (2 : Rat) ^ spacing q ≤ roundedSize q := by
    rcases (le_spacing q).eq_or_lt with least | above
    · rw [← least, ← two_zpow_52, ← two_zpow_add]
      exact normal
    · have held : Representable (4503599627370496 * (2 : Rat) ^ spacing q) :=
        ⟨4503599627370496, spacing q, by norm_num, above.le, by norm_num⟩
      rw [← roundedSize_eq_self held]
      exact roundedSize_mono held.nonneg (two_zpow_spacing_le nonneg above)
  linarith

theorem roundedSize_le_two_mul {q : Rat} (nonneg : 0 ≤ q) : roundedSize q ≤ 2 * q := by
  have near := abs_roundedSize_sub_le nonneg representable_zero
  rw [zero_sub, abs_neg, abs_of_nonneg nonneg] at near
  linarith [le_abs_self (roundedSize q - q)]

theorem two_mul_le_of_roundedSize_pos {q : Rat} (nonneg : 0 ≤ q) (positive : 0 < roundedSize q) :
    2 * q ≤ 3 * roundedSize q := by
  have near := abs_roundedSize_sub_le nonneg (representable_roundedSize nonneg).double
  have own := neg_le_abs (roundedSize q - q)
  rcases abs_cases (2 * roundedSize q - q) with ⟨other, _⟩ | ⟨other, _⟩ <;> linarith

/-- The least size above zero. -/
theorem Representable.least_le {w : Rat} (held : Representable w) (positive : 0 < w) :
    (2 : Rat) ^ (-1074 : Int) ≤ w := by
  obtain ⟨significand, exponent, -, least, rfl⟩ := held
  have unit := two_zpow_pos exponent
  have nonzero : significand ≠ 0 := by
    rintro rfl
    simp at positive
  have one : (1 : Rat) ≤ significand := by exact_mod_cast Nat.one_le_iff_ne_zero.mpr nonzero
  calc (2 : Rat) ^ (-1074 : Int) ≤ 1 * (2 : Rat) ^ exponent := by
        rw [one_mul]
        exact two_zpow_le least
    _ ≤ (significand : Rat) * (2 : Rat) ^ exponent := by gcongr

theorem representable_natCast {n : Nat} (small : n < 9007199254740992) : Representable n :=
  ⟨n, 0, small, by decide, by simp⟩

/-- An integer is rounded to an integer. -/
theorem exists_roundedSize_eq_natCast (n : Nat) : ∃ m : Nat, roundedSize (n : Rat) = m := by
  have nonneg : (0 : Rat) ≤ n := Nat.cast_nonneg n
  rcases le_or_gt 0 (spacing (n : Rat)) with whole | fine
  · obtain ⟨step, hstep⟩ := Int.eq_ofNat_of_zero_le whole
    obtain ⟨significand, hsignificand⟩ := Int.eq_ofNat_of_zero_le (significand_bounds nonneg).1
    refine ⟨significand * 2 ^ step, ?_⟩
    rw [roundedSize, hsignificand, hstep]
    push_cast
    rw [zpow_natCast]
  · -- below 2 ^ 53 an integer has room for all its bits
    have below := lt_two_zpow_spacing nonneg
    have unit : (2 : Rat) ^ spacing (n : Rat) ≤ 2 ^ (0 : Int) := two_zpow_le fine.le
    have small : (n : Rat) < 9007199254740992 := by
      rw [zpow_zero] at unit
      linarith
    exact ⟨n, roundedSize_eq_self (representable_natCast (by exact_mod_cast small))⟩

end SignificantFigures.Double
