import SignificantFigures.Proofs.Double.Places
import SignificantFigures.Proofs.Double.Text

/-!
The number of digits in the text with a fixed number of places. The text rounds the exact size,
while the leading digit is that of the shortest decimal. The two differ where a size lies more than
half a unit of the last place below the power of ten of that digit, and there the text has one digit
less.
-/

set_option autoImplicit false

namespace SignificantFigures.Double.Finite

open Rational

variable {x : Finite} {place : Int}

/-- Sixteen digits from the leading one on. -/
private theorem next_eq (leading : Int) :
    (10 : Rat) ^ (leading + 1) = 10000000000000000 * (10 : Rat) ^ (leading - 15) := by
  rw [show leading + 1 = 16 + (leading - 15) by ring, ten_zpow_add]
  norm_num

section Decade

variable (positive : 0 < x.size)

include positive

/-- The power of ten above the leading digit is read as another double. -/
theorem not_reads_next : ¬ x.Reads ((10 : Rat) ^ (x.leading + 1)) := by
  intro reads
  have unit : x.Reads (((1 : Nat) : Rat) * (10 : Rat) ^ (x.leading + 1)) := by
    rwa [Nat.cast_one, one_mul]
  have := Decimal.le_shortest_exponent positive unit
  have := exponent_le_leading x
  omega

theorem size_lt_roundedSize_next : x.size < roundedSize ((10 : Rat) ^ (x.leading + 1)) := by
  refine lt_of_le_of_ne ?_ fun same => not_reads_next positive same.symm
  rw [← Decimal.reads_shortest positive]
  exact roundedSize_mono (Decimal.size_nonneg _) (lt_ten_zpow_leading positive).le

/-- The power of ten above the leading digit is at least half way to the double it is read as. -/
theorem size_add_roundedSize_next_le :
    x.size + roundedSize ((10 : Rat) ^ (x.leading + 1)) ≤ 2 * (10 : Rat) ^ (x.leading + 1) :=
  (representable_size x).add_le_two_mul (ten_zpow_pos _).le (size_lt_roundedSize_next positive)

theorem size_lt_next : x.size < (10 : Rat) ^ (x.leading + 1) := by
  have := size_lt_roundedSize_next positive
  have := size_add_roundedSize_next_le positive
  linarith

/-- A shortest decimal that ends at a place or before it is a unit of the place below the power of
ten above its leading digit. -/
theorem shortest_size_add_le (ends : place ≤ (Decimal.shortest x).exponent) :
    (Decimal.shortest x).size + (10 : Rat) ^ place ≤ (10 : Rat) ^ (x.leading + 1) := by
  have unit := ten_zpow_pos place
  have high := lt_ten_zpow_leading positive
  obtain ⟨step, hstep⟩ := Int.eq_ofNat_of_zero_le
    (sub_nonneg.mpr (ends.trans (exponent_le_leading _)))
  rw [Decimal.size_eq_units ends, show x.leading + 1 = ((step + 1 : Nat) : Int) + place by omega,
    ten_zpow_add, zpow_natCast] at high ⊢
  have below : (Decimal.shortest x).unitsAt place < 10 ^ (step + 1) := by
    exact_mod_cast lt_of_mul_lt_mul_right high unit.le
  have below' : ((Decimal.shortest x).unitsAt place : Rat) + 1 ≤ (10 : Rat) ^ (step + 1) := by
    exact_mod_cast below
  calc ((Decimal.shortest x).unitsAt place : Rat) * (10 : Rat) ^ place + (10 : Rat) ^ place
      = (((Decimal.shortest x).unitsAt place : Rat) + 1) * (10 : Rat) ^ place := by ring
    _ ≤ (10 : Rat) ^ (step + 1) * (10 : Rat) ^ place := by gcongr

/-- No shortest decimal lies in the last of `10 ^ 16` steps before a power of ten: doubles are not
that dense, so one of the two ends of the step would be read as the same double. -/
theorem shortest_size_le_next :
    (Decimal.shortest x).size + (10 : Rat) ^ (x.leading - 15) ≤ (10 : Rat) ^ (x.leading + 1) := by
  by_contra beyond
  rw [not_le] at beyond
  have step := ten_zpow_pos (x.leading - 15)
  have power := next_eq x.leading
  have start : (9999999999999999 : Nat) * (10 : Rat) ^ (x.leading - 15) +
      (10 : Rat) ^ (x.leading - 15) = (10 : Rat) ^ (x.leading + 1) := by
    rw [power]
    push_cast
    ring
  have nonneg : 0 ≤ ((9999999999999999 : Nat) : Rat) * (10 : Rat) ^ (x.leading - 15) := by positivity
  have unread : ¬ x.Reads (((9999999999999999 : Nat) : Rat) * (10 : Rat) ^ (x.leading - 15)) := by
    intro reads
    have := shortest_size_add_le positive (Decimal.le_shortest_exponent positive reads)
    linarith
  have below : roundedSize (((9999999999999999 : Nat) : Rat) * (10 : Rat) ^ (x.leading - 15)) <
      x.size := by
    refine lt_of_le_of_ne ?_ unread
    rw [← Decimal.reads_shortest positive]
    exact roundedSize_mono nonneg (by linarith)
  have half := (representable_size x).two_mul_le_add nonneg below
  have gap := (representable_roundedSize nonneg).gap (representable_size x) below
  have above := size_lt_roundedSize_next positive
  have half' := size_add_roundedSize_next_le positive
  have gap' := (representable_size x).gap
    (representable_roundedSize (ten_zpow_pos (x.leading + 1)).le) above
  push_cast at *
  linarith

end Decade

section Next

variable (positive : 0 < x.size) (ends : place ≤ (Decimal.shortest x).exponent)

include positive ends

private theorem size_add_half_lt_of_close
    (close : |x.size - (Decimal.shortest x).size| < (10 : Rat) ^ place / 2) :
    x.size + (10 : Rat) ^ place / 2 < (10 : Rat) ^ (x.leading + 1) := by
  have next := shortest_size_add_le positive ends
  have := (abs_lt.mp close).2
  linarith

omit ends in
private theorem size_add_half_lt_of_gap
    (gap : (10 : Rat) ^ place < roundedSize ((10 : Rat) ^ (x.leading + 1)) - x.size) :
    x.size + (10 : Rat) ^ place / 2 < (10 : Rat) ^ (x.leading + 1) := by
  have half := size_add_roundedSize_next_le positive
  linarith

private theorem size_add_half_lt_of_normal (normal : (2 : Rat) ^ (-1022 : Int) ≤ x.size) :
    x.size + (10 : Rat) ^ place / 2 < (10 : Rat) ^ (x.leading + 1) := by
  have above := size_lt_roundedSize_next positive
  have power := ten_zpow_pos (x.leading + 1)
  rcases le_or_gt place (x.leading - 15) with fine | coarse
  · -- finer than the distance of doubles
    refine size_add_half_lt_of_gap positive ?_
    have gap := (representable_size x).gap (representable_roundedSize power.le) above
    have error := abs_roundedSize_sub_le_relative power.le (normal.trans above.le)
    have near :=
      neg_abs_le (roundedSize ((10 : Rat) ^ (x.leading + 1)) - (10 : Rat) ^ (x.leading + 1))
    have unit : (10 : Rat) ^ place ≤ (10 : Rat) ^ (x.leading - 15) := ten_zpow_le_iff_le.mpr fine
    have digits := next_eq x.leading
    have step := ten_zpow_pos (x.leading - 15)
    linarith
  · -- coarser than the error of the shortest decimal
    refine size_add_half_lt_of_close positive ends ?_
    have error :=
      (Decimal.reads_shortest positive).abs_sub_le_of_normal (Decimal.size_nonneg _) normal
    have below := size_lt_next positive
    have unit : (10 : Rat) ^ (x.leading - 14) ≤ (10 : Rat) ^ place :=
      ten_zpow_le_iff_le.mpr (by omega)
    have digits := next_eq x.leading
    have step := ten_zpow_pos (x.leading - 15)
    rw [show x.leading - 14 = 1 + (x.leading - 15) by ring, ten_zpow_add, zpow_one] at unit
    linarith

private theorem size_add_half_lt_of_small (small : x.size < (2 : Rat) ^ (-1022 : Int)) :
    x.size + (10 : Rat) ^ place / 2 < (10 : Rat) ^ (x.leading + 1) := by
  have above := size_lt_roundedSize_next positive
  rcases le_or_gt place (-324) with fine | coarse
  · refine size_add_half_lt_of_gap positive ?_
    have gap := (representable_size x).least_gap
      (representable_roundedSize (ten_zpow_pos (x.leading + 1)).le) above.ne
    rw [abs_sub_comm, abs_of_pos (sub_pos.mpr above)] at gap
    have unit : (10 : Rat) ^ place ≤ (10 : Rat) ^ (-324 : Int) := ten_zpow_le_iff_le.mpr fine
    exact (unit.trans_lt ten_zpow_324_lt).trans_le gap
  · refine size_add_half_lt_of_close positive ends ?_
    have error :=
      (Decimal.reads_shortest positive).abs_sub_le_of_small (Decimal.size_nonneg _) small
    have unit : (10 : Rat) ^ (-323 : Int) ≤ (10 : Rat) ^ place := ten_zpow_le_iff_le.mpr (by omega)
    have least := two_zpow_pos (-1074)
    linarith [ten_zpow_323_bounds.1]

/-- Half a unit of the last place more does not reach the power of ten above the leading digit. -/
theorem size_add_half_lt_next : x.size + (10 : Rat) ^ place / 2 < (10 : Rat) ^ (x.leading + 1) := by
  rcases le_or_gt ((2 : Rat) ^ (-1022 : Int)) x.size with normal | small
  · exact size_add_half_lt_of_normal positive ends normal
  · exact size_add_half_lt_of_small positive ends small

end Next

section Shown

/-- A size more than half a unit of a place below the power of ten of its leading digit, so that its
digits down to that place start one place later. -/
def FallsShort (x : Finite) (place : Int) : Prop :=
  x.size + (10 : Rat) ^ place / 2 < (10 : Rat) ^ x.leading

instance (x : Finite) (place : Int) : Decidable (x.FallsShort place) :=
  inferInstanceAs (Decidable (x.size + (10 : Rat) ^ place / 2 < (10 : Rat) ^ x.leading))

variable {places digits : Nat} {k : Int}

private theorem scaled_half (places : Nat) :
    (10 : Rat) ^ (-(places : Int)) / 2 * (10 : Rat) ^ (places : Int) = 1 / 2 := by
  rw [div_mul_eq_mul_div, ← ten_zpow_add, neg_add_cancel, zpow_zero]

private theorem shownUnits_lt (above : x.size + (10 : Rat) ^ (-(places : Int)) / 2 < (10 : Rat) ^ k)
    (digits_eq : (digits : Int) = k + places) : x.shownUnits places < 10 ^ digits := by
  have unit := ten_zpow_pos places
  have near := (abs_le.mp (x.abs_shownUnits_sub_le places)).2
  have scaled := mul_lt_mul_of_pos_right above unit
  rw [add_mul, scaled_half, ← ten_zpow_add, ← digits_eq, zpow_natCast _ digits] at scaled
  have : (x.shownUnits places : Rat) < (10 : Rat) ^ digits := by linarith
  exact_mod_cast this

private theorem le_shownUnits
    (below : (10 : Rat) ^ k ≤ x.size + (10 : Rat) ^ (-(places : Int)) / 2)
    (close : 19 * (10 : Rat) ^ k < 20 * x.size) (digits_eq : (digits : Int) = k + places) :
    10 ^ digits ≤ x.shownUnits places := by
  have unit := ten_zpow_pos places
  have near := (abs_le.mp (x.abs_shownUnits_sub_le places)).1
  have scaled := mul_le_mul_of_nonneg_right below unit.le
  have close' := mul_lt_mul_of_pos_right close unit
  rw [add_mul, scaled_half] at scaled
  rw [mul_assoc, mul_assoc] at close'
  rw [← ten_zpow_add, ← digits_eq, zpow_natCast _ digits] at scaled close'
  rcases scaled.eq_or_lt with tie | inside
  · -- half a unit below the power of ten, which is even
    have size : x.size * (10 : Rat) ^ (places : Int) = ((10 ^ digits : Nat) : Int) - 1 / 2 := by
      push_cast
      linarith
    have nonzero : digits ≠ 0 := by
      rintro rfl
      rw [pow_zero] at tie close'
      linarith
    have even : ((10 ^ digits : Nat) : Int) % 2 = 0 := by
      have := (Nat.even_pow.mpr ⟨by decide, nonzero⟩ : Even (10 ^ digits))
      have := Nat.even_iff.mp this
      omega
    rw [shownUnits, size, halfEven_sub_half even, Int.toNat_natCast]
  · have : (10 : Rat) ^ digits < (x.shownUnits places : Rat) + 1 := by linarith
    exact Nat.lt_succ_iff.mp (by exact_mod_cast this)

/-- Where there is a figure down to the last place, what is shown is not zero. -/
theorem shownUnits_ne_zero (positive : 0 < x.size) (inside : -(places : Int) ≤ x.leading) :
    x.shownUnits places ≠ 0 := by
  have close := leading_close positive
  have step : (10 : Rat) ^ (-(places : Int)) ≤ (10 : Rat) ^ x.leading :=
    ten_zpow_le_iff_le.mpr inside
  have unit := ten_zpow_pos (-(places : Int))
  have one : 10 ^ 0 ≤ x.shownUnits places :=
    le_shownUnits (k := -(places : Int)) (by linarith) (by linarith) (by omega)
  exact Nat.one_le_iff_ne_zero.mp one

/-- Within half a unit of the last place of a decade the digits start in the decade. -/
theorem digitCount_shownUnits_of_bounds (inside : -(places : Int) ≤ k)
    (low : (10 : Rat) ^ k ≤ x.size + (10 : Rat) ^ (-(places : Int)) / 2)
    (close : 19 * (10 : Rat) ^ k < 20 * x.size)
    (high : x.size + (10 : Rat) ^ (-(places : Int)) / 2 < (10 : Rat) ^ (k + 1)) :
    (digitCount (x.shownUnits places) : Int) = k + places + 1 := by
  obtain ⟨digits, hdigits⟩ := Int.eq_ofNat_of_zero_le (show 0 ≤ k + places by omega)
  have least : 10 ^ digits ≤ x.shownUnits places := le_shownUnits low close hdigits.symm
  have above : x.shownUnits places < 10 ^ (digits + 1) :=
    shownUnits_lt high (by push_cast; omega)
  rw [digitCount_eq least above]
  omega

section Count

variable (positive : 0 < x.size) (ends : -(places : Int) ≤ (Decimal.shortest x).exponent)

include positive ends

/-- Down to a place where its shortest decimal has ended, a double shows all its figures unless it
falls short of its leading digit. -/
theorem digitCount_shownUnits (reached : ¬ x.FallsShort (-(places : Int))) :
    (digitCount (x.shownUnits places) : Int) = x.leading + places + 1 :=
  digitCount_shownUnits_of_bounds (ends.trans (exponent_le_leading _)) (not_lt.mp reached)
    (leading_close positive) (size_add_half_lt_next positive ends)

/-- A double that falls short of its leading digit shows one digit less. -/
theorem digitCount_shownUnits_of_fallsShort (short : x.FallsShort (-(places : Int))) :
    (digitCount (x.shownUnits places) : Int) = x.leading + places := by
  have close := leading_close positive
  have unit := ten_zpow_pos (x.leading - 1)
  have half := ten_zpow_pos (-(places : Int))
  have tenth : (10 : Rat) ^ x.leading = 10 * (10 : Rat) ^ (x.leading - 1) := by
    rw [← zpow_one_add₀ (by norm_num), add_sub_cancel]
  have inside : -(places : Int) < x.leading := by
    -- a single figure is more than half a unit
    refine lt_of_le_of_ne (ends.trans (exponent_le_leading _)) ?_
    intro single
    unfold FallsShort at short
    rw [single] at short
    linarith
  have high : x.size + (10 : Rat) ^ (-(places : Int)) / 2 < (10 : Rat) ^ (x.leading - 1 + 1) := by
    rwa [sub_add_cancel]
  have count := digitCount_shownUnits_of_bounds (k := x.leading - 1) (by omega) (by linarith)
    (by linarith) high
  rwa [show x.leading - 1 + places + 1 = x.leading + places by ring] at count

end Count

end Shown

end SignificantFigures.Double.Finite
