import SignificantFigures.Double.Places
import SignificantFigures.Proofs.Decimal.Rounding
import SignificantFigures.Proofs.Double.Leading

/-!
Rounding a double at a place. A nonzero result has a shortest decimal that ends at the place or
before it, also after the place has moved with the leading digit, so rounding it again changes nothing.
-/

set_option autoImplicit false

namespace SignificantFigures.Double.Finite

open Rational

variable {x v : Finite} {place : Int}

/-- The number of units of a place that a double is rounded to. -/
def units (x : Finite) (place : Int) : Nat :=
  (Decimal.shortest x).unitsAt place

theorem roundedTo_eq (x : Finite) (place : Int) :
    x.roundedTo place =
      if x.units place = 0 then .finite (zero false)
      else ((Decimal.shortest x).roundedAt place).nearest := by
  unfold roundedTo Decimal.nearestAt Decimal.nearestUnsigned units
  simp only [Decimal.roundedAt_coefficient_eq_zero_iff]

theorem roundedTo_of_size_eq_zero (h : x.size = 0) (place : Int) :
    x.roundedTo place = .finite (zero false) := by
  have none : x.units place = 0 := by
    rw [units, Decimal.shortest_of_size_eq_zero h]
    simp [Decimal.unitsAt, Decimal.size, show halfUp (0 : Rat) = 0 from halfUp_intCast 0]
  rw [roundedTo_eq, if_pos none]

section Multiple

variable (positive : 0 < x.size) (ends : place ≤ (Decimal.shortest x).exponent)

include positive ends

theorem units_ne_zero : x.units place ≠ 0 := by
  rw [units, ne_eq, ← Decimal.roundedAt_coefficient_eq_zero_iff, Decimal.roundedAt_of_le ends]
  exact Decimal.shortest_coefficient_ne_zero positive

/-- A double whose shortest decimal ends at a place or before it is what its units are read as. -/
theorem reads_units : x.Reads ((x.units place : Rat) * (10 : Rat) ^ place) := by
  rw [units, ← Decimal.size_eq_units ends]
  exact Decimal.reads_shortest positive

/-- Its figures are the digits of the units. -/
theorem digitCount_units : (digitCount (x.units place) : Int) = x.leading - place + 1 := by
  have size : (Decimal.shortest x).size = (x.units place : Rat) * (10 : Rat) ^ place :=
    Decimal.size_eq_units ends
  have unit := ten_zpow_pos place
  have low := ten_zpow_leading_le positive
  have high := lt_ten_zpow_leading positive
  obtain ⟨step, hstep⟩ := Int.eq_ofNat_of_zero_le
    (sub_nonneg.mpr (ends.trans (exponent_le_leading _)))
  rw [size, show x.leading = step + place by omega, ten_zpow_add, zpow_natCast,
    mul_le_mul_iff_of_pos_right unit] at low
  rw [size, show x.leading + 1 = ((step + 1 : Nat) : Int) + place by omega, ten_zpow_add,
    zpow_natCast, mul_lt_mul_iff_of_pos_right unit] at high
  rw [digitCount_eq (k := step) (by exact_mod_cast low) (by exact_mod_cast high)]
  omega

/-- Rounding at the place does not move it. -/
theorem roundedTo_of_le_exponent : x.roundedTo place = .finite x := by
  rw [roundedTo_eq, if_neg (units_ne_zero positive ends), Decimal.roundedAt_of_le ends,
    Decimal.nearest_shortest]

/-- A double whose shortest decimal has no digit behind the point is an integer. -/
theorem exists_size_eq_natCast (whole : 0 ≤ place) : ∃ n : Nat, x.size = n := by
  have reads := reads_units positive ends
  obtain ⟨step, rfl⟩ := Int.eq_ofNat_of_zero_le whole
  obtain ⟨n, integer⟩ := exists_roundedSize_eq_natCast (x.units step * 10 ^ step)
  refine ⟨n, ?_⟩
  rw [← integer, ← reads]
  push_cast
  rw [zpow_natCast]

end Multiple

theorem isMultipleOfTen_of_size_eq {n : Nat} (size : x.size = n) (multiple : n % 10 = 0) :
    x.isMultipleOfTen = true := by
  obtain ⟨k, rfl⟩ := Nat.dvd_of_mod_eq_zero multiple
  have quotient : x.value / 10 = ((if x.negative then -(k : Int) else k : Int) : Rat) := by
    rw [Double.Finite.value, size]
    split_ifs <;> push_cast <;> ring
  rw [isMultipleOfTen, quotient, Rat.den_intCast]
  rfl

/-- The units that a nonzero double is rounded to, where there are any, are not lost when they are
turned into a double. -/
private theorem units_ge_least (positive : 0 < x.size)
    (nonzero : x.units place ≠ 0) :
    0 < roundedSize ((x.units place : Rat) * (10 : Rat) ^ place) := by
  rcases le_or_gt place (Decimal.shortest x).exponent with fine | coarse
  · rw [reads_units positive fine]
    exact positive
  · have least := Decimal.neg_324_le_shortest_exponent positive
    have held : Representable ((2 : Rat) ^ (-1074 : Int)) := representable_two_zpow le_rfl
    have one : (1 : Rat) ≤ x.units place := by
      exact_mod_cast Nat.one_le_iff_ne_zero.mpr nonzero
    have reached : (2 : Rat) ^ (-1074 : Int) ≤
        (x.units place : Rat) * (10 : Rat) ^ place :=
      calc (2 : Rat) ^ (-1074 : Int) ≤ (10 : Rat) ^ (-323 : Int) := least_le_ten_zpow
        _ ≤ (10 : Rat) ^ place := ten_zpow_le_iff_le.mpr (by omega)
        _ ≤ _ := le_mul_of_one_le_left (ten_zpow_pos place).le one
    have := roundedSize_mono held.nonneg reached
    rw [roundedSize_eq_self held] at this
    exact (two_zpow_pos _).trans_le this

/-- What rounding a nonzero double gives: zero without a sign at a place above its leading digit, or a
nonzero double of its sign that some units of the place are read as. -/
theorem roundedTo_spec (positive : 0 < x.size) (rounded : x.roundedTo place = .finite v) :
    (v = zero false ∧ x.leading < place) ∨
    (v.negative = x.negative ∧ 0 < v.size ∧
      v.Reads ((x.units place : Rat) * (10 : Rat) ^ place)) := by
  rw [roundedTo_eq] at rounded
  split_ifs at rounded with none
  · obtain rfl := Double.finite.inj rounded
    refine Or.inl ⟨rfl, ?_⟩
    by_contra inside
    have low : (10 : Rat) ^ x.leading ≤ (x.units place : Rat) * (10 : Rat) ^ place :=
      Decimal.ten_zpow_le_units (not_lt.mp inside) (ten_zpow_leading_le positive)
    rw [none, Nat.cast_zero, zero_mul] at low
    exact absurd (ten_zpow_pos x.leading) (not_lt.mpr low)
  · obtain ⟨sign, size⟩ := Decimal.nearest_eq_finite_iff.mp rounded
    rw [Decimal.roundedAt_negative, Decimal.shortest_negative] at sign
    rw [Decimal.roundedAt_size] at size
    exact Or.inr ⟨sign, size ▸ units_ge_least positive none, size.symm⟩

theorem le_exponent_of_roundedTo (positive : 0 < x.size) (rounded : x.roundedTo place = .finite v)
    (nonzero : 0 < v.size) : place ≤ (Decimal.shortest v).exponent := by
  rcases roundedTo_spec positive rounded with ⟨rfl, -⟩ | ⟨-, -, reads⟩
  · rw [size_zero] at nonzero
    exact absurd nonzero (lt_irrefl _)
  · exact Decimal.le_shortest_exponent nonzero reads

/-- A power of ten between a size that is read as a double and its shortest decimal is read as it,
so the shortest decimal is a multiple of that power. -/
theorem le_exponent_of_between {q : Rat} {k : Int} (positive : 0 < v.size)
    (reads : v.Reads q) (nonneg : 0 ≤ q)
    (between : q ≤ (10 : Rat) ^ k ∧ (10 : Rat) ^ k ≤ (Decimal.shortest v).size ∨
      (Decimal.shortest v).size ≤ (10 : Rat) ^ k ∧ (10 : Rat) ^ k ≤ q) :
    v.Reads ((10 : Rat) ^ k) ∧ k ≤ (Decimal.shortest v).exponent := by
  have own := Decimal.reads_shortest positive
  have power : v.Reads ((10 : Rat) ^ k) := by
    rcases between with ⟨low, high⟩ | ⟨low, high⟩
    · exact reads.between own nonneg low high
    · exact own.between reads (Decimal.size_nonneg _) low high
  have unit : v.Reads (((1 : Nat) : Rat) * (10 : Rat) ^ k) := by rwa [Nat.cast_one, one_mul]
  exact ⟨power, Decimal.le_shortest_exponent positive unit⟩

/-- The leading digit of a double stands where that of a size that is read as it does, or one place
before where the next power of ten is read as it too. -/
theorem leading_of_reads {q : Rat} {k : Int} (positive : 0 < v.size) (reads : v.Reads q)
    (low : (10 : Rat) ^ k ≤ q) (high : q ≤ (10 : Rat) ^ (k + 1)) :
    (v.Reads ((10 : Rat) ^ (k + 1)) ∧ v.leading = k + 1 ∧ k + 1 ≤ (Decimal.shortest v).exponent) ∨
      (¬ v.Reads ((10 : Rat) ^ (k + 1)) ∧ v.leading = k) := by
  have nonneg := (ten_zpow_pos k).le.trans low
  have low' := ten_zpow_leading_le positive
  have exponent_le := exponent_le_leading v
  have kept : k ≤ v.leading := by
    by_contra below
    have step : (10 : Rat) ^ (v.leading + 1) ≤ (10 : Rat) ^ k := ten_zpow_le_iff_le.mpr (by omega)
    have := (le_exponent_of_between (k := k) positive reads nonneg
      (Or.inr ⟨(lt_ten_zpow_leading positive).le.trans step, low⟩)).2
    omega
  rcases kept.eq_or_lt with same | carried
  · refine Or.inr ⟨?_, same.symm⟩
    intro power
    have unit : v.Reads (((1 : Nat) : Rat) * (10 : Rat) ^ (k + 1)) := by
      rwa [Nat.cast_one, one_mul]
    have := Decimal.le_shortest_exponent positive unit
    omega
  · have step : (10 : Rat) ^ (k + 1) ≤ (10 : Rat) ^ v.leading := ten_zpow_le_iff_le.mpr (by omega)
    obtain ⟨power, ends⟩ := le_exponent_of_between (k := k + 1) positive reads nonneg
      (Or.inl ⟨high, step.trans low'⟩)
    have next := power.power_le (Decimal.reads_shortest positive) positive
      (Decimal.size_nonneg _) low'
    exact Or.inl ⟨power, by omega, ends⟩

/-- Rounding at a place within the figures keeps the place of the leading digit or carries into the
next one, and the result still ends at the place that has moved with it. -/
theorem le_exponent_of_roundedTo_of_le_leading (positive : 0 < x.size)
    (rounded : x.roundedTo place = .finite v) (inside : place ≤ x.leading) :
    0 < v.size ∧ x.leading ≤ v.leading ∧ v.leading ≤ x.leading + 1 ∧
      place + (v.leading - x.leading) ≤ (Decimal.shortest v).exponent := by
  obtain ⟨-, nonzero, reads⟩ : v.negative = x.negative ∧ 0 < v.size ∧
      v.Reads ((x.units place : Rat) * (10 : Rat) ^ place) := by
    rcases roundedTo_spec positive rounded with ⟨-, outside⟩ | spec
    · omega
    · exact spec
  have ends := le_exponent_of_roundedTo positive rounded nonzero
  have low := Decimal.ten_zpow_le_units inside (ten_zpow_leading_le positive)
  have high : (x.units place : Rat) * (10 : Rat) ^ place ≤
      (10 : Rat) ^ (x.leading + 1) :=
    Decimal.units_le_ten_zpow (by omega) (lt_ten_zpow_leading positive).le
  rcases leading_of_reads nonzero reads low high with ⟨-, carried, ends'⟩ | ⟨-, same⟩
  · exact ⟨nonzero, by omega, by omega, by omega⟩
  · exact ⟨nonzero, by omega, by omega, by omega⟩

/-- Moving the point of a shortest decimal behind its leading digit breaks no limit and drops no
digit. -/
private theorem shifted_leading (positive : 0 < x.size) :
    (Decimal.shortest x).shifted (-x.leading) =
      .ok ⟨(Decimal.shortest x).negative, (Decimal.shortest x).coefficient,
        (Decimal.shortest x).exponent + -x.leading⟩ := by
  have digits := Decimal.digitCount_shortest_le positive
  have lower := Decimal.neg_324_le_shortest_exponent positive
  have above := exponent_le_leading x
  have highest := leading_le x
  have near : ¬ Decimal.shiftLimit < (-x.leading).natAbs := by
    simp only [Decimal.shiftLimit, Decimal.leadingLimit, Decimal.digitLimit]
    omega
  have whole : digitCount (Decimal.shortest x).coefficient - Decimal.digitLimit = 0 :=
    Nat.sub_eq_zero_of_le (digits.trans (by decide))
  rw [Decimal.shifted, if_neg near]
  simp only [Decimal.limited, whole, if_true]
  rw [if_neg]
  simp only [leading, Decimal.leading, Decimal.leadingLimit] at highest ⊢
  omega

/-- The mantissa of a double at its leading digit is the double that its shortest decimal is read as
once the point is moved behind that digit. -/
theorem exists_mantissa (positive : 0 < x.size) :
    ∃ m : Finite, x.mantissa x.leading = .ok (.finite m) ∧ m.negative = x.negative ∧
      1 ≤ m.size ∧ m.Reads ((Decimal.shortest x).size * (10 : Rat) ^ (-x.leading)) := by
  have unit := ten_zpow_pos (-x.leading)
  have low := mul_le_mul_of_nonneg_right (ten_zpow_leading_le positive) unit.le
  have high := mul_lt_mul_of_pos_right (lt_ten_zpow_leading positive) unit
  rw [← ten_zpow_add, add_neg_cancel, zpow_zero] at low
  rw [← ten_zpow_add, show x.leading + 1 + -x.leading = 1 by ring, zpow_one] at high
  have nonneg := zero_le_one.trans low
  have size : (⟨(Decimal.shortest x).negative, (Decimal.shortest x).coefficient,
      (Decimal.shortest x).exponent + -x.leading⟩ : Decimal).size =
        (Decimal.shortest x).size * (10 : Rat) ^ (-x.leading) := by
    simp only [Decimal.size, ten_zpow_add, mul_assoc]
  rcases ofSize_spec (Decimal.shortest x).negative nonneg with ⟨m, found, sign, rounded⟩ | ⟨-, limit⟩
  · refine ⟨m, ?_, sign.trans (Decimal.shortest_negative x), ?_, rounded.symm⟩
    · rw [mantissa, shifted_leading positive, Except.map, Decimal.nearest_eq, size, found]
    · have one := roundedSize_mono zero_le_one low
      rwa [← rounded, roundedSize_eq_self ⟨1, 0, by norm_num, by norm_num, by norm_num⟩] at one
  · -- below ten there is no overflow
    have bound := roundedSize_le_two_mul nonneg
    have small : (2 : Rat) ^ (5 : Int) ≤ sizeLimit := two_zpow_le (by norm_num)
    norm_num at small
    linarith

end SignificantFigures.Double.Finite
