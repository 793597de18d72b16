import SignificantFigures.Decade
import SignificantFigures.Proofs.Double.Leading

/-!
The decade of a nonzero double and the place of the leading digit of its shortest decimal: the one is
found by comparing doubles and the other by writing digits. With the nearest doubles as powers of ten
they are the same. Where a power of ten is computed as the double above it, although the nearest one
lies below, that nearest double is overshot, and its decade is one less than the place of its leading
digit.
-/

set_option autoImplicit false

namespace SignificantFigures

open Rational

namespace PowersOfTen

open Decade

/-- Powers of ten that are computed well: each is the nearest double or one above it, and no double
lies between it and the power itself. -/
class Close [PowersOfTen] : Prop where
  nearest_le {k : Int} (bound : k ≤ greatest) :
    Double.roundedSize ((10 : Rat) ^ k) ≤ powerOfTen k
  le_size {k : Int} (bound : k ≤ greatest) {x : Double.Finite} (reached : (10 : Rat) ^ k ≤ x.size) :
    powerOfTen k ≤ x.size

/-- Powers of ten that are the nearest doubles. -/
class Nearest [PowersOfTen] : Prop where
  powerOfTen_eq {k : Int} (bound : k ≤ greatest) :
    powerOfTen k = Double.roundedSize ((10 : Rat) ^ k)

theorem le_size_of_nearest {k : Int} {x : Double.Finite} (reached : (10 : Rat) ^ k ≤ x.size) :
    Double.roundedSize ((10 : Rat) ^ k) ≤ x.size := by
  rw [← Double.roundedSize_size x]
  exact Double.roundedSize_mono (ten_zpow_pos k).le reached

instance [PowersOfTen] [Nearest] : Close where
  nearest_le bound := (Nearest.powerOfTen_eq bound).ge
  le_size bound _ reached := (Nearest.powerOfTen_eq bound).trans_le (le_size_of_nearest reached)

private theorem roundedSize_lt_sizeLimit {k : Int} (bound : k ≤ greatest) :
    Double.roundedSize ((10 : Rat) ^ k) < Double.sizeLimit := by
  have held : Double.Representable (3 * (2 : Rat) ^ (1022 : Int)) :=
    ⟨3, 1022, by norm_num, by norm_num, by norm_num⟩
  have power : (10 : Rat) ^ k ≤ 3 * (2 : Rat) ^ (1022 : Int) :=
    (ten_zpow_le_iff_le.mpr bound).trans Double.Finite.ten_zpow_308_le
  have unit := Double.two_zpow_pos 1022
  calc Double.roundedSize ((10 : Rat) ^ k) ≤ 3 * (2 : Rat) ^ (1022 : Int) := by
        rw [← Double.roundedSize_eq_self held]
        exact Double.roundedSize_mono (ten_zpow_pos k).le power
    _ < 4 * (2 : Rat) ^ (1022 : Int) := mul_lt_mul_of_pos_right (by norm_num) unit
    _ = Double.sizeLimit := by
        rw [show (4 : Rat) = (2 : Rat) ^ (2 : Int) by norm_num, ← Double.two_zpow_add]
        rfl

theorem nearestPower_value {k : Int} (bound : k ≤ greatest) :
    (nearestPower k).value = Double.roundedSize ((10 : Rat) ^ k) := by
  have size : (⟨false, 1, k⟩ : Decimal).size = (10 : Rat) ^ k := by simp [Decimal.size]
  unfold nearestPower
  rw [Decimal.nearest_eq, size]
  rcases Double.ofSize_spec false (ten_zpow_pos k).le with ⟨y, found, sign, rounded⟩ | ⟨-, limit⟩
  · rw [found]
    simp [Double.Finite.value, sign, rounded]
  · exact absurd (roundedSize_lt_sizeLimit bound) (not_lt.mpr limit)

instance : @Nearest nearest :=
  @Nearest.mk nearest nearestPower_value

section Usual

/-- What is usually computed is the nearest double, with two exceptions. -/
private theorem powerOfTen_usual {k : Int} (first : k ≠ 23) (second : k ≠ 210) (bound : k ≤ greatest) :
    powerOfTen k = Double.roundedSize ((10 : Rat) ^ k) := by
  rw [powerOfTen, PowersOfTen.power, usual]
  dsimp only
  rw [if_neg first, if_neg second]
  exact nearestPower_value bound

/-- Where a power of ten lies between a double and the one before it, no smaller double is above the
power. -/
private theorem value_le_size_of_between {k : Int} {p x : Double.Finite} (sign : p.negative = false)
    (full : 4503599627370496 < p.significand)
    (between : ((p.significand : Rat) - 1) * (2 : Rat) ^ p.exponent < (10 : Rat) ^ k)
    (reached : (10 : Rat) ^ k ≤ x.size) : p.value ≤ x.size := by
  rw [Double.Finite.value, sign, if_neg Bool.false_ne_true]
  rcases p.canonical with ⟨small, -⟩ | ⟨-, bound, least, -⟩
  · exact absurd full (by omega)
  · exact (Double.representable_size x).le_of_lt full bound least (between.trans_le reached)

instance : @Close usual where
  nearest_le {k} bound := by
    by_cases first : k = 23
    · subst first
      decide +kernel
    by_cases second : k = 210
    · subst second
      decide +kernel
    exact (powerOfTen_usual first second bound).ge
  le_size {k} bound x reached := by
    by_cases first : k = 23
    · subst first
      exact value_le_size_of_between rfl (by decide) (by decide +kernel) reached
    by_cases second : k = 210
    · subst second
      exact value_le_size_of_between rfl (by decide) (by decide +kernel) reached
    exact (powerOfTen_usual first second bound).trans_le (le_size_of_nearest reached)

end Usual

end PowersOfTen

namespace Decade

variable [PowersOfTen]

/-- One step takes an estimate to a decade just when it is at most one off: to the one decade up to
which the powers of ten are not above the size. -/
theorem stepped_eq_iff {estimate decade : Int} {size : Rat} (bound : estimate ≤ greatest)
    (highest : decade ≤ greatest)
    (reaches : ∀ k ≤ greatest, powerOfTen k ≤ size ↔ k ≤ decade) :
    stepped estimate size = decade ↔ |estimate - decade| ≤ 1 := by
  have own := reaches estimate bound
  unfold stepped
  rw [abs_le]
  split_ifs with up down
  · rw [reaches (estimate + 1) (by omega)] at up
    omega
  · rw [← not_le, own] at down
    omega
  · rw [not_lt, own] at down
    rcases bound.eq_or_lt with last | inside
    · omega
    · rw [not_and, reaches (estimate + 1) (by omega)] at up
      have := up inside
      omega

end Decade

namespace Double.Finite

open Decade PowersOfTen

variable [PowersOfTen] {x : Finite}

theorem decade_of_size_eq_zero (zero : x.size = 0) : x.decade = 0 := by
  unfold decade
  rw [isZero_iff.mpr zero]
  rfl

/-- The sign of a double has no part in its decade. -/
theorem decade_congr {y : Finite} (size : x.size = y.size) : x.decade = y.decade := by
  have zero : x.isZero = y.isZero := by
    rw [Bool.eq_iff_iff, isZero_iff, isZero_iff, size]
  rw [decade, decade, zero, size]

/-- A double that lies below what is computed as the power of ten of its leading digit. -/
def Overshot (x : Finite) : Prop :=
  0 < x.size ∧ x.size < powerOfTen x.leading

instance (x : Finite) : Decidable x.Overshot :=
  inferInstanceAs (Decidable (_ ∧ _))

theorem not_overshot_of_size_eq_zero (zero : x.size = 0) : ¬ x.Overshot :=
  fun overshot => overshot.1.ne' zero

theorem not_overshot [Nearest] (x : Finite) : ¬ x.Overshot := by
  rintro ⟨positive, above⟩
  rw [Nearest.powerOfTen_eq x.leading_le, ← not_le] at above
  exact above ((roundedSize_ten_zpow_le_iff positive).mpr le_rfl)

section Close

variable [Close]

/-- The exponents whose powers of ten, as they are computed, are not above a double. -/
private theorem powerOfTen_le_size_iff {k : Int} (positive : 0 < x.size) (bound : k ≤ greatest) :
    powerOfTen k ≤ x.size ↔ k ≤ if x.Overshot then x.leading - 1 else x.leading := by
  have other : k < x.leading → powerOfTen k ≤ x.size := by
    intro below
    refine Close.le_size bound ?_
    have close := leading_close positive
    have step : (10 : Rat) ^ (k + 1) ≤ (10 : Rat) ^ x.leading := ten_zpow_le_iff_le.mpr below
    have unit := ten_zpow_pos k
    rw [ten_zpow_add, zpow_one] at step
    linarith
  have reaches (reached : powerOfTen k ≤ x.size) : k ≤ x.leading :=
    (roundedSize_ten_zpow_le_iff positive).mp ((Close.nearest_le bound).trans reached)
  split_ifs with overshot
  · refine ⟨fun reached => ?_, fun below => other (by omega)⟩
    rcases (reaches reached).eq_or_lt with rfl | below
    · exact absurd reached (not_le.mpr overshot.2)
    · omega
  · refine ⟨reaches, fun below => ?_⟩
    rcases below.eq_or_lt with rfl | below
    · exact not_lt.mp fun above => overshot ⟨positive, above⟩
    · exact other below

/-- The decade is the place of the leading digit, or one less where the double is overshot. -/
theorem decade_eq (x : Finite) : x.decade = if x.Overshot then x.leading - 1 else x.leading := by
  rcases x.size_nonneg.eq_or_lt with zero | positive
  · rw [decade_of_size_eq_zero zero.symm, leading_of_size_eq_zero zero.symm,
      if_neg (not_overshot_of_size_eq_zero zero.symm)]
  · have highest := x.leading_le
    unfold decade
    rw [isZero_eq_false_iff.mpr positive, if_neg Bool.false_ne_true, Decade.ofSize,
      stepped_eq_iff (decimalOrder_le positive) ?_ fun k bound =>
        powerOfTen_le_size_iff positive bound, abs_le]
    · rcases Decimal.shortest_leading positive with ⟨-, found⟩ | ⟨reads, found⟩
      · split_ifs <;> rw [leading, found] <;> omega
      · split_ifs <;> rw [leading, found] <;> omega
    · split_ifs <;> unfold greatest <;> omega

theorem decade_eq_leading (reached : ¬ x.Overshot) : x.decade = x.leading := by
  rw [decade_eq, if_neg reached]

theorem Overshot.decade_eq (overshot : x.Overshot) : x.decade = x.leading - 1 := by
  rw [Finite.decade_eq, if_pos overshot]

theorem decade_le_leading (x : Finite) : x.decade ≤ x.leading := by
  rw [decade_eq]
  split_ifs <;> omega

theorem leading_sub_one_le_decade (x : Finite) : x.leading - 1 ≤ x.decade := by
  rw [decade_eq]
  split_ifs <;> omega

theorem decade_le (x : Finite) : x.decade ≤ 308 :=
  x.decade_le_leading.trans x.leading_le

namespace Overshot

variable (overshot : x.Overshot)

include overshot

/-- An overshot double lies below the power of ten of its leading digit. -/
theorem size_lt : x.size < (10 : Rat) ^ x.leading := by
  by_contra reached
  exact absurd overshot.2 (not_lt.mpr (Close.le_size x.leading_le (not_lt.mp reached)))

theorem reads : x.Reads ((10 : Rat) ^ x.leading) :=
  x.reads_size.between (Decimal.reads_shortest overshot.1) x.size_nonneg overshot.size_lt.le
    (ten_zpow_leading_le overshot.1)

/-- The shortest decimal of an overshot double is the power of ten itself. -/
theorem shortest_eq : Decimal.shortest x = ⟨x.negative, 1, x.leading⟩ := by
  have order : decimalOrder x.size < x.leading := (lt_ten_zpow_iff overshot.1 _).mp overshot.size_lt
  have next : decimalOrder x.size + 1 = x.leading := by
    rcases Decimal.shortest_leading overshot.1 with ⟨-, found⟩ | ⟨-, found⟩
    · exact found.symm
    · exact absurd order (by rw [leading, found]; exact lt_irrefl _)
  rw [Decimal.shortest_of_reads_power overshot.1 (next ▸ overshot.reads), next]

theorem shortest_exponent : (Decimal.shortest x).exponent = x.leading := by
  rw [overshot.shortest_eq]

end Overshot

theorem neg_324_le_decade (x : Finite) : -324 ≤ x.decade := by
  have lowest := x.neg_324_le_leading
  rw [decade_eq]
  split_ifs with overshot
  · -- the least double is above its power of ten
    refine Int.le_sub_one_of_lt (lt_of_le_of_ne lowest fun least => ?_)
    have above := overshot.size_lt
    have held := (representable_size x).least_le overshot.1
    rw [← least] at above
    exact absurd (held.trans_lt above) (not_lt.mpr ten_zpow_324_lt.le)
  · exact lowest

end Close

end Double.Finite

end SignificantFigures
