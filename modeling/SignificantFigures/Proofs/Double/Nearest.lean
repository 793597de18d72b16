import SignificantFigures.Proofs.Double.RoundedSize

/-!
The nearest double to a size: the finite double of the rounded size where there is one, and infinity
from the end of the range on. A finite double is determined by its sign and its size.
-/

set_option autoImplicit false

namespace SignificantFigures.Double

open Rational

private theorem size_lt_of_exponent_lt {x y : Finite} (h : x.exponent < y.exponent) :
    x.size < y.size := by
  have least := y.canonical
  have bound : x.significand < 9007199254740992 := by
    rcases x.canonical with ⟨small, -⟩ | ⟨-, small, -⟩
    · exact small.trans (by norm_num)
    · exact small
  have above : -1074 ≤ x.exponent := by
    rcases x.canonical with ⟨-, equal⟩ | ⟨-, -, low, -⟩
    · exact equal.ge
    · exact low
  have full : 4503599627370496 ≤ y.significand := by
    rcases y.canonical with ⟨-, equal⟩ | ⟨low, -⟩
    · omega
    · exact low
  have unit := two_zpow_pos x.exponent
  have bound' : (x.significand : Rat) < 9007199254740992 := by exact_mod_cast bound
  have full' : (4503599627370496 : Rat) ≤ y.significand := by exact_mod_cast full
  unfold Finite.size
  calc (x.significand : Rat) * (2 : Rat) ^ x.exponent
      < 9007199254740992 * (2 : Rat) ^ x.exponent := by gcongr
    _ = 4503599627370496 * (2 : Rat) ^ (x.exponent + 1) := by
        rw [two_zpow_add, zpow_one]
        ring
    _ ≤ (y.significand : Rat) * (2 : Rat) ^ y.exponent := by
        have := two_zpow_le (show x.exponent + 1 ≤ y.exponent by omega)
        gcongr

namespace Finite

theorem size_nonneg (x : Finite) : 0 ≤ x.size :=
  (representable_size x).nonneg

/-- Sign and size determine a finite double. -/
theorem eq_of_size {x y : Finite} (sign : x.negative = y.negative) (size : x.size = y.size) :
    x = y := by
  have exponent : x.exponent = y.exponent := by
    rcases lt_trichotomy x.exponent y.exponent with below | equal | above
    · exact absurd size (size_lt_of_exponent_lt below).ne
    · exact equal
    · exact absurd size (size_lt_of_exponent_lt above).ne'
  have significand : x.significand = y.significand := by
    have unit := two_zpow_pos x.exponent
    unfold Finite.size at size
    rw [← exponent] at size
    exact_mod_cast mul_right_cancel₀ unit.ne' size
  cases x
  cases y
  cases sign
  cases exponent
  cases significand
  rfl

theorem isZero_iff {x : Finite} : x.isZero = true ↔ x.size = 0 := by
  have unit := two_zpow_pos x.exponent
  simp [isZero, size, unit.ne']

theorem isZero_eq_false_iff {x : Finite} : x.isZero = false ↔ 0 < x.size := by
  rw [← Bool.not_eq_true, isZero_iff, ← ne_eq, x.size_nonneg.lt_iff_ne']

@[simp] theorem size_zero (negative : Bool) : (zero negative).size = 0 := by
  simp [zero, size]

end Finite

/-- The size of the first power of two past the range of finite doubles. -/
def sizeLimit : Rat := (2 : Rat) ^ (1024 : Int)

theorem Finite.size_lt_sizeLimit (x : Finite) : x.size < sizeLimit := by
  have unit := two_zpow_pos x.exponent
  have bound : (x.significand : Rat) < 9007199254740992 ∧ x.exponent ≤ 971 := by
    rcases x.canonical with ⟨small, least⟩ | ⟨-, small, -, greatest⟩
    · exact ⟨by exact_mod_cast small.trans (by norm_num), by omega⟩
    · exact ⟨by exact_mod_cast small, greatest⟩
  calc (x.significand : Rat) * (2 : Rat) ^ x.exponent
      < 9007199254740992 * (2 : Rat) ^ x.exponent := by gcongr; exact bound.1
    _ ≤ 9007199254740992 * (2 : Rat) ^ (971 : Int) := by
        have := two_zpow_le bound.2
        gcongr
    _ = sizeLimit := by rw [← two_zpow_53, ← two_zpow_add]; rfl

private theorem pack_spec (negative : Bool) {significand : Nat} {exponent : Int}
    (form : (significand < 4503599627370496 ∧ exponent = -1074) ∨
      (4503599627370496 ≤ significand ∧ significand < 9007199254740992 ∧ -1074 ≤ exponent)) :
    (∃ x : Finite, pack negative significand exponent = .finite x ∧ x.negative = negative ∧
      x.size = (significand : Rat) * (2 : Rat) ^ exponent) ∨
    (pack negative significand exponent = .infinite negative ∧
      sizeLimit ≤ (significand : Rat) * (2 : Rat) ^ exponent) := by
  unfold pack
  split
  · next canonical => exact Or.inl ⟨⟨negative, significand, exponent, canonical⟩, rfl, rfl, rfl⟩
  · next excluded =>
    have large : 4503599627370496 ≤ significand ∧ 972 ≤ exponent := by
      unfold Canonical at excluded
      omega
    have large' : (4503599627370496 : Rat) ≤ significand := by exact_mod_cast large.1
    refine Or.inr ⟨rfl, ?_⟩
    calc sizeLimit = 4503599627370496 * (2 : Rat) ^ (972 : Int) := by
          rw [← two_zpow_52, ← two_zpow_add]
          rfl
      _ ≤ (significand : Rat) * (2 : Rat) ^ exponent := by
        have := two_zpow_le large.2
        gcongr

/-- The nearest double to a size is the finite one of the rounded size, or infinite past the range.
-/
theorem ofSize_spec (negative : Bool) {q : Rat} (nonneg : 0 ≤ q) :
    (∃ x : Finite, ofSize negative q = .finite x ∧ x.negative = negative ∧
      x.size = roundedSize q) ∨
    (ofSize negative q = .infinite negative ∧ sizeLimit ≤ roundedSize q) := by
  obtain ⟨low, high, full⟩ := significand_bounds nonneg
  have least := le_spacing q
  unfold ofSize roundedSize
  dsimp only
  generalize halfEven (q / (2 : Rat) ^ spacing q) = significand at low high full ⊢
  obtain ⟨n, rfl⟩ := Int.eq_ofNat_of_zero_le low
  rw [Int.toNat_natCast, Int.cast_natCast]
  split
  · next filled =>
    have half : ((4503599627370496 : Nat) : Rat) * (2 : Rat) ^ (spacing q + 1) =
        (n : Rat) * (2 : Rat) ^ spacing q := by
      rw [filled, two_zpow_add, zpow_one]
      push_cast
      ring
    rw [← half]
    exact pack_spec negative (by omega)
  · exact pack_spec negative (by omega)

theorem ofSize_eq_finite_iff {negative : Bool} {q : Rat} (nonneg : 0 ≤ q) {x : Finite} :
    ofSize negative q = .finite x ↔ x.negative = negative ∧ x.size = roundedSize q := by
  rcases ofSize_spec negative nonneg with ⟨y, found, sign, size⟩ | ⟨found, limit⟩
  · rw [found, Double.finite.injEq]
    constructor
    · rintro rfl
      exact ⟨sign, size⟩
    · rintro ⟨sign', size'⟩
      exact Finite.eq_of_size (sign.trans sign'.symm) (size.trans size'.symm)
  · rw [found]
    constructor
    · exact fun h => nomatch h
    · rintro ⟨-, size⟩
      exact absurd (size ▸ x.size_lt_sizeLimit) (not_lt.mpr limit)

theorem ofSize_eq_infinite_iff {negative sign : Bool} {q : Rat} (nonneg : 0 ≤ q) :
    ofSize negative q = .infinite sign ↔ sign = negative ∧ sizeLimit ≤ roundedSize q := by
  rcases ofSize_spec negative nonneg with ⟨y, found, -, size⟩ | ⟨found, limit⟩
  · rw [found]
    constructor
    · exact fun h => nomatch h
    · rintro ⟨-, limit⟩
      exact absurd (size ▸ y.size_lt_sizeLimit) (not_lt.mpr limit)
  · rw [found, Double.infinite.injEq, eq_comm]
    exact (and_iff_left limit).symm

/-- A double is the nearest one to its own size. -/
theorem ofSize_size (x : Finite) : ofSize x.negative x.size = .finite x :=
  (ofSize_eq_finite_iff x.size_nonneg).mpr ⟨rfl, (roundedSize_size x).symm⟩

end SignificantFigures.Double
