import SignificantFigures.Proofs.Decimal.Nearest
import SignificantFigures.Proofs.Double.Range

/-!
The double that a size is rounded to is determined by what it is asked to be: as close to the size
as any finite double, and of even significand where another is as close. From the end of the range on
it is infinite.
-/

set_option autoImplicit false

namespace SignificantFigures.Double

open Rational

/-- A finite double whose size is as close to the given one as that of any, and whose significand is
even if one of another size is as close. -/
structure IsNearest (q : Rat) (x : Finite) : Prop where
  closest : ∀ z : Finite, |x.size - q| ≤ |z.size - q|
  even : ∀ z : Finite, z.size ≠ x.size → |z.size - q| = |x.size - q| → x.significand % 2 = 0

/-- A size has one form: with a significand that fills 53 bits or with the least exponent. -/
theorem Finite.significand_eq {x : Finite} {significand : Nat} {exponent : Int}
    (bound : significand < 9007199254740992) (least : -1074 ≤ exponent)
    (full : exponent ≠ -1074 → 4503599627370496 ≤ significand)
    (size : x.size = (significand : Rat) * (2 : Rat) ^ exponent) :
    x.significand = significand := by
  have limited : 4503599627370496 ≤ significand → exponent ≤ 971 := by
    intro filled
    by_contra past
    have filled' : (4503599627370496 : Rat) ≤ significand := by exact_mod_cast filled
    have below := x.size_lt_sizeLimit
    rw [size] at below
    have power := two_zpow_le (show (972 : Int) ≤ exponent by omega)
    have : sizeLimit ≤ (significand : Rat) * (2 : Rat) ^ exponent :=
      calc sizeLimit = 4503599627370496 * (2 : Rat) ^ (972 : Int) := by
            rw [← two_zpow_52, ← two_zpow_add]
            rfl
        _ ≤ (significand : Rat) * (2 : Rat) ^ exponent := by gcongr
    linarith
  have canonical : Canonical significand exponent := by
    unfold Canonical
    omega
  have same : x = ⟨x.negative, significand, exponent, canonical⟩ := eq_of_size rfl size
  rw [same]

section Nearest

variable {q : Rat} {x : Finite} {k : Int}

/-- A multiple of the spacing that a size can round to has the parity of the significand. -/
theorem significand_mod_two (nonneg : 0 ≤ q)
    (near : |(k : Rat) - q / (2 : Rat) ^ spacing q| ≤ 1 / 2)
    (size : x.size = k * (2 : Rat) ^ spacing q) : (x.significand : Int) % 2 = k % 2 := by
  obtain ⟨low, high, filled⟩ := bounds_of_near nonneg near
  have least := le_spacing q
  obtain ⟨n, rfl⟩ := Int.eq_ofNat_of_zero_le low
  rcases high.lt_or_eq with small | full
  · have significand : x.significand = n :=
      Finite.significand_eq (by omega) least (fun above => by omega) (by exact_mod_cast size)
    rw [significand]
  · -- all 53 bits are filled up: the form has half of it at the next exponent
    have half : x.size = (4503599627370496 : Nat) * (2 : Rat) ^ (spacing q + 1) := by
      rw [size, full, two_zpow_add]
      push_cast
      ring
    have significand : x.significand = 4503599627370496 :=
      Finite.significand_eq (by norm_num) (by omega) (fun _ => le_rfl) half
    omega

/-- A size as close as the rounded one and different from it stands at the other end of a tie. -/
theorem exists_multiple_of_tie {w : Rat} (nonneg : 0 ≤ q) (held : Representable w)
    (other : w ≠ roundedSize q) (tie : |w - q| = |roundedSize q - q|) :
    ∃ k : Int, w = k * (2 : Rat) ^ spacing q ∧
      |(k : Rat) - q / (2 : Rat) ^ spacing q| ≤ 1 / 2 ∧
      halfEven (q / (2 : Rat) ^ spacing q) % 2 = 0 ∧ k % 2 = 1 := by
  rcases held.multiple_or_below nonneg with ⟨k, rfl⟩ | ⟨below, start⟩
  · have apart : k ≠ halfEven (q / (2 : Rat) ^ spacing q) := fun equal => other (by rw [equal]; rfl)
    have near : |(k : Rat) - q / (2 : Rat) ^ spacing q| ≤ 1 / 2 := by
      unfold roundedSize at tie
      rw [abs_multiple_sub, abs_multiple_sub] at tie
      exact (mul_right_cancel₀ (two_zpow_pos _).ne' tie).trans_le (abs_halfEven_sub_le _)
    exact ⟨k, rfl, near, halfEven_of_tie near apart⟩
  · exact absurd tie (abs_roundedSize_sub_lt below start).ne'

/-- The double of the rounded size is the nearest one. -/
theorem isNearest_of_size (nonneg : 0 ≤ q) (rounded : x.size = roundedSize q) : IsNearest q x := by
  constructor
  · intro z
    rw [rounded]
    exact abs_roundedSize_sub_le nonneg (representable_size z)
  · intro z other tie
    rw [rounded] at other tie
    obtain ⟨-, -, -, even, -⟩ := exists_multiple_of_tie nonneg (representable_size z) other tie
    have parity := significand_mod_two nonneg (abs_halfEven_sub_le _) rounded
    omega

/-- There is no nearest double but that of the rounded size. -/
theorem IsNearest.size_eq (nearest : IsNearest q x) (nonneg : 0 ≤ q) (inside : q < rangeEnd) :
    x.size = roundedSize q := by
  by_contra other
  obtain ⟨y, found⟩ := exists_ofSize_eq_finite false nonneg inside
  have size := ((ofSize_eq_finite_iff nonneg).mp found).2
  have tie : |x.size - q| = |roundedSize q - q| :=
    le_antisymm (size ▸ nearest.closest y) (abs_roundedSize_sub_le nonneg (representable_size x))
  obtain ⟨k, multiple, near, -, odd⟩ :=
    exists_multiple_of_tie nonneg (representable_size x) other tie
  have parity := significand_mod_two nonneg near multiple
  have even := nearest.even y (fun same => other (same.symm.trans size)) (by rw [size, tie])
  omega

/-- The double that a size is rounded to inside the range. -/
theorem ofSize_eq_finite_iff_isNearest {negative : Bool} (nonneg : 0 ≤ q) (inside : q < rangeEnd) :
    ofSize negative q = .finite x ↔ x.negative = negative ∧ IsNearest q x := by
  rw [ofSize_eq_finite_iff nonneg]
  constructor
  · rintro ⟨sign, size⟩
    exact ⟨sign, isNearest_of_size nonneg size⟩
  · rintro ⟨sign, nearest⟩
    exact ⟨sign, nearest.size_eq nonneg inside⟩

end Nearest

end SignificantFigures.Double

namespace SignificantFigures.Decimal

open Double (rangeEnd IsNearest)

/-- The double that a decimal is correctly rounded to, with its sign: the nearest finite one inside the
range, and the infinite one from the end of the range on. -/
inductive RoundsTo (d : Decimal) : Double → Prop
  | finite {x : Double.Finite} (inside : d.size < rangeEnd) (sign : x.negative = d.negative)
      (nearest : IsNearest d.size x) : RoundsTo d (.finite x)
  | infinite (past : rangeEnd ≤ d.size) : RoundsTo d (.infinite d.negative)

theorem nearest_eq_iff_roundsTo {d : Decimal} {z : Double} : d.nearest = z ↔ d.RoundsTo z := by
  have nonneg := d.size_nonneg
  rw [nearest_eq]
  rcases lt_or_ge d.size rangeEnd with inside | past
  · constructor
    · rintro rfl
      obtain ⟨x, found⟩ := Double.exists_ofSize_eq_finite d.negative nonneg inside
      obtain ⟨sign, nearest⟩ := (Double.ofSize_eq_finite_iff_isNearest nonneg inside).mp found
      rw [found]
      exact .finite inside sign nearest
    · rintro (⟨-, sign, nearest⟩ | past)
      · exact (Double.ofSize_eq_finite_iff_isNearest nonneg inside).mpr ⟨sign, nearest⟩
      · exact absurd inside (not_lt.mpr past)
  · rw [Double.ofSize_eq_infinite d.negative past]
    constructor
    · rintro rfl
      exact .infinite past
    · rintro (⟨inside, -, -⟩ | -)
      · exact absurd inside (not_lt.mpr past)
      · rfl

end SignificantFigures.Decimal
