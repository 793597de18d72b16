import SignificantFigures.Double.Text
import SignificantFigures.Proofs.Decimal.Shortest
import SignificantFigures.Proofs.Numeral.Digits

/-!
The positional text of a decimal is that of a number with the point among its digits, and the number
in its place is the size of the decimal. The plain text puts the sign in front of it unless the
decimal is zero, and behind its point there is no zero at the end; that of a double keeps all digits
of its shortest decimal.
-/

set_option autoImplicit false

namespace SignificantFigures.Decimal

open Rational

theorem exists_positional (d : Decimal) : ∃ n places : Nat,
    d.positional = pointed (Nat.toDigits 10 n) places ∧
      (n : Rat) * (10 : Rat) ^ (-(places : Int)) = d.size ∧
      (places ≠ 0 → n = d.coefficient ∧ d.exponent ≠ 0) := by
  rcases le_or_gt 0 d.exponent with whole | below
  · obtain ⟨power, power_eq⟩ := Int.eq_ofNat_of_zero_le whole
    refine ⟨d.coefficient * 10 ^ power, 0, ?_, ?_, fun pointed => absurd rfl pointed⟩
    · rw [positional, if_pos whole, power_eq, Int.toNat_natCast, pointed, if_pos rfl]
      by_cases zero : d.coefficient = 0
      · rw [if_pos zero, zero, Nat.zero_mul]
        rfl
      · rw [if_neg zero, Numeral.toDigits_mul_pow zero, digits]
    · rw [size, power_eq]
      simp
  · obtain ⟨places, places_eq⟩ := Int.eq_ofNat_of_zero_le (neg_nonneg.mpr below.le)
    refine ⟨d.coefficient, places, ?_, ?_, fun _ => ⟨rfl, below.ne⟩⟩
    · rw [positional, if_neg (not_le.mpr below), places_eq, Int.toNat_natCast, digits]
    · rw [size, ← places_eq, neg_neg]

/-- The plain text of a decimal within the limit of digits. -/
theorem exists_plainText {d : Decimal} (short : digitCount d.coefficient ≤ digitLimit) :
    ∃ n places : Nat,
      d.plainText = (Numeral.placed (d.negative && d.coefficient != 0) n places none).text ∧
        (n : Rat) * (10 : Rat) ^ (-(places : Int)) = d.size ∧ (places ≠ 0 → n % 10 ≠ 0) := by
  have whole : d.limited digitLimit = d := by
    rw [limited, if_pos (Nat.sub_eq_zero_of_le short)]
  have nonzero : (d.reduced.coefficient != 0) = (d.coefficient != 0) := by
    rw [Bool.eq_iff_iff, bne_iff_ne, bne_iff_ne, ← size_pos_iff, reduced_size, size_pos_iff]
  obtain ⟨n, places, text, size, last⟩ := d.reduced.exists_positional
  refine ⟨n, places, ?_, size.trans d.reduced_size, ?_⟩
  · simp only [plainText, whole]
    rw [reduced_negative, nonzero, text, Numeral.text_placed_none]
  · intro pointed
    obtain ⟨rfl, moved⟩ := last pointed
    exact reduced_coefficient_mod_ten_ne_zero fun zero =>
      moved (reduced_exponent_of_coefficient_eq_zero zero)

end SignificantFigures.Decimal

namespace SignificantFigures.Double.Finite

open Rational

/-- The plain text of a double has its sign unless it is zero, and the number in it is the shortest
decimal of the double. -/
theorem exists_plainText (x : Finite) : ∃ n places : Nat,
    (finite x).plainText = (Numeral.placed (x.negative && !x.isZero) n places none).text ∧
      (n : Rat) * (10 : Rat) ^ (-(places : Int)) = (Decimal.shortest x).size ∧
      (places ≠ 0 → n % 10 ≠ 0) := by
  have short : digitCount (Decimal.shortest x).coefficient ≤ Decimal.digitLimit := by
    rcases x.size_nonneg.eq_or_lt with zero | positive
    · rw [Decimal.shortest_of_size_eq_zero zero.symm]
      show digitCount 0 ≤ _
      decide
    · exact (Decimal.digitCount_shortest_le positive).trans (by decide)
  have nonzero : ((Decimal.shortest x).coefficient != 0) = !x.isZero := by
    cases filled : x.isZero with
    | true =>
      rw [Decimal.shortest_of_size_eq_zero (isZero_iff.mp filled)]
      rfl
    | false =>
      rw [bne_iff_ne.mpr (Decimal.shortest_coefficient_ne_zero (isZero_eq_false_iff.mp filled))]
      rfl
  have written := Decimal.exists_plainText short
  rwa [Decimal.shortest_negative, nonzero] at written

end SignificantFigures.Double.Finite
