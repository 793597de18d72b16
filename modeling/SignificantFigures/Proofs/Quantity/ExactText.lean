import SignificantFigures.Proofs.Decimal.Text
import SignificantFigures.Proofs.Expression.Literal
import SignificantFigures.Proofs.Quantity.DisplayForm
import SignificantFigures.Proofs.Quantity.Literal
import SignificantFigures.Quantity.Construction

/-!
The text of an exact quantity, for every finite double. It is the shortest decimal of the magnitude
with the point in its place, without a superfluous character, and the mark behind it. Read as a
literal and cut as an expression it stands for the same quantity; a zero loses its sign.
-/

set_option autoImplicit false

namespace SignificantFigures

open Numeral Expression

namespace Quantity

variable {m : Double.Finite} {n places : Nat}

/-- The numeral of the shortest decimal of a double, without a sign on zero, is read as the double;
of the two zeros it is read as the one without a sign. -/
private theorem exists_nearest
    (size : (n : Rat) * (10 : Rat) ^ (-(places : Int)) = (Decimal.shortest m).size) :
    ∃ v, (placed (m.negative && !m.isZero) n places none).value.nearest = .finite v ∧
      v.same m = true ∧ (m.isZero = false → v = m) := by
  have nearest : (placed (m.negative && !m.isZero) n places none).value.nearest =
      Double.ofSize (m.negative && !m.isZero) (Decimal.shortest m).size := by
    rw [Decimal.nearest_eq, placed_value, ← size, Decimal.size]
    simp
  rw [nearest]
  cases zero : m.isZero with
  | true =>
    refine ⟨.zero false, ?_, Double.Finite.same_of_isZero rfl zero, Bool.noConfusion⟩
    rw [Decimal.shortest_of_size_eq_zero (Double.Finite.isZero_iff.mp zero), Bool.not_true,
      Bool.and_false, Decimal.size, Nat.cast_zero, zero_mul]
    decide +kernel
  | false =>
    refine ⟨m, ?_, m.same_refl, fun _ => rfl⟩
    rw [Bool.not_false, Bool.and_true, ← Decimal.shortest_negative, ← Decimal.nearest_eq]
    exact Decimal.nearest_shortest m

/-- The mantissa of the plain text with the mark behind it, where there is no sign. -/
private theorem tokens?_plain [PowersOfTen] {m : Mantissa} (wf : m.WellFormed) {q : Quantity}
    (read : ofLiteral? (m.text ++ [exactMark]) = some q) :
    tokens? (m.text ++ [exactMark]) =
      .ok [⟨.quantity, 0, m.text ++ [exactMark], .quantity q⟩] := by
  have form := QuantityForm.text_ofMantissa m true
  rw [QuantityForm.markText, if_pos rfl] at form
  have cut := QuantityForm.tokens?_text (QuantityForm.wellFormed_ofMantissa wf true)
  rw [form, read] at cut
  exact cut

/-- The exact quantity of a finite double is displayed as the plain text of the double and the mark
of exact numbers. The plain text is a mantissa without a superfluous character, with a minus sign
in front of it just when the value is negative. As a literal the displayed text is read as the same
quantity, the very same unless it is zero, and where the value is not negative the text is cut into
one token for that quantity. -/
theorem exact_reads_back [PowersOfTen] (m : Double.Finite) : ∃ text : List Char,
    buildExact (.double (.finite m)) = .ok (ofExact m) ∧
    Value.plainText (.double (.finite m)) = .ok text ∧
    (∀ style, (ofExact m).display style = .ok (text ++ [exactMark])) ∧
    (∃ mantissa : Mantissa, mantissa.Trimmed ∧
      text = signed (decide (m.value < 0)) mantissa.text) ∧
    ∃ q, ofLiteral? (text ++ [exactMark]) = some q ∧ q.same (ofExact m) = true ∧
      (m.isZero = false → q = ofExact m) ∧
      (0 ≤ m.value → tokens? (text ++ [exactMark]) =
        .ok [⟨.quantity, 0, text ++ [exactMark], .quantity q⟩]) := by
  obtain ⟨n, places, plain, size, last⟩ := m.exists_plainText
  obtain ⟨v, nearest, same, equal⟩ := exists_nearest size
  have wf := placed_wellFormed (m.negative && !m.isZero) n places none
  have read : ofLiteral? ((Double.finite m).plainText ++ [exactMark]) = some (ofExact v) := by
    rw [plain, ofLiteral?_text_append_mark wf, nearest]
  have sign : (m.negative && !m.isZero) = decide (m.value < 0) := by
    rw [Bool.eq_iff_iff, decide_eq_true_iff, Double.Finite.value_neg_iff, Bool.and_eq_true,
      Bool.not_eq_true']
  have text : (Double.finite m).plainText =
      signed (decide (m.value < 0)) (Mantissa.placed (Nat.toDigits 10 n) places).text := by
    rw [plain, text_placed_none, sign, Mantissa.text_placed]
  refine ⟨(Double.finite m).plainText, rfl, rfl, display_exact m,
    ⟨_, Mantissa.trimmed_placed places last, text⟩, ofExact v, read, ?_, ?_, ?_⟩
  · rw [Quantity.same, Bool.and_eq_true]
    exact ⟨same, beq_self_eq_true _⟩
  · exact fun filled => congrArg ofExact (equal filled)
  · intro nonneg
    have unsigned : (Double.finite m).plainText =
        (Mantissa.placed (Nat.toDigits 10 n) places).text := by
      rw [text, decide_eq_false (not_lt.mpr nonneg)]
      rfl
    rw [unsigned] at read ⊢
    exact tokens?_plain wf.mantissa read

/-- The double nearest to a ten-millionth is displayed with seven places, and a zero without its
sign. -/
theorem exact_reads_back_small :
    let small : Double.Finite := ⟨false, 7555786372591432, -76, by decide⟩
    (ofExact small).display .letter = .ok "0.0000001c".toList ∧
      tokens? "0.0000001c".toList =
        .ok [⟨.quantity, 0, "0.0000001c".toList, .quantity (ofExact small)⟩] ∧
      ∃ q, ofLiteral? "0c".toList = some q ∧ q.same (ofExact (.zero true)) = true := by
  intro small
  have shown : (Double.finite small).plainText = "0.0000001".toList := by decide +kernel
  have shown_zero : (Double.finite (.zero true)).plainText = "0".toList := by decide +kernel
  obtain ⟨text, -, plain, display, -, q, -, -, equal, cut⟩ := exact_reads_back small
  obtain rfl := (Except.ok.inj plain).symm.trans shown
  obtain ⟨zero, -, plain_zero, -, -, r, read, same, -⟩ := exact_reads_back (.zero true)
  obtain rfl := (Except.ok.inj plain_zero).symm.trans shown_zero
  rw [equal rfl] at cut
  refine ⟨display .letter, cut (by decide +kernel), r, read, same⟩

end Quantity

end SignificantFigures
