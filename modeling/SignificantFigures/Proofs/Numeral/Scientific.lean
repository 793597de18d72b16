import SignificantFigures.Proofs.Numeral.Digits

/-!
Numbers in scientific form: figures with the point behind the first one, and an exponent that may
have a sign. All figures count, also where there is only one and no point. A ten with the point
behind it is no such number, and its zero counts only where there is a point.
-/

set_option autoImplicit false

namespace SignificantFigures.Numeral

open Rational

/-- The figures of a number in scientific form: the first is not zero, and the point stands behind
it unless it is the only one. -/
structure Significand where
  first : Char
  rest : List Char
  figure : first.isDigit = true ∧ first ≠ '0'
  digits : ∀ c ∈ rest, c.isDigit = true

namespace Significand

variable (s : Significand)

def text : List Char :=
  s.first :: if s.rest = [] then [] else '.' :: s.rest

/-- The number of figures. -/
def count : Nat :=
  s.rest.length + 1

/-- The mantissa that it is written as. -/
def mantissa : Mantissa :=
  ⟨[s.first], if s.rest = [] then none else some s.rest⟩

theorem text_mantissa : s.mantissa.text = s.text := by
  unfold mantissa text
  split_ifs
  · exact Mantissa.text_of_none rfl
  · exact Mantissa.text_of_some rfl

theorem digits_mantissa : s.mantissa.digits = s.first :: s.rest := by
  unfold mantissa Mantissa.digits
  split_ifs with single
  · rw [single]
    rfl
  · rfl

theorem mantissa_wellFormed : s.mantissa.WellFormed := by
  rw [Mantissa.WellFormed, digits_mantissa]
  exact ⟨List.cons_ne_nil _ _, List.forall_mem_cons.mpr ⟨s.figure.1, s.digits⟩⟩

theorem dropZeros_digits_mantissa : dropZeros s.mantissa.digits = s.first :: s.rest := by
  rw [digits_mantissa, dropZeros_of_head_ne s.figure.2]

/-- Every digit is a figure. -/
theorem figures_mantissa : s.mantissa.figures = s.first :: s.rest := by
  unfold Mantissa.figures
  rw [dropZeros_digits_mantissa]
  by_cases single : s.rest = []
  · rw [mantissa, if_pos single, single]
    show (dropZeros [s.first]).reverse = _
    rw [dropZeros_of_head_ne s.figure.2]
    rfl
  · rw [mantissa, if_neg single]

/-- The figures are counted, whatever sign stands in front of them. -/
theorem figures?_signed_text (negative : Bool) :
    figures? (signed negative s.text) = some s.count := by
  have nonzero : dropZeros s.mantissa.digits ≠ [] := by
    rw [dropZeros_digits_mantissa]
    exact List.cons_ne_nil _ _
  rw [← text_mantissa, figures?_signed s.mantissa_wellFormed, figures?_text s.mantissa_wellFormed,
    if_neg nonzero, figures_mantissa]
  rfl

/-- Digits with the point behind the first. -/
private theorem pointed_cons (c : Char) (rest : List Char) :
    Decimal.pointed (c :: rest) rest.length = c :: if rest = [] then [] else '.' :: rest := by
  unfold Decimal.pointed
  cases rest with
  | nil => rfl
  | cons d rest => simp

/-- A number with a digit more than there are places behind the point. -/
theorem exists_text_eq {n places : Nat} (nonzero : n ≠ 0) (count : digitCount n = places + 1) :
    ∃ s : Significand, Decimal.pointed (Nat.toDigits 10 n) places = s.text ∧
      s.count = places + 1 := by
  obtain ⟨c, rest, form⟩ := List.exists_cons_of_ne_nil (Nat.toDigits_ne_nil (b := 10) (n := n))
  have figure : c ≠ '0' := head_dropZeros_ne ((dropZeros_toDigits nonzero).trans form)
  have digits : ∀ d ∈ c :: rest, d.isDigit = true := fun d hd =>
    isDigit_of_mem_toDigits (form ▸ hd)
  obtain ⟨digit, digits⟩ := List.forall_mem_cons.mp digits
  have length : rest.length = places := by
    rw [digitCount, form, List.length_cons] at count
    omega
  refine ⟨⟨c, rest, ⟨digit, figure⟩, digits⟩, ?_, congrArg (· + 1) length⟩
  rw [form, ← length]
  exact pointed_cons c rest

end Significand

section Ten

/-- Ten with places behind the point. -/
def tenText (places : Nat) : List Char :=
  '1' :: '0' :: if places = 0 then [] else '.' :: List.replicate places '0'

private theorem toDigits_ten_pow (places : Nat) :
    Nat.toDigits 10 (10 ^ (places + 1)) = '1' :: '0' :: List.replicate places '0' := by
  rw [← one_mul (10 ^ (places + 1)), toDigits_mul_pow one_ne_zero]
  rfl

theorem pointed_ten_pow (places : Nat) :
    Decimal.pointed (Nat.toDigits 10 (10 ^ (places + 1))) places = tenText places := by
  rw [toDigits_ten_pow, Decimal.pointed, tenText]
  split_ifs with none
  · rw [none]
    rfl
  · have whole : places + 2 - places = 2 := by omega
    have filled : places + 1 - (places + 2) = 0 := by omega
    simp [whole, filled]

/-- All digits of ten count where there is a point, and without one only the first. -/
theorem length_figures_ten (places : Nat) :
    (Mantissa.placed (Nat.toDigits 10 (10 ^ (places + 1))) places).figures.length =
      if places = 0 then 1 else places + 2 := by
  rcases Nat.eq_zero_or_pos places with rfl | some
  · decide
  · have nonzero : 10 ^ (places + 1) ≠ 0 := (Nat.pow_pos (by decide)).ne'
    rw [Mantissa.figures_placed places _ nonzero fun none => absurd none some.ne', toDigits_ten_pow,
      if_neg some.ne']
    simp

theorem figures?_signed_tenText (negative : Bool) (places : Nat) :
    figures? (signed negative (tenText places)) = some (if places = 0 then 1 else places + 2) := by
  have wf : (Mantissa.placed (Nat.toDigits 10 (10 ^ (places + 1))) places).WellFormed :=
    Mantissa.placed_wellFormed places Nat.toDigits_ne_nil fun _ => isDigit_of_mem_toDigits
  have filled : dropZeros (Mantissa.placed (Nat.toDigits 10 (10 ^ (places + 1))) places).digits ≠
      [] := by
    rw [Mantissa.dropZeros_digits_placed, dropZeros_toDigits (Nat.pow_pos (by decide)).ne']
    exact Nat.toDigits_ne_nil
  rw [← pointed_ten_pow, ← Mantissa.text_placed, figures?_signed wf, figures?_text wf,
    if_neg filled, length_figures_ten]

end Ten

variable (negative : Bool) (coefficient places : Nat) (exponent : Int)

/-- The numeral of a coefficient with the point before the last `places` digits, and an exponent
with a sign if it is negative. -/
def scientific : Numeral :=
  ⟨Sign.ofNegative negative, Mantissa.placed (Nat.toDigits 10 coefficient) places,
    some ⟨Sign.ofNegative (exponent < 0), Nat.toDigits 10 exponent.natAbs⟩⟩

theorem scientific_wellFormed : (scientific negative coefficient places exponent).WellFormed := by
  constructor
  · exact Mantissa.placed_wellFormed places Nat.toDigits_ne_nil fun _ => isDigit_of_mem_toDigits
  · intro e written
    obtain rfl := Option.some.inj written
    exact ⟨Nat.toDigits_ne_nil, fun _ => isDigit_of_mem_toDigits⟩

theorem text_scientific :
    (scientific negative coefficient places exponent).text =
      (placed negative coefficient places none).text ++ exponentMark :: integerText exponent := by
  rw [integerText, signed_eq (exponent < 0)]
  simp only [text, scientific, placed, Option.map_none, Exponent.text, List.append_nil]

theorem scientific_value :
    (scientific negative coefficient places exponent).value =
      ⟨negative, coefficient, exponent - places⟩ := by
  have size : Exponent.value
      (some ⟨Sign.ofNegative (exponent < 0), Nat.toDigits 10 exponent.natAbs⟩) = exponent := by
    simp only [Exponent.value, Nat.ofDigitChars_ten_toDigits]
    rcases lt_or_ge exponent 0 with below | whole
    · rw [decide_eq_true below, if_pos (by decide)]
      omega
    · rw [decide_eq_false (not_lt.mpr whole), if_neg (by decide)]
      omega
  unfold value scientific
  dsimp only
  rw [size, Sign.decide_ofNegative, Mantissa.ofDigitChars_digits_placed,
    Nat.ofDigitChars_ten_toDigits, Mantissa.placed_fraction_length]

/-- A text in scientific form is read as the double nearest to the number in it. -/
theorem leadingDouble?_scientific :
    leadingDouble?
        ((placed negative coefficient places none).text ++ exponentMark :: integerText exponent) =
      some (⟨negative, coefficient, exponent - places⟩ : Decimal).nearest := by
  rw [← text_scientific, leadingDouble?_text (scientific_wellFormed ..), scientific_value]

end SignificantFigures.Numeral
