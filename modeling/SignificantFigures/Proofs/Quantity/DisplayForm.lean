import SignificantFigures.Proofs.Decimal.Text
import SignificantFigures.Proofs.Expression.QuantityForm
import SignificantFigures.Proofs.Quantity.Shown

/-!
Displayed text is a quantity in an expression, after a minus sign where there is one. The sign is
that of the magnitude, and it is left out where the magnitude is rounded to zero. It is left out as
well where the magnitude is rounded to an overshot double of which no figure is left.
-/

set_option autoImplicit false

namespace SignificantFigures

open Numeral

namespace Expression.QuantityForm

/-- The form of a numeral without its sign. -/
def ofNumeral (n : Numeral) : QuantityForm :=
  ⟨n.mantissa, n.exponent.map Exponent.digits, false⟩

variable {n : Numeral}

theorem wellFormed_ofNumeral (wf : n.WellFormed) : (ofNumeral n).WellFormed := by
  refine ⟨wf.mantissa, ?_⟩
  cases written : n.exponent with
  | none => simp [ofNumeral, written]
  | some e => simpa [ofNumeral, written] using (wf.exponent e written).2

theorem text_ofNumeral {negative : Bool} (sign : n.sign = Sign.ofNegative negative)
    (unsigned : ∀ e, n.exponent = some e → e.sign = none) :
    n.text = signed negative (ofNumeral n).text := by
  rw [signed_eq, ← sign, Numeral.text, QuantityForm.text]
  cases written : n.exponent with
  | none => simp [ofNumeral, written, exponentText, markText, Exponent.text]
  | some e =>
    simp [ofNumeral, written, exponentText, markText, Exponent.text, unsigned e written, Sign.text]

/-- A mantissa, with the mark of exact numbers or without it. -/
def ofMantissa (m : Mantissa) (marked : Bool) : QuantityForm :=
  ⟨m, none, marked⟩

theorem wellFormed_ofMantissa {m : Mantissa} (wf : m.WellFormed) (marked : Bool) :
    (ofMantissa m marked).WellFormed :=
  ⟨wf, by simp [ofMantissa]⟩

theorem text_ofMantissa (m : Mantissa) (marked : Bool) :
    (ofMantissa m marked).text = m.text ++ markText marked := by
  simp [ofMantissa, QuantityForm.text, exponentText]

end Expression.QuantityForm

open Expression

theorem Double.Finite.value_neg_iff {x : Double.Finite} :
    x.value < 0 ↔ x.negative = true ∧ x.isZero = false := by
  rw [Double.Finite.isZero_eq_false_iff, Double.Finite.value]
  have nonneg := x.size_nonneg
  cases x.negative <;> simp [nonneg]

namespace Quantity

/-- An overshot magnitude with a last place above the units that is past its decade, so that it has
no figure although it is not zero. -/
def Vanishes [PowersOfTen] (q : Quantity) : Prop :=
  match q.lastPlace with
  | .exact => False
  | .place place => 0 < place ∧ q.magnitude.decade < place ∧ q.magnitude.Overshot

instance [PowersOfTen] (q : Quantity) : Decidable q.Vanishes :=
  match q with
  | ⟨_, .exact⟩ => isFalse not_false
  | ⟨magnitude, .place place⟩ =>
    inferInstanceAs (Decidable (0 < place ∧ magnitude.decade < place ∧ magnitude.Overshot))

section Form

variable [PowersOfTen] {x r : Quantity} {text : List Char}

/-- A displayed text as a form with a sign in front, for the rounded quantity. -/
private def ShowsForm (r : Quantity) (negative : Bool) (text : List Char) : Prop :=
  ∃ f : QuantityForm, f.WellFormed ∧ text = signed negative f.text ∧
    (r.magnitude.isZero = false → ¬ r.Vanishes → ∃ c ∈ f.mantissa.digits, c ≠ '0') ∧
      (r.Vanishes → text = ['0'])

omit [PowersOfTen] in
private theorem exists_figure {digits : List Char} (figure : dropZeros digits ≠ []) :
    ∃ c ∈ digits, c ≠ '0' := by
  by_contra zeros
  push Not at zeros
  exact figure (dropZeros_eq_nil_iff.mpr zeros)

private theorem showsForm_exact (magnitude : Double.Finite) :
    ShowsForm ⟨magnitude, .exact⟩ (magnitude.negative && !magnitude.isZero)
      ((Double.finite magnitude).plainText ++ [exactMark]) := by
  obtain ⟨n, places, plain, size, -⟩ := magnitude.exists_plainText
  have wf := placed_wellFormed (magnitude.negative && !magnitude.isZero) n places none
  refine ⟨.ofMantissa (.placed (Nat.toDigits 10 n) places) true,
    QuantityForm.wellFormed_ofMantissa wf.mantissa true, ?_, ?_, fun vanishes => vanishes.elim⟩
  · rw [plain, text_placed_none, QuantityForm.text_ofMantissa, Mantissa.text_placed]
    cases magnitude.negative && !magnitude.isZero <;> rfl
  · intro filled _
    have positive := (Decimal.reads_shortest (Double.Finite.isZero_eq_false_iff.mp filled)).pos
      (Double.Finite.isZero_eq_false_iff.mp filled) (Decimal.size_nonneg _)
    rw [← size] at positive
    have nonzero : n ≠ 0 := by
      rintro rfl
      simp at positive
    refine exists_figure ?_
    rw [QuantityForm.ofMantissa, Mantissa.dropZeros_digits_placed, dropZeros_toDigits nonzero]
    exact Nat.toDigits_ne_nil

/-- A single zero stands for a magnitude that is zero or has no figure. -/
private theorem showsForm_digit (none : r.magnitude.isZero = true ∨ r.Vanishes) :
    ShowsForm r false ['0'] := by
  have wf : (⟨['0'], Option.none⟩ : Mantissa).WellFormed :=
    ⟨by decide, List.all_eq_true.mp (by decide)⟩
  refine ⟨.ofMantissa ⟨['0'], Option.none⟩ false, QuantityForm.wellFormed_ofMantissa wf false, rfl,
    fun filled reached => ?_, fun _ => rfl⟩
  rcases none with zero | vanishes
  · exact nomatch zero.symm.trans filled
  · exact absurd vanishes reached

private theorem not_vanishes_of_isZero (zero : r.magnitude.isZero = true) : ¬ r.Vanishes := by
  obtain ⟨magnitude, lastPlace⟩ := r
  cases lastPlace with
  | exact => exact id
  | place place =>
    rintro ⟨-, -, overshot⟩
    exact Double.Finite.not_overshot_of_size_eq_zero (Double.Finite.isZero_iff.mp zero) overshot

variable [PowersOfTen.Close]

private theorem showsForm_shows {v : Double.Finite} {place : Int} {n : Numeral}
    (shown : Shows v place n) (inside : 0 < v.size → place ≤ v.leading)
    (reached : ¬ (⟨v, .place place⟩ : Quantity).Vanishes) :
    ShowsForm ⟨v, .place place⟩ v.negative n.text := by
  refine ⟨.ofNumeral n, QuantityForm.wellFormed_ofNumeral shown.wellFormed,
    QuantityForm.text_ofNumeral shown.sign fun e => shown.sign_exponent, ?_,
    fun vanishes => absurd vanishes reached⟩
  intro filled _
  have positive := Double.Finite.isZero_eq_false_iff.mp filled
  exact exists_figure (shown.figure positive (inside positive))

private theorem showsForm_zero {place : Int}
    (kept : (⟨Double.Finite.zero false, .place place⟩ : Quantity).rounded =
      .ok ⟨Double.Finite.zero false, .place place⟩)
    (shown : display ⟨Double.Finite.zero false, .place place⟩ .letter = .ok text) :
    ShowsForm ⟨Double.Finite.zero false, .place place⟩ false text := by
  rcases exists_shows_zero kept rfl with ⟨n, shows, shown'⟩ | shown'
  · obtain rfl := Except.ok.inj (shown'.symm.trans shown)
    refine showsForm_shows shows (fun positive => ?_) (not_vanishes_of_isZero rfl)
    rw [Double.Finite.size_zero] at positive
    exact absurd positive (lt_irrefl _)
  · obtain rfl := Except.ok.inj (shown'.symm.trans shown)
    exact showsForm_digit (Or.inl rfl)

/-- A nonzero magnitude is shown with its sign, unless it vanishes. -/
private theorem showsForm_positive {v : Double.Finite} {place : Int}
    (kept : (⟨v, .place place⟩ : Quantity).rounded = .ok ⟨v, .place place⟩)
    (positive : 0 < v.size) (inside : place ≤ v.leading)
    (shown : display ⟨v, .place place⟩ .letter = .ok text) :
    ShowsForm ⟨v, .place place⟩
      (v.negative && decide (¬ (⟨v, .place place⟩ : Quantity).Vanishes)) text := by
  by_cases vanishes : (⟨v, .place place⟩ : Quantity).Vanishes
  · have display := display_of_none kept vanishes.1 vanishes.2.1
    obtain rfl := Except.ok.inj (display.symm.trans shown)
    rw [decide_eq_false (not_not.mpr vanishes), Bool.and_false]
    exact showsForm_digit (Or.inr vanishes)
  · have figure : 0 < place → place ≤ v.decade := by
      intro above
      by_contra none
      refine vanishes ⟨above, not_le.mp none, ?_⟩
      by_contra reached
      rw [Double.Finite.decade_eq_leading reached] at none
      exact none inside
    obtain ⟨n, shows, display⟩ := exists_shows kept positive figure
    obtain rfl := Except.ok.inj (display.symm.trans shown)
    rw [decide_eq_true vanishes, Bool.and_true]
    exact showsForm_shows shows (fun _ => inside) vanishes

private theorem showsForm_of_rounded {place : Int} (place_eq : x.lastPlace = .place place)
    (rounded : x.rounded = .ok r) (shown : x.display .letter = .ok text) :
    ShowsForm r
      (decide (x.magnitude.value < 0 ∧ r.magnitude.isZero = false ∧ ¬ r.Vanishes)) text := by
  have kept := rounded_rounded rounded
  rw [← display_rounded rounded] at shown
  obtain ⟨last, form, zero | ⟨nonzero, inside, positive, sign⟩⟩ := rounded_cases place_eq rounded
  · rw [zero] at form
    rw [form] at kept shown ⊢
    have unsigned : decide (x.magnitude.value < 0 ∧
        (Double.Finite.zero false).isZero = false ∧
          ¬ (⟨Double.Finite.zero false, .place last⟩ : Quantity).Vanishes) = false :=
      decide_eq_false fun minus => absurd minus.2.1 (by decide)
    rw [unsigned]
    exact showsForm_zero kept shown
  · have filled := Double.Finite.isZero_eq_false_iff.mpr nonzero
    have negative : decide (x.magnitude.value < 0 ∧ r.magnitude.isZero = false ∧ ¬ r.Vanishes) =
        (r.magnitude.negative && decide (¬ r.Vanishes)) := by
      rw [Bool.eq_iff_iff, decide_eq_true_iff, Double.Finite.value_neg_iff, sign,
        Double.Finite.isZero_eq_false_iff.mpr positive, Bool.and_eq_true, decide_eq_true_iff]
      exact ⟨fun minus => ⟨minus.1.1, minus.2.2⟩, fun minus => ⟨⟨minus.1, rfl⟩, filled, minus.2⟩⟩
    rw [negative]
    rw [form] at kept shown ⊢
    exact showsForm_positive kept nonzero inside shown

/-- Displayed text is a quantity in the syntax of expressions, with a minus sign in front of it just
when the magnitude is negative and is not rounded to zero. The quantity is cut off its text as a
whole, so it has no signed exponent, and it has a digit other than zero unless the magnitude is
rounded to zero. What vanishes is displayed as a zero without a sign. -/
theorem display_is_quantity (x : Quantity) (text : List Char)
    (shown : x.display .letter = .ok text) :
    ∃ (r : Quantity) (f : QuantityForm), x.rounded = .ok r ∧
      text = signed
        (decide (x.magnitude.value < 0 ∧ r.magnitude.isZero = false ∧ ¬ r.Vanishes)) f.text ∧
      Kind.quantity.lexemeAt? f.text 0 = some f.text ∧
      (r.magnitude.isZero = false → ¬ r.Vanishes → ∃ c ∈ f.mantissa.digits, c ≠ '0') ∧
      (r.Vanishes → text = ['0']) := by
  obtain ⟨form, laid, -⟩ := Except.bind_eq_ok_iff.mp shown
  obtain ⟨r, rounded, -⟩ := Except.bind_eq_ok_iff.mp laid
  have shows : ShowsForm r
      (decide (x.magnitude.value < 0 ∧ r.magnitude.isZero = false ∧ ¬ r.Vanishes)) text := by
    cases place_eq : x.lastPlace with
    | exact =>
      obtain ⟨magnitude, lastPlace⟩ := x
      obtain rfl : lastPlace = .exact := place_eq
      obtain rfl := eq_of_rounded_exact rfl rounded
      rw [display_exact] at shown
      obtain rfl := Except.ok.inj shown
      have minus : decide (magnitude.value < 0 ∧ magnitude.isZero = false ∧
          ¬ (⟨magnitude, .exact⟩ : Quantity).Vanishes) =
            (magnitude.negative && !magnitude.isZero) := by
        rw [Bool.eq_iff_iff, decide_eq_true_iff, Double.Finite.value_neg_iff, Bool.and_eq_true,
          Bool.not_eq_true']
        exact ⟨fun minus => minus.1, fun minus => ⟨minus, minus.2, id⟩⟩
      rw [minus]
      exact showsForm_exact magnitude
    | place place => exact showsForm_of_rounded place_eq rounded shown
  obtain ⟨f, wf, text_eq, figure, none⟩ := shows
  exact ⟨r, f, rounded, text_eq, lexeme?_quantity_eq_self_iff.mpr ⟨f, wf, rfl⟩, figure, none⟩

end Form

/-- The double nearest to -1204 to the tens is displayed with a minus sign before 1.20e3. -/
theorem display_is_quantity_negative :
    let x : Quantity := ⟨⟨true, 5295247999369216, -42, by decide⟩, .place 1⟩
    x.display .letter = .ok "-1.20e3".toList ∧
      ∃ f : QuantityForm, "-1.20e3".toList = '-' :: f.text ∧
        Kind.quantity.lexemeAt? f.text 0 = some f.text := by
  intro x
  have shown : x.display .letter = .ok "-1.20e3".toList := by decide +kernel
  have computed : x.rounded = .ok ⟨⟨true, 5277655813324800, -42, by decide⟩, .place 1⟩ := by
    decide +kernel
  obtain ⟨r, f, rounded, text, cut, -⟩ := display_is_quantity x _ shown
  obtain rfl := Except.ok.inj (computed.symm.trans rounded)
  have minus : decide (x.magnitude.value < 0 ∧
      Double.Finite.isZero ⟨true, 5277655813324800, -42, by decide⟩ = false ∧
        ¬ Vanishes ⟨⟨true, 5277655813324800, -42, by decide⟩, .place 1⟩) = true := by
    decide +kernel
  rw [minus] at text
  exact ⟨shown, f, text, cut⟩

/-- The double nearest to `-96 * 10 ^ 21` is rounded at the last place 23 to the one nearest to
`-10 ^ 23`, which has no figure at that place as powers of ten are usually computed: it is displayed
as a zero without a sign. -/
theorem display_is_quantity_unsigned :
    let x : Quantity := ⟨⟨true, 5722045898437500, 24, by decide⟩, .place 23⟩
    let r : Quantity := ⟨⟨true, 5960464477539062, 24, by decide⟩, .place 23⟩
    x.rounded = .ok r ∧ x.magnitude.value < 0 ∧ r.magnitude.isZero = false ∧ r.Vanishes ∧
      x.display .letter = .ok "0".toList := by
  intro x r
  refine ⟨?_, ?_, ?_, ?_, ?_⟩ <;> decide +kernel

end Quantity

end SignificantFigures
