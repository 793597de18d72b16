import SignificantFigures.Proofs.Decade
import SignificantFigures.Proofs.Double.Places
import SignificantFigures.Proofs.Numeral.Place
import SignificantFigures.Quantity.Literal

/-!
The last place of a quantity that is read from a literal without the mark of exact numbers. It
follows from the figures that are written and the decade of the double, so it is the place of the
last figure that is written where the double stays in the decade of the first one.
-/

set_option autoImplicit false

namespace SignificantFigures.Quantity

open Double.Finite Numeral

section Written

variable [PowersOfTen] {f : LiteralForm} {q : Quantity} {text : List Char}

/-- A literal without the mark has the nearest double to its value and the figures of its mantissa.
-/
theorem ofLiteral?_form (wf : f.WellFormed) (written : normalized text = f.text) :
    ofLiteral? text =
      match f.value.nearest with
      | .finite magnitude =>
        if dropZeros f.mantissa.digits = [] then none
        else some (ofPrecision magnitude (.figures f.mantissa.figures.length))
      | _ => none := by
  have unmarked : f.text.contains exactMark = false := by
    rw [← Bool.not_eq_true, List.contains_iff_mem]
    exact wf.exactMark_not_mem_text
  rw [ofLiteral?, written, ofNormalized?, if_neg (by rw [unmarked]; exact Bool.false_ne_true),
    wf.leadingDouble?_text, wf.splitExponent_text, figures?_signed wf.mantissa,
    figures?_text wf.mantissa]
  by_cases void : dropZeros f.mantissa.digits = []
  · simp only [if_pos void]
    cases f.value.nearest <;> rfl
  · simp only [if_neg void]
    cases f.value.nearest <;> rfl

private theorem exists_magnitude (wf : f.WellFormed) (written : normalized text = f.text)
    (read : ofLiteral? text = some q) :
    dropZeros f.mantissa.digits ≠ [] ∧ q.magnitude.Reads f.value.size ∧
      q.lastPlace = .place (q.magnitude.decade - f.mantissa.figures.length + 1) := by
  rw [ofLiteral?_form wf written] at read
  split at read
  · next magnitude found =>
    obtain ⟨-, size⟩ := Decimal.nearest_eq_finite_iff.mp found
    split_ifs at read with void
    obtain rfl := Option.some.inj read
    exact ⟨void, size.symm, rfl⟩
  · exact nomatch read

/-- The last place of a literal without the mark of exact numbers is the place of the last figure
that is written, or the next one where the power of ten above the first figure is read as the same
double; this is for doubles that are not overshot. A literal whose value underflows to zero has its
figures down from the units. -/
theorem literal_last_place [PowersOfTen.Close] (text : List Char) (f : LiteralForm) (q : Quantity)
    (wf : f.WellFormed) (written : normalized text = f.text) (read : ofLiteral? text = some q)
    (reached : ¬ q.magnitude.Overshot) :
    (q.magnitude.isZero = true →
      q.lastPlace = .place (1 - (f.mantissa.figures.length : Int))) ∧
    (q.magnitude.isZero = false → q.magnitude.Reads ((10 : Rat) ^ (f.firstPlace + 1)) →
      q.lastPlace = .place (f.lastPlace + 1)) ∧
    (q.magnitude.isZero = false → ¬ q.magnitude.Reads ((10 : Rat) ^ (f.firstPlace + 1)) →
      q.lastPlace = .place f.lastPlace) := by
  obtain ⟨nonzero, reads, place⟩ := exists_magnitude wf written read
  obtain ⟨low, high⟩ := f.size_bounds wf nonzero
  have first : f.firstPlace = f.lastPlace + f.mantissa.figures.length - 1 := rfl
  rw [place, decade_eq_leading reached]
  refine ⟨?_, ?_, ?_⟩
  · intro zero
    rw [leading_of_size_eq_zero (isZero_iff.mp zero)]
    congr 1
    omega
  · intro filled power
    rcases leading_of_reads (isZero_eq_false_iff.mp filled) reads low high.le with
      ⟨-, next, -⟩ | ⟨unread, -⟩
    · rw [next]
      congr 1
      omega
    · exact absurd power unread
  · intro filled unread
    rcases leading_of_reads (isZero_eq_false_iff.mp filled) reads low high.le with
      ⟨power, -⟩ | ⟨-, same⟩
    · exact absurd power unread
    · rw [same]
      congr 1
      omega

end Written

/-- The last figure of -12.0E-3 stands at the fourth place behind the point, blanks and case aside.
-/
theorem literal_last_place_negative :
    let text := " -12.0 E-3".toList
    let f : LiteralForm := ⟨true, ⟨['1', '2'], some ['0']⟩, some (true, ['3'])⟩
    ∃ q, f.WellFormed ∧ normalized text = f.text ∧ ofLiteral? text = some q ∧
      ¬ q.magnitude.Overshot ∧ q.lastPlace = .place (-4) := by
  intro text f
  have wf : f.WellFormed := by
    refine ⟨⟨by decide, List.all_eq_true.mp (by decide)⟩, ?_⟩
    intro negative digits exponent
    obtain ⟨rfl, rfl⟩ := Prod.mk.inj (Option.some.inj exponent)
    exact ⟨List.all_eq_true.mp (by decide), fun _ => by decide⟩
  have written : normalized text = f.text := by decide +kernel
  let q : Quantity := ⟨⟨true, 6917529027641082, -59, by decide⟩, .place (-4)⟩
  have read : ofLiteral? text = some q := by decide +kernel
  have filled : q.magnitude.isZero = false := by decide
  have unread : ¬ q.magnitude.Reads ((10 : Rat) ^ (f.firstPlace + 1)) := by
    unfold Reads
    decide +kernel
  have reached : ¬ q.magnitude.Overshot := by decide +kernel
  exact ⟨q, wf, written, read, reached,
    (literal_last_place text f q wf written read reached).2.2 filled unread⟩

/-- Twenty nines, of which nineteen stand behind the point, are read as the double ten: the last
place is not that of the last nine. -/
theorem literal_last_place_of_nines :
    let f : LiteralForm := ⟨false, ⟨['9'], some (List.replicate 19 '9')⟩, none⟩
    ∃ q, f.WellFormed ∧ normalized f.text = f.text ∧ ofLiteral? f.text = some q ∧
      q.lastPlace = .place (-18) ∧ f.lastPlace = -19 ∧ q.lastPlace ≠ .place f.lastPlace := by
  intro f
  have wf : f.WellFormed :=
    ⟨⟨by decide, List.all_eq_true.mp (by decide)⟩, fun _ _ exponent => nomatch exponent⟩
  refine ⟨⟨⟨false, 5629499534213120, -49, by decide⟩, .place (-18)⟩, wf, ?_, ?_, rfl, ?_, ?_⟩
  · decide +kernel
  · decide +kernel
  · decide
  · decide

end SignificantFigures.Quantity
