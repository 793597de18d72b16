import SignificantFigures.Proofs.Decimal.Nearest
import SignificantFigures.Proofs.Double.Reads
import SignificantFigures.Proofs.Numeral.Counted
import SignificantFigures.Proofs.Numeral.Digits
import SignificantFigures.Proofs.Numeral.Literal
import SignificantFigures.Quantity.Literal

/-!
The quantity that the text of a numeral stands for: its magnitude is the double that the numeral's
value is read as, and its precision is the number of the figures that count.
-/

set_option autoImplicit false

namespace SignificantFigures.Quantity

open Numeral

variable [PowersOfTen] {n : Numeral} {v : Double.Finite}

theorem ofLiteral?_text (wf : n.WellFormed) :
    ofLiteral? n.text =
      match n.value.nearest, figures? (Sign.text n.sign ++ n.mantissa.text) with
      | .finite magnitude, some count => some (ofPrecision magnitude (.figures count))
      | _, _ => none := by
  rw [ofLiteral?, normalized_text wf, ofNormalized?, contains_exactMark_text wf, if_neg (by decide),
    leadingDouble?_text wf, splitExponent_text wf]
  cases n.value.nearest <;> cases figures? (Sign.text n.sign ++ n.mantissa.text) <;> rfl

/-- With the mark behind it the text of a numeral is read as an exact number. -/
theorem ofLiteral?_text_append_mark (wf : n.WellFormed) :
    ofLiteral? (n.text ++ [exactMark]) =
      match n.value.nearest with
      | .finite magnitude => some (ofExact magnitude)
      | _ => none := by
  have plain : ∀ c ∈ n.text ++ [exactMark], IsPlain c := by
    intro c hc
    rcases List.mem_append.mp hc with front | mark
    · exact (wf.isWritten front).isPlain
    · rw [List.mem_singleton.mp mark]
      decide
  have unmarked : exactMark ∉ n.text := fun mark => (wf.isWritten mark).ne_exactMark rfl
  have marked : (n.text ++ [exactMark]).contains exactMark = true := by simp
  have cut : (n.text ++ [exactMark]).erase exactMark = n.text := by
    rw [List.erase_append_right _ unmarked, List.erase_cons_head, List.append_nil]
  rw [ofLiteral?, normalized_of_isPlain plain, ofNormalized?, if_pos marked, cut,
    leadingDouble?_text wf]
  cases n.value.nearest <;> rfl

/-- A numeral with a figure is read as the double that its value is read as. -/
theorem ofLiteral?_of_reads (wf : n.WellFormed) (sign : n.sign = Sign.ofNegative v.negative)
    (reads : v.Reads n.value.size) (nonzero : dropZeros n.mantissa.digits ≠ []) :
    ofLiteral? n.text = some (ofPrecision v (.figures n.mantissa.figures.length)) := by
  have value : n.value.nearest = .finite v := by
    refine Decimal.nearest_eq_finite_iff.mpr ⟨?_, reads.symm⟩
    rw [Numeral.value, sign]
    cases v.negative <;> rfl
  rw [ofLiteral?_text wf, value, sign, ← signed_eq, figures?_signed wf.mantissa,
    figures?_text wf.mantissa, if_neg nonzero]

/-- A numeral with a figure that stays in the range of doubles is read with the precision of its
figures. -/
theorem exists_ofLiteral? {negative : Bool} (wf : n.WellFormed)
    (sign : n.sign = Sign.ofNegative negative) (nonzero : dropZeros n.mantissa.digits ≠ [])
    (inside : Double.roundedSize n.value.size < Double.sizeLimit) :
    ∃ q, ofLiteral? n.text = some q ∧ q.precision = .figures n.mantissa.figures.length := by
  rcases Double.ofSize_spec negative (Decimal.size_nonneg n.value) with
    ⟨v, -, minus, size⟩ | ⟨-, beyond⟩
  · rw [← minus] at sign
    exact ⟨_, ofLiteral?_of_reads wf sign size.symm nonzero, precision_ofPrecision v _⟩
  · exact absurd inside (not_lt.mpr beyond)

/-- A literal is exact or has at least one figure. -/
theorem precision_of_ofLiteral? {text : List Char} {q : Quantity} (h : ofLiteral? text = some q) :
    q.precision = .exact ∨ ∃ count : Nat, 1 ≤ count ∧ q.precision = .figures count := by
  unfold ofLiteral? ofNormalized? at h
  split at h
  · split at h
    · cases h
      exact Or.inl rfl
    · exact nomatch h
  · split at h
    · next magnitude count _ figures =>
      cases h
      exact Or.inr ⟨count, one_le_of_figures? figures, precision_ofPrecision magnitude _⟩
    · exact nomatch h

end SignificantFigures.Quantity
