import Mathlib.Data.List.DropRight
import SignificantFigures.Proofs.Numeral.FigurePattern

/-!
How zeros change the count of figures. Those in front of a numeral never do; one more at its end is
one more figure where a point is written, and none elsewhere.
-/

set_option autoImplicit false

namespace SignificantFigures.Numeral

open Text.Pattern

section Zeros

variable {m : Mantissa}

theorem figures?_withZeros (wf : m.WellFormed) (zeros : Nat) :
    figures? (m.withZeros zeros).text = figures? m.text := by
  rw [figures?_text (wf.withZeros zeros), figures?_text wf]
  have figures : (m.withZeros zeros).figures = m.figures := by
    rw [Mantissa.figures, Mantissa.figures, m.digits_withZeros, dropZeros_replicate_append]
    rfl
  rw [figures, m.digits_withZeros, dropZeros_replicate_append]

/-- The mantissa with one more zero at its end. -/
def Mantissa.withLastZero (m : Mantissa) : Mantissa :=
  match m.fraction with
  | none => ⟨m.whole ++ ['0'], none⟩
  | some behind => ⟨m.whole, some (behind ++ ['0'])⟩

theorem Mantissa.text_withLastZero (m : Mantissa) : m.withLastZero.text = m.text ++ ['0'] := by
  unfold withLastZero
  cases written : m.fraction <;> simp [text, written]

theorem Mantissa.digits_withLastZero (m : Mantissa) :
    m.withLastZero.digits = m.digits ++ ['0'] := by
  unfold withLastZero
  cases written : m.fraction <;> simp [digits, written]

theorem Mantissa.WellFormed.withLastZero (wf : m.WellFormed) : m.withLastZero.WellFormed := by
  rw [Mantissa.WellFormed, Mantissa.digits_withLastZero]
  refine ⟨by simp, fun c hc => ?_⟩
  rcases List.mem_append.mp hc with digit | zero
  · exact wf.2 c digit
  · rw [List.mem_singleton.mp zero]
    rfl

/-- A zero at the end counts where there is a point. -/
theorem length_figures_withLastZero (figure : dropZeros m.digits ≠ []) :
    m.withLastZero.figures.length = m.figures.length + if m.fraction = none then 0 else 1 := by
  have digits : dropZeros m.withLastZero.digits = dropZeros m.digits ++ ['0'] := by
    rw [m.digits_withLastZero, dropZeros_append, if_neg figure]
  unfold Mantissa.figures
  rw [digits, Mantissa.withLastZero]
  cases m.fraction with
  | none => simp [dropLastZeros, dropZeros]
  | some behind => simp

theorem figures?_withLastZero (wf : m.WellFormed) :
    figures? m.withLastZero.text =
      (figures? m.text).map (· + if m.fraction = none then 0 else 1) := by
  rw [figures?_text wf.withLastZero, figures?_text wf, m.digits_withLastZero, dropZeros_append]
  by_cases figure : dropZeros m.digits = []
  · rw [if_pos figure, if_pos figure, if_pos (show dropZeros ['0'] = [] from rfl), Option.map_none]
  · rw [if_neg figure, if_neg figure, if_neg (List.append_ne_nil_of_left_ne_nil figure _),
      length_figures_withLastZero figure, Option.map_some]

end Zeros

/-- The count of figures of a written mantissa is that of the first full match of the pattern. There is
none just when all digits are zero. Elsewhere it is the number of digits from the first one that is
not zero, to the last such one without a point and to the last digit with a point. Zeros in front
never change it, and one more zero at the end adds one with a point and nothing without. -/
theorem count_of_numeral (negative : Bool) (m : Mantissa) (wf : m.WellFormed) :
    figures? (signed negative m.text) =
      (figuresPattern.fullMatch? (signed negative m.text)).map groupSize ∧
    (figures? (signed negative m.text) = none ↔ ∀ c ∈ m.digits, c = '0') ∧
    ((∃ c ∈ m.digits, c ≠ '0') →
      (m.fraction = none → figures? (signed negative m.text) =
        some ((m.digits.dropWhile (· == '0')).rdropWhile (· == '0')).length) ∧
      (m.fraction ≠ none → figures? (signed negative m.text) =
        some (m.digits.dropWhile (· == '0')).length)) ∧
    (∀ zeros, figures? (signed negative (List.replicate zeros '0' ++ m.text)) =
      figures? (signed negative m.text)) ∧
    figures? (signed negative (m.text ++ ['0'])) =
      (figures? (signed negative m.text)).map (· + if m.fraction = none then 0 else 1) := by
  refine ⟨figures?_eq_fullMatch? _, ?_, ?_, ?_, ?_⟩
  · rw [figures?_signed wf, figures?_text wf, ← dropZeros_eq_nil_iff]
    simp
  · rintro ⟨c, hc, nonzero⟩
    have figure : dropZeros m.digits ≠ [] :=
      fun zeros => nonzero (dropZeros_eq_nil_iff.mp zeros c hc)
    rw [figures?_signed wf, figures?_text wf, if_neg figure, Mantissa.figures]
    constructor
    · intro pointless
      rw [pointless]
      rfl
    · intro point
      obtain ⟨behind, written⟩ := Option.ne_none_iff_exists'.mp point
      rw [written]
      rfl
  · intro zeros
    rw [← m.text_withZeros, figures?_signed (wf.withZeros zeros), figures?_signed wf,
      figures?_withZeros wf]
  · rw [← m.text_withLastZero, figures?_signed wf.withLastZero, figures?_signed wf,
      figures?_withLastZero wf]

/-- Of `-0120` two digits count, and none is added by zeros in front or at the end; of `-0120.` three
count, and a zero at its end is one more. -/
theorem count_of_numeral_zeros :
    let whole : Mantissa := ⟨['0', '1', '2', '0'], none⟩
    let pointed : Mantissa := ⟨['0', '1', '2', '0'], some []⟩
    whole.WellFormed ∧ pointed.WellFormed ∧
      figures? "-0120".toList = some 2 ∧ figures? "-000120".toList = some 2 ∧
      figures? "-01200".toList = some 2 ∧ figures? "-0120.".toList = some 3 ∧
      figures? "-0120.0".toList = some 4 := by
  intro whole pointed
  have wf : whole.WellFormed := ⟨by decide, List.all_eq_true.mp (by decide)⟩
  have wf' : pointed.WellFormed := ⟨by decide, List.all_eq_true.mp (by decide)⟩
  obtain ⟨-, -, counted, front, last⟩ := count_of_numeral true whole wf
  obtain ⟨-, -, counted', -, last'⟩ := count_of_numeral true pointed wf'
  have two := (counted ⟨'1', by decide, by decide⟩).1 rfl
  have three := (counted' ⟨'1', by decide, by decide⟩).2 (by decide)
  refine ⟨wf, wf', two, (front 2).trans two, last.trans ?_, three, last'.trans ?_⟩
  · rw [two]
    rfl
  · rw [three]
    rfl

end SignificantFigures.Numeral
