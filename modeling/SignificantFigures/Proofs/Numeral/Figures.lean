import Mathlib.Data.List.TakeWhile
import SignificantFigures.Decimal.Text
import SignificantFigures.Numeral.Figures
import SignificantFigures.Proofs.Numeral.Read

/-!
The count of significant figures of a written mantissa: the figures from the first one that is not
zero, to the end where there is a point and to the last one that is not zero where there is none.
-/

set_option autoImplicit false

namespace SignificantFigures.Numeral

theorem dropZeros_append (front behind : List Char) :
    dropZeros (front ++ behind) =
      if dropZeros front = [] then dropZeros behind else dropZeros front ++ behind := by
  unfold dropZeros
  rw [List.dropWhile_append]
  by_cases zeros : front.dropWhile (· == '0') = [] <;> simp [zeros]

theorem dropZeros_replicate_append (count : Nat) (text : List Char) :
    dropZeros (List.replicate count '0' ++ text) = dropZeros text := by
  induction count with
  | zero => rfl
  | succ count ih =>
    rw [List.replicate_succ, List.cons_append, ← ih]
    rfl

theorem dropZeros_of_head_ne {c : Char} {rest : List Char} (h : c ≠ '0') :
    dropZeros (c :: rest) = c :: rest := by
  simp [dropZeros, h]

theorem mem_of_mem_dropZeros {c : Char} {text : List Char} (hc : c ∈ dropZeros text) : c ∈ text :=
  (List.dropWhile_sublist _).mem hc

/-- Zeros are all that is taken off the front. -/
theorem exists_zeros (text : List Char) :
    ∃ zeros, text = List.replicate zeros '0' ++ dropZeros text := by
  refine ⟨(text.takeWhile (· == '0')).length, ?_⟩
  have zeros : text.takeWhile (· == '0') =
      List.replicate (text.takeWhile (· == '0')).length '0' := by
    refine List.eq_replicate_iff.mpr ⟨rfl, ?_⟩
    intro c hc
    have zero := List.mem_takeWhile_imp (p := (· == '0')) hc
    exact beq_iff_eq.mp zero
  rw [← zeros]
  exact List.takeWhile_append_dropWhile.symm

/-- The figures of a mantissa that count. -/
def Mantissa.figures (m : Mantissa) : List Char :=
  match m.fraction with
  | some _ => dropZeros m.digits
  | none => dropLastZeros (dropZeros m.digits)

theorem dropZeros_eq_nil_iff {text : List Char} : dropZeros text = [] ↔ ∀ c ∈ text, c = '0' := by
  simp [dropZeros, List.dropWhile_eq_nil_iff]

theorem length_dropZeros_le (text : List Char) : (dropZeros text).length ≤ text.length :=
  (List.dropWhile_sublist _).length_le

/-- A mantissa has no more figures than characters. -/
theorem Mantissa.length_figures_le (m : Mantissa) : m.figures.length ≤ m.text.length := by
  have front := length_dropZeros_le m.digits
  have digits : m.digits.length ≤ m.text.length := by
    cases written : m.fraction <;> simp [Mantissa.digits, Mantissa.text, written]
  unfold figures
  split
  · exact front.trans digits
  · have back := length_dropZeros_le (dropZeros m.digits).reverse
    rw [List.length_reverse] at back
    rw [dropLastZeros, List.length_reverse]
    exact back.trans (front.trans digits)

section

variable {m : Mantissa}

/-- A sign in front of a text that has none does not count. -/
theorem figures?_of_unsigned {text : List Char} (unsigned : ∀ c ∈ text.head?, c ≠ '-')
    (negative : Bool) :
    figures? (signed negative text) =
      match dropZeros text with
      | '.' :: behind => fractionFigures? behind
      | rest => wholeFigures? rest := by
  cases negative with
  | true => rfl
  | false =>
    unfold figures? signed
    rw [if_neg Bool.false_ne_true]
    split
    · next rest => exact absurd rfl (unsigned '-' rfl)
    · rfl

theorem Mantissa.WellFormed.head_ne_minus (wf : m.WellFormed) (rest : List Char) :
    ∀ c ∈ (m.text ++ rest).head?, c ≠ '-' :=
  fun c hc => (wf.unsigned rest c hc).2

theorem figures?_of_wellFormed (wf : m.WellFormed) (negative : Bool) :
    figures? (signed negative m.text) =
      match dropZeros m.text with
      | '.' :: behind => fractionFigures? behind
      | rest => wholeFigures? rest := by
  refine figures?_of_unsigned ?_ negative
  simpa using wf.head_ne_minus []

theorem figures?_signed (wf : m.WellFormed) (negative : Bool) :
    figures? (signed negative m.text) = figures? m.text := by
  rw [figures?_of_wellFormed wf]
  exact (figures?_of_wellFormed wf false).symm

theorem wholeFigures?_digits {digits : List Char} (all : ∀ c ∈ digits, c.isDigit = true) :
    wholeFigures? digits =
      if digits = [] then none else some (dropLastZeros digits).length := by
  simp [wholeFigures?, readDigits_digits all]

theorem wholeFigures?_point {digits behind : List Char} (all : ∀ c ∈ digits, c.isDigit = true)
    (allBehind : ∀ c ∈ behind, c.isDigit = true) (nonempty : digits ≠ []) :
    wholeFigures? (digits ++ '.' :: behind) = some (digits ++ behind).length := by
  simp [wholeFigures?, readDigits_digits_append all (stopsDigits_point behind),
    readDigits_digits allBehind, nonempty]

theorem fractionFigures?_digits {behind : List Char} (all : ∀ c ∈ behind, c.isDigit = true) :
    fractionFigures? behind =
      if dropZeros behind = [] then none else some (dropZeros behind).length := by
  have kept : ∀ c ∈ dropZeros behind, c.isDigit = true := fun c hc => all c (mem_of_mem_dropZeros hc)
  by_cases zeros : dropZeros behind = []
  · simp [fractionFigures?, zeros]
  · simpa [fractionFigures?, zeros] using kept

/-- A mantissa has a count unless all its digits are zero. -/
theorem figures?_text (wf : m.WellFormed) :
    figures? m.text = if dropZeros m.digits = [] then none else some m.figures.length := by
  have whole : ∀ c ∈ dropZeros m.whole, c.isDigit = true :=
    fun c hc => wf.whole c (mem_of_mem_dropZeros hc)
  rw [← figures?_signed wf false, figures?_of_wellFormed wf]
  cases written : m.fraction with
  | none =>
    simp only [Mantissa.text_of_none written, Mantissa.figures, Mantissa.digits, written,
      Option.getD_none, List.append_nil]
    rw [← wholeFigures?_digits whole]
    split
    · next behind point =>
      -- no digit is the point
      exact absurd (whole '.' (point ▸ List.mem_cons_self)) (by decide)
    · rfl
  | some behind =>
    have fraction := wf.fraction written
    simp only [Mantissa.text_of_some written, Mantissa.figures, Mantissa.digits, written,
      Option.getD_some, dropZeros_append]
    cases zeros : dropZeros m.whole with
    | nil =>
      rw [if_pos rfl, if_pos rfl, dropZeros_of_head_ne (by decide)]
      exact fractionFigures?_digits fraction
    | cons c rest =>
      rw [zeros] at whole
      simp only [reduceCtorEq, if_false]
      rw [← wholeFigures?_point whole fraction (by simp)]
      split
      · next point =>
        simp only [List.cons_append, List.cons.injEq] at point
        exact absurd (whole '.' (point.1 ▸ List.mem_cons_self)) (by decide)
      · rfl

end

section Head

variable {text : List Char}

theorem head_dropZeros_ne {c : Char} {rest : List Char} (h : dropZeros text = c :: rest) :
    c ≠ '0' := by
  induction text with
  | nil => exact nomatch h
  | cons d text ih =>
    by_cases zero : d = '0'
    · subst zero
      exact ih h
    · rw [dropZeros_of_head_ne zero] at h
      exact (List.cons.inj h).1 ▸ zero

theorem dropLastZeros_ne_nil {c : Char} {rest : List Char} (nonzero : c ≠ '0') :
    dropLastZeros (c :: rest) ≠ [] := by
  intro empty
  have zeros := List.dropWhile_eq_nil_iff.mp (List.reverse_eq_nil_iff.mp empty)
  have zero := zeros c (by simp)
  exact nonzero (beq_iff_eq.mp zero)

end Head

end SignificantFigures.Numeral
