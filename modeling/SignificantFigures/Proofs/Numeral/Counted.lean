import SignificantFigures.Proofs.Numeral.Figures

/-!
The texts whose significant figures are counted. They are a mantissa with a digit other than zero,
after an optional minus sign; and one point too many may stand at the end, where digits stand on
both sides of the first one.
-/

set_option autoImplicit false

namespace SignificantFigures.Numeral

/-- A text with a count of its figures. -/
inductive Counted : List Char → Nat → Prop where
  | mantissa (negative : Bool) {m : Mantissa} (wf : m.WellFormed)
      (figure : dropZeros m.digits ≠ []) :
      Counted (signed negative m.text) m.figures.length
  | secondPoint (negative : Bool) {m : Mantissa} (wf : m.WellFormed)
      (whole : dropZeros m.whole ≠ []) (fraction : m.fraction.getD [] ≠ []) :
      Counted (signed negative (m.text ++ ['.'])) m.figures.length

section

variable {m : Mantissa} {text : List Char} {count : Nat}

theorem Mantissa.exists_fraction (fraction : m.fraction.getD [] ≠ []) :
    ∃ behind, m.fraction = some behind ∧ behind ≠ [] := by
  cases written : m.fraction with
  | none => exact absurd (by rw [written]; rfl) fraction
  | some behind => exact ⟨behind, rfl, by simpa [written] using fraction⟩

theorem Mantissa.dropZeros_digits_of_whole (whole : dropZeros m.whole ≠ []) :
    dropZeros m.digits = dropZeros m.whole ++ m.fraction.getD [] := by
  rw [digits, dropZeros_append, if_neg whole]

/-- The second point does not change the count. -/
theorem figures?_secondPoint (negative : Bool) (wf : m.WellFormed) (whole : dropZeros m.whole ≠ [])
    (fraction : m.fraction.getD [] ≠ []) :
    figures? (signed negative (m.text ++ ['.'])) = some m.figures.length := by
  obtain ⟨behind, written, filled⟩ := Mantissa.exists_fraction fraction
  have front : ∀ c ∈ dropZeros m.whole, c.isDigit = true :=
    fun c hc => wf.whole c (mem_of_mem_dropZeros hc)
  have figures : m.figures = dropZeros m.whole ++ behind := by
    rw [Mantissa.figures, written]
    dsimp only
    rw [Mantissa.dropZeros_digits_of_whole whole, written, Option.getD_some]
  have dropped : dropZeros (m.text ++ ['.']) = dropZeros m.whole ++ '.' :: (behind ++ ['.']) := by
    rw [Mantissa.text_of_some written, List.append_assoc, dropZeros_append, if_neg whole,
      List.cons_append]
  have counted : wholeFigures? (dropZeros m.whole ++ '.' :: (behind ++ ['.'])) =
      some (dropZeros m.whole ++ behind).length := by
    simp [wholeFigures?, readDigits_digits_append front (stopsDigits_point _),
      readDigits_digits_append (wf.fraction written) (stopsDigits_point []), whole, filled]
  rw [figures?_of_unsigned (wf.head_ne_minus _), dropped, figures, ← counted]
  split
  · next point =>
    -- a digit stands before the first point
    obtain ⟨c, rest, first⟩ := List.exists_cons_of_ne_nil whole
    rw [first, List.cons_append] at point
    rw [first] at front
    exact absurd (front '.' ((List.cons.inj point).1 ▸ List.mem_cons_self)) (by decide)
  · rfl

/-- The mantissa with zeros put in front. -/
def Mantissa.withZeros (m : Mantissa) (zeros : Nat) : Mantissa :=
  ⟨List.replicate zeros '0' ++ m.whole, m.fraction⟩

theorem Mantissa.text_withZeros (m : Mantissa) (zeros : Nat) :
    (m.withZeros zeros).text = List.replicate zeros '0' ++ m.text :=
  List.append_assoc ..

theorem Mantissa.digits_withZeros (m : Mantissa) (zeros : Nat) :
    (m.withZeros zeros).digits = List.replicate zeros '0' ++ m.digits :=
  List.append_assoc ..

theorem Mantissa.WellFormed.withZeros (wf : m.WellFormed) (zeros : Nat) :
    (m.withZeros zeros).WellFormed := by
  rw [Mantissa.WellFormed, m.digits_withZeros]
  refine ⟨fun empty => wf.1 (List.append_eq_nil_iff.mp empty).2, ?_⟩
  intro c hc
  rcases List.mem_append.mp hc with zero | digit
  · rw [List.eq_of_mem_replicate zero]
    rfl
  · exact wf.2 c digit

/-- Behind the point of a fraction there are only digits. -/
private theorem of_fractionFigures? (h : fractionFigures? text = some count) :
    (⟨[], some text⟩ : Mantissa).WellFormed := by
  simp only [fractionFigures?, Option.ite_none_right_eq_some, Bool.and_eq_true, Bool.not_eq_true',
    List.isEmpty_eq_false_iff, List.all_eq_true] at h
  obtain ⟨⟨filled, all⟩, -⟩ := h
  obtain ⟨zeros, form⟩ := exists_zeros text
  refine ⟨?_, ?_⟩
  · rintro rfl
    exact filled rfl
  · intro c hc
    rw [Mantissa.digits, Option.getD_some, List.nil_append, form] at hc
    rcases List.mem_append.mp hc with zero | figure
    · rw [List.eq_of_mem_replicate zero]
      rfl
    · exact all c figure

/-- A text that starts with digits is a mantissa up to a second point. -/
private theorem of_wholeFigures? (h : wholeFigures? text = some count) :
    ∃ m : Mantissa, m.WellFormed ∧ (text = m.text ∨
      (text = m.text ++ ['.'] ∧ m.whole ≠ [] ∧ m.fraction.getD [] ≠ [])) := by
  have digits : ∀ c ∈ (readDigits text).1, c.isDigit = true :=
    fun c hc => isDigit_of_mem_readDigits hc
  have parts := readDigits_append text
  simp only [wholeFigures?, Option.ite_none_left_eq_some, List.isEmpty_iff] at h
  generalize (readDigits text).1 = whole at h digits parts
  obtain ⟨filled, h⟩ := h
  split at h
  · next ended =>
    refine ⟨⟨whole, none⟩, ⟨by simpa [Mantissa.digits], by simpa [Mantissa.digits]⟩, Or.inl ?_⟩
    rw [Mantissa.text_of_none rfl, ← parts, ended, List.append_nil]
  · next behind point =>
    have fraction : ∀ c ∈ (readDigits behind).1, c.isDigit = true :=
      fun c hc => isDigit_of_mem_readDigits hc
    have split := readDigits_append behind
    simp only [Option.ite_none_right_eq_some, Bool.or_eq_true, Bool.and_eq_true, List.isEmpty_iff,
      beq_iff_eq, Bool.not_eq_true', List.isEmpty_eq_false_iff] at h
    generalize (readDigits behind).1 = front at h fraction split
    refine ⟨⟨whole, some front⟩, ⟨by simp [Mantissa.digits, filled], ?_⟩, ?_⟩
    · intro c hc
      exact (List.mem_append.mp hc).elim (digits c) (fraction c)
    · rw [Mantissa.text_of_some rfl, ← parts, point, ← split]
      rcases h.1 with ended | ⟨again, behind⟩
      · rw [ended, List.append_nil]
        exact Or.inl rfl
      · rw [again, List.append_assoc, List.cons_append]
        exact Or.inr ⟨rfl, filled, behind⟩
  · cases h

/-- The figures are counted behind the sign and the zeros in front. -/
private theorem exists_unsigned (h : figures? text = some count) :
    ∃ negative unsigned, text = signed negative unsigned ∧
      ((∃ behind, dropZeros unsigned = '.' :: behind ∧ fractionFigures? behind = some count) ∨
        wholeFigures? (dropZeros unsigned) = some count) := by
  simp only [figures?] at h
  split at h
  · next behind point =>
    split at point
    · next rest => exact ⟨true, rest, rfl, Or.inl ⟨behind, point, h⟩⟩
    · exact ⟨false, text, rfl, Or.inl ⟨behind, point, h⟩⟩
  · split at h
    · next rest _ => exact ⟨true, rest, rfl, Or.inr h⟩
    · exact ⟨false, text, rfl, Or.inr h⟩

/-- What is left of a text behind the sign and the zeros in front of its figures. -/
private theorem exists_mantissa_of_figures? (h : figures? text = some count) :
    ∃ negative zeros, ∃ m : Mantissa, m.WellFormed ∧
      (text = signed negative (List.replicate zeros '0' ++ m.text) ∨
        (text = signed negative (List.replicate zeros '0' ++ (m.text ++ ['.'])) ∧
          dropZeros m.whole ≠ [] ∧ m.fraction.getD [] ≠ [])) := by
  obtain ⟨negative, unsigned, rfl, counted⟩ := exists_unsigned h
  obtain ⟨zeros, form⟩ := exists_zeros unsigned
  rw [form]
  rcases counted with ⟨behind, point, counted⟩ | counted
  · refine ⟨negative, zeros, ⟨[], some behind⟩, of_fractionFigures? counted, Or.inl ?_⟩
    rw [point, Mantissa.text_of_some rfl, List.nil_append]
  · obtain ⟨m, wf, plain | ⟨again, whole, fraction⟩⟩ := of_wholeFigures? counted
    · exact ⟨negative, zeros, m, wf, Or.inl (by rw [plain])⟩
    · refine ⟨negative, zeros, m, wf, Or.inr ⟨by rw [again], ?_, fraction⟩⟩
      -- the figures start with the first digit that is not zero
      obtain ⟨c, rest, first⟩ := List.exists_cons_of_ne_nil whole
      rw [Mantissa.text, first, List.cons_append, List.cons_append] at again
      rw [first, dropZeros_of_head_ne (head_dropZeros_ne again)]
      exact List.cons_ne_nil c rest

/-- Figures are counted in these texts and in no others. -/
theorem figures?_eq_some_iff : figures? text = some count ↔ Counted text count := by
  constructor
  · intro h
    obtain ⟨negative, zeros, m, wf, rfl | ⟨rfl, whole, fraction⟩⟩ := exists_mantissa_of_figures? h
    · have padded := wf.withZeros zeros
      rw [← m.text_withZeros, figures?_signed padded, figures?_text padded,
        Option.ite_none_left_eq_some] at h
      obtain ⟨figure, count_eq⟩ := h
      rw [← m.text_withZeros, ← Option.some.inj count_eq]
      exact .mantissa negative padded figure
    · have padded := wf.withZeros zeros
      have whole' : dropZeros (m.withZeros zeros).whole ≠ [] := by
        rwa [Mantissa.withZeros, dropZeros_replicate_append]
      rw [← List.append_assoc, ← m.text_withZeros,
        figures?_secondPoint negative padded whole' fraction] at h
      rw [← List.append_assoc, ← m.text_withZeros, ← Option.some.inj h]
      exact .secondPoint negative padded whole' fraction
  · rintro (⟨negative, wf, figure⟩ | ⟨negative, wf, whole, fraction⟩)
    · rw [figures?_signed wf, figures?_text wf, if_neg figure]
    · exact figures?_secondPoint negative wf whole fraction

/-- A mantissa with a digit other than zero has a figure. -/
theorem Mantissa.length_figures_pos (figure : dropZeros m.digits ≠ []) : 0 < m.figures.length := by
  rw [List.length_pos_iff]
  unfold figures
  split
  · exact figure
  · obtain ⟨c, rest, first⟩ := List.exists_cons_of_ne_nil figure
    rw [first]
    exact dropLastZeros_ne_nil (head_dropZeros_ne first)

/-- A count of figures is never zero. -/
theorem one_le_of_figures? (h : figures? text = some count) : 1 ≤ count := by
  rcases figures?_eq_some_iff.mp h with ⟨_, _, figure⟩ | ⟨_, _, whole, _⟩
  · exact Mantissa.length_figures_pos figure
  · apply Mantissa.length_figures_pos
    rw [Mantissa.dropZeros_digits_of_whole whole]
    exact List.append_ne_nil_of_left_ne_nil whole _

end

end SignificantFigures.Numeral
