import SignificantFigures.Numeral.Literal
import SignificantFigures.Proofs.Numeral.Read

/-!
The text of a numeral is in normal form, does not have the mark of an exact number, and is cut into
its mantissa and exponent at the exponent mark.
-/

set_option autoImplicit false

namespace SignificantFigures.Numeral

/-- A character that normalizing keeps as it is. -/
def IsPlain (c : Char) : Prop :=
  c.toNat < 128 ∧ Text.isBlank c = false ∧ c.toLower = c

instance (c : Char) : Decidable (IsPlain c) :=
  inferInstanceAs (Decidable (_ ∧ _ ∧ _))

theorem isDigit_iff {c : Char} : c.isDigit = true ↔ 48 ≤ c.toNat ∧ c.toNat ≤ 57 := by
  simp [Char.isDigit, UInt32.le_iff_toNat_le, ← Char.toNat_val]

theorem isPlain_of_isDigit {c : Char} (digit : c.isDigit = true) : IsPlain c := by
  obtain ⟨low, high⟩ := isDigit_iff.mp digit
  refine ⟨by omega, ?_, ?_⟩
  · simp only [Text.isBlank, Text.blanks, Text.Ranges.contains, List.any_eq_false]
    simp
    omega
  · unfold Char.toLower
    rw [dif_neg]
    intro upper
    have upper' : 65 ≤ c.toNat := UInt32.le_iff_toNat_le.mp upper.1
    omega

theorem lowerAfter_of_isPlain {text : List Char} (plain : ∀ c ∈ text, IsPlain c)
    (before : List Char) : Text.lowerAfter before text = text := by
  induction text generalizing before with
  | nil => rfl
  | cons c rest ih =>
    obtain ⟨ascii, -, lower⟩ := plain c List.mem_cons_self
    have sigma : c ≠ Text.capitalSigma := by
      rintro rfl
      exact absurd ascii (by decide)
    have dotted : c ≠ Text.dottedCapitalI := by
      rintro rfl
      exact absurd ascii (by decide)
    rw [Text.lowerAfter, ih fun d hd => plain d (List.mem_cons_of_mem c hd), if_neg sigma,
      if_neg dotted, Text.lowerChar, if_pos ascii, lower]
    rfl

theorem normalized_of_isPlain {text : List Char} (plain : ∀ c ∈ text, IsPlain c) :
    normalized text = text := by
  have kept : Text.withoutBlanks text = text := by
    unfold Text.withoutBlanks
    rw [List.filter_eq_self]
    intro c hc
    rw [(plain c hc).2.1]
    rfl
  rw [normalized, kept, Text.lower, lowerAfter_of_isPlain plain]

/-- The characters that numerals are written with. -/
def IsWritten (c : Char) : Prop :=
  c.isDigit = true ∨ c = '.' ∨ c = '+' ∨ c = '-' ∨ c = exponentMark

theorem IsWritten.isPlain {c : Char} (written : IsWritten c) : IsPlain c := by
  rcases written with digit | rfl | rfl | rfl | rfl
  · exact isPlain_of_isDigit digit
  all_goals decide

theorem IsWritten.ne_exactMark {c : Char} (written : IsWritten c) : c ≠ exactMark := by
  rintro rfl
  exact absurd written (by unfold IsWritten; decide)

theorem Sign.isWritten_of_mem_text {c : Char} {sign : Option Sign} (hc : c ∈ text sign) :
    c = '+' ∨ c = '-' := by
  rcases sign with _ | _ | _ <;> simp_all [text, char]

theorem Mantissa.WellFormed.of_mem_text {m : Mantissa} (wf : m.WellFormed) {c : Char}
    (hc : c ∈ m.text) : c.isDigit = true ∨ c = '.' := by
  cases written : m.fraction with
  | none =>
    rw [text_of_none written] at hc
    exact Or.inl (wf.whole c hc)
  | some behind =>
    rw [text_of_some written, List.mem_append, List.mem_cons] at hc
    rcases hc with whole | rfl | behind
    · exact Or.inl (wf.whole c whole)
    · exact Or.inr rfl
    · exact Or.inl (wf.fraction written c behind)

theorem WellFormed.isWritten {n : Numeral} (wf : n.WellFormed) {c : Char} (hc : c ∈ n.text) :
    IsWritten c := by
  simp only [text, List.mem_append] at hc
  rcases hc with (sign | mantissa) | exponent
  · rcases Sign.isWritten_of_mem_text sign with rfl | rfl <;> simp [IsWritten]
  · rcases wf.mantissa.of_mem_text mantissa with digit | rfl
    · exact Or.inl digit
    · simp [IsWritten]
  · cases present : n.exponent with
    | none => simp [present, Exponent.text] at exponent
    | some e =>
      simp only [present, Exponent.text, List.mem_cons, List.mem_append] at exponent
      rcases exponent with rfl | sign | digit
      · simp [IsWritten]
      · rcases Sign.isWritten_of_mem_text sign with rfl | rfl <;> simp [IsWritten]
      · exact Or.inl ((wf.exponent e present).2 c digit)

theorem normalized_text {n : Numeral} (wf : n.WellFormed) : normalized n.text = n.text :=
  normalized_of_isPlain fun _ hc => (wf.isWritten hc).isPlain

theorem contains_exactMark_text {n : Numeral} (wf : n.WellFormed) :
    n.text.contains exactMark = false := by
  rw [← Bool.not_eq_true, List.contains_iff_mem]
  intro marked
  exact (wf.isWritten marked).ne_exactMark rfl

theorem splitExponent_append {front rest : List Char} (free : exponentMark ∉ front)
    (mark : ∀ c ∈ rest.head?, c = exponentMark) : (splitExponent (front ++ rest)).1 = front := by
  have passed : ∀ c ∈ front, (c != exponentMark) = true := by
    intro c hc
    rw [bne_iff_ne]
    rintro rfl
    exact free hc
  unfold splitExponent
  rw [List.dropWhile_append_of_pos passed, List.takeWhile_append_of_pos passed]
  cases rest with
  | nil => simp
  | cons c rest => simp [mark c rfl]

/-- The first part of the cut is a front of the literal, and the rest starts with the mark. -/
theorem exists_splitExponent_append (literal : List Char) :
    ∃ tail, literal = (splitExponent literal).1 ++ tail ∧ ∀ c ∈ tail.head?, c = exponentMark := by
  have parts := List.takeWhile_append_dropWhile (p := (· != exponentMark)) (l := literal)
  unfold splitExponent
  split
  · exact ⟨[], by simp, by simp⟩
  · next c exponent behind =>
    refine ⟨c :: exponent, by rw [← behind, parts], ?_⟩
    have stopped := List.head?_dropWhile_not (· != exponentMark) literal
    rw [behind] at stopped
    simpa using stopped

theorem splitExponent_text {n : Numeral} (wf : n.WellFormed) :
    (splitExponent n.text).1 = Sign.text n.sign ++ n.mantissa.text := by
  refine splitExponent_append ?_ ?_
  · rw [List.mem_append]
    rintro (sign | mantissa)
    · exact absurd (Sign.isWritten_of_mem_text sign) (by decide)
    · exact absurd (wf.mantissa.of_mem_text mantissa) (by decide)
  · cases n.exponent <;> simp [Exponent.text]

end SignificantFigures.Numeral
