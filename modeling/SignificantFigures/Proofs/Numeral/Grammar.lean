import SignificantFigures.Proofs.Numeral.Digits
import SignificantFigures.Proofs.Numeral.Literal

/-!
The grammar of literals: an optional minus sign and a mantissa, then optionally the exponent mark
with an optional minus sign and digits, then optionally the mark of exact numbers. Up to the mark
such a literal is read as the number that is written, and its figures are those of its mantissa.
-/

set_option autoImplicit false

namespace SignificantFigures.Numeral

/-- A literal of the grammar up to the mark of exact numbers: whether it is negative, its mantissa,
and the sign and the digits of its exponent. -/
structure LiteralForm where
  negative : Bool
  mantissa : Mantissa
  exponent : Option (Bool × List Char)
  deriving DecidableEq

namespace LiteralForm

def exponentText : Option (Bool × List Char) → List Char
  | none => []
  | some (negative, digits) => exponentMark :: signed negative digits

def text (f : LiteralForm) : List Char :=
  signed f.negative f.mantissa.text ++ exponentText f.exponent

/-- The exponent as a number; without digits it counts as zero. -/
def exponentValue : Option (Bool × List Char) → Int
  | none => 0
  | some (negative, digits) =>
    let size : Int := Nat.ofDigitChars 10 digits 0
    if negative then -size else size

/-- The decimal that is written: the digits of the mantissa and the place of the last of them. -/
def value (f : LiteralForm) : Decimal :=
  ⟨f.negative, Nat.ofDigitChars 10 f.mantissa.digits 0,
    exponentValue f.exponent - ((f.mantissa.fraction.getD []).length : Int)⟩

/-- Digits where digits belong; the exponent mark may stand alone, but a minus sign behind it may
not. -/
structure WellFormed (f : LiteralForm) : Prop where
  mantissa : f.mantissa.WellFormed
  exponent : ∀ negative digits, f.exponent = some (negative, digits) →
    (∀ c ∈ digits, c.isDigit = true) ∧ (negative = true → digits ≠ [])

variable {f : LiteralForm}

theorem head?_exponentText (exponent : Option (Bool × List Char)) :
    ∀ c ∈ (exponentText exponent).head?, c = exponentMark := by
  rcases exponent with _ | ⟨negative, digits⟩ <;> simp [exponentText]

section Reading

variable (wf : f.WellFormed)

include wf

/-- An exponent mark without digits is no exponent of a numeral, and counts as zero just as well. -/
theorem WellFormed.value_read_exponentText :
    Exponent.value (Exponent.read (exponentText f.exponent)).1 = exponentValue f.exponent := by
  rcases written : f.exponent with _ | ⟨negative, digits⟩
  · rfl
  · obtain ⟨all, -⟩ := wf.exponent negative digits written
    have unsigned := Sign.read_text_append (Sign.ofNegative negative) fun c hc =>
      Sign.ne_sign_of_isDigit (all c (List.mem_of_mem_head? hc))
    rw [← signed_eq] at unsigned
    simp only [exponentText, Exponent.read, unsigned, readDigits_digits all, true_and]
    by_cases empty : digits = []
    · rw [if_neg (by simp [empty]), empty]
      cases negative <;> rfl
    · rw [if_pos empty]
      cases negative <;> rfl

theorem WellFormed.leadingDouble?_text : leadingDouble? f.text = some f.value.nearest := by
  have stops : f.mantissa.Stops (exponentText f.exponent) := by
    rcases f.exponent with _ | ⟨negative, digits⟩ <;>
      simp [Mantissa.Stops, StopsDigits, exponentText, exponentMark]
  rw [text, signed_eq, List.append_assoc, leadingDouble?_append wf.mantissa stops]
  simp only [Numeral.value, wf.value_read_exponentText, Sign.decide_ofNegative]
  rfl

theorem WellFormed.splitExponent_text :
    (splitExponent f.text).1 = signed f.negative f.mantissa.text := by
  refine splitExponent_append ?_ (head?_exponentText f.exponent)
  rw [signed_eq, List.mem_append]
  rintro (sign | mantissa)
  · exact absurd (Sign.isWritten_of_mem_text sign) (by decide)
  · exact absurd (wf.mantissa.of_mem_text mantissa) (by decide)

theorem WellFormed.isWritten {c : Char} (hc : c ∈ f.text) : IsWritten c := by
  rw [text, signed_eq, List.append_assoc, List.mem_append, List.mem_append] at hc
  rcases hc with sign | mantissa | exponent
  · rcases Sign.isWritten_of_mem_text sign with rfl | rfl <;> simp [IsWritten]
  · rcases wf.mantissa.of_mem_text mantissa with digit | rfl
    · exact Or.inl digit
    · simp [IsWritten]
  · rcases written : f.exponent with _ | ⟨negative, digits⟩
    · simp [written, exponentText] at exponent
    · simp only [written, exponentText, signed_eq, List.mem_cons, List.mem_append] at exponent
      rcases exponent with rfl | sign | digit
      · simp [IsWritten]
      · rcases Sign.isWritten_of_mem_text sign with rfl | rfl <;> simp [IsWritten]
      · exact Or.inl ((wf.exponent negative digits written).1 c digit)

theorem WellFormed.exactMark_not_mem_text : exactMark ∉ f.text :=
  fun marked => (wf.isWritten marked).ne_exactMark rfl

end Reading

end LiteralForm

/-- A literal of the grammar, with the mark of exact numbers at the end or without it. -/
def IsGrammatical (literal : List Char) : Prop :=
  ∃ f : LiteralForm, f.WellFormed ∧ (literal = f.text ∨ literal = f.text ++ [exactMark])

/-- A literal of the grammar has at most one point. -/
theorem IsGrammatical.count_point_le {literal : List Char} (grammatical : IsGrammatical literal) :
    literal.count '.' ≤ 1 := by
  obtain ⟨f, wf, form⟩ := grammatical
  have pointless {text : List Char} (all : ∀ c ∈ text, c.isDigit = true) : text.count '.' = 0 :=
    List.count_eq_zero.mpr fun point => absurd (all '.' point) (by decide)
  have sign (negative : Bool) (text : List Char) :
      (signed negative text).count '.' = text.count '.' := by
    cases negative <;> simp [signed]
  have exponent : (LiteralForm.exponentText f.exponent).count '.' = 0 := by
    rcases written : f.exponent with _ | ⟨negative, digits⟩
    · rfl
    · rw [LiteralForm.exponentText, List.count_cons_of_ne (by decide), sign]
      exact pointless (wf.exponent negative digits written).1
  have mantissa : f.mantissa.text.count '.' ≤ 1 := by
    have whole := pointless wf.mantissa.whole
    cases written : f.mantissa.fraction with
    | none =>
      rw [Mantissa.text_of_none written]
      omega
    | some behind =>
      have fraction := pointless (wf.mantissa.fraction written)
      rw [Mantissa.text_of_some written, List.count_append, List.count_cons_self]
      omega
  have text : f.text.count '.' ≤ 1 := by
    rw [LiteralForm.text, List.count_append, sign]
    omega
  rcases form with rfl | rfl
  · exact text
  · rwa [List.count_append, show [exactMark].count '.' = 0 by decide]

end SignificantFigures.Numeral
