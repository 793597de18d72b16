import Mathlib.Tactic.IntervalCases
import SignificantFigures.Expression.Failure
import SignificantFigures.Proofs.Decimal.Nearest
import SignificantFigures.Proofs.Double.Order
import SignificantFigures.Proofs.Expression.QuantityForm
import SignificantFigures.Proofs.Expression.Scan
import SignificantFigures.Proofs.Numeral.Grammar
import SignificantFigures.Quantity.Literal

/-!
What the text of a quantity in an expression stands for. Cutting it as an expression and reading it
as a literal agree: it is a quantity unless its value is past the range of doubles or, without the
mark of exact numbers, all its digits are zero.
-/

set_option autoImplicit false

namespace SignificantFigures

open Numeral

namespace Expression

namespace QuantityForm

/-- The number that is written: the digits of the mantissa times a power of ten, from which the
places behind the point are taken. An exponent without digits counts as zero. -/
def value (f : QuantityForm) : Rat :=
  (Nat.ofDigitChars 10 f.mantissa.digits 0 : Rat) *
    (10 : Rat) ^ ((Nat.ofDigitChars 10 (f.exponent.getD []) 0 : Int) -
      ((f.mantissa.fraction.getD []).length : Int))

theorem value_nonneg (f : QuantityForm) : 0 ≤ f.value := by
  unfold value
  positivity

/-- A form whose value is past the range of doubles, or without the mark and without a digit other
than zero. -/
def Void (f : QuantityForm) : Prop :=
  Double.nearest f.value = .infinite false ∨
    (exactMark ∉ f.text ∧ ∀ c ∈ f.mantissa.digits, c = '0')

variable {f : QuantityForm}

/-- The nearest double to a value is finite or infinite without a sign. -/
theorem nearest_value (f : QuantityForm) :
    (∃ x, Double.nearest f.value = .finite x) ∨ Double.nearest f.value = .infinite false := by
  rw [Double.nearest_of_nonneg f.value_nonneg]
  rcases Double.ofSize_spec false f.value_nonneg with ⟨x, found, -⟩ | ⟨found, -⟩
  · exact Or.inl ⟨x, found⟩
  · exact Or.inr found

/-- A form up to the mark as a literal without a minus sign. -/
def literal (f : QuantityForm) : LiteralForm :=
  ⟨false, f.mantissa, f.exponent.map fun digits => (false, digits)⟩

private theorem text_literal (f : QuantityForm) : f.literal.text = f.body := by
  obtain ⟨mantissa, exponent, marked⟩ := f
  cases exponent <;> rfl

private theorem size_literal (f : QuantityForm) : f.literal.value.size = f.value := by
  obtain ⟨mantissa, exponent, marked⟩ := f
  cases exponent <;> rfl

section Reading

variable (wf : f.WellFormed)

include wf

private theorem wellFormed_literal : f.literal.WellFormed := by
  refine ⟨wf.mantissa, ?_⟩
  intro negative digits written
  obtain ⟨digits', written', equal⟩ := Option.map_eq_some_iff.mp written
  obtain ⟨rfl, rfl⟩ := Prod.mk.inj equal
  have all := wf.exponent
  rw [written', Option.getD_some] at all
  exact ⟨all, fun minus => nomatch minus⟩

theorem leadingDouble?_body : leadingDouble? f.body = some (Double.nearest f.value) := by
  rw [← text_literal, (wellFormed_literal wf).leadingDouble?_text,
    Double.nearest_of_nonneg f.value_nonneg, Decimal.nearest_eq, size_literal]
  rfl

theorem splitExponent_body : (splitExponent f.body).1 = f.mantissa.text := by
  rw [← text_literal, (wellFormed_literal wf).splitExponent_text]
  rfl

theorem erase_text (marked : f.marked = true) : f.text.erase exactMark = f.body := by
  rw [text_eq, List.erase_append_right _ wf.exactMark_not_mem_body, marked]
  simp [markText]

/-- The literal of a form: its value, exact with the mark and with the figures of the mantissa
without it. -/
theorem ofLiteral?_text [PowersOfTen] :
    Quantity.ofLiteral? f.text =
      match Double.nearest f.value with
      | .finite magnitude =>
        if f.marked then some (Quantity.ofExact magnitude)
        else if dropZeros f.mantissa.digits = [] then none
        else some (Quantity.ofPrecision magnitude (.figures f.mantissa.figures.length))
      | _ => none := by
  rw [Quantity.ofLiteral?, normalized_of_isPlain fun _ => wf.isPlain, Quantity.ofNormalized?]
  cases marked : f.marked with
  | true =>
    have mark : f.text.contains exactMark = true := by
      rw [List.contains_iff_mem, wf.exactMark_mem_text, marked]
    rw [if_pos mark, erase_text wf marked, leadingDouble?_body wf]
    cases Double.nearest f.value <;> rfl
  | false =>
    have text : f.text = f.body := by
      simp [text_eq, marked, markText]
    have free : f.text.contains exactMark = false := by
      rw [← Bool.not_eq_true, List.contains_iff_mem, wf.exactMark_mem_text, marked]
      exact Bool.false_ne_true
    rw [if_neg (by rw [free]; exact Bool.false_ne_true), text, leadingDouble?_body wf,
      splitExponent_body wf, figures?_text wf.mantissa]
    by_cases void : dropZeros f.mantissa.digits = []
    · simp only [if_pos void]
      cases Double.nearest f.value <;> rfl
    · simp only [if_neg void]
      cases Double.nearest f.value <;> rfl

/-- The text of a form is cut into one token, if it stands for a quantity. -/
theorem tokens?_text [PowersOfTen] :
    tokens? f.text =
      match Quantity.ofLiteral? f.text with
      | some q => .ok [⟨.quantity, 0, f.text, .quantity q⟩]
      | none => .error ⟨0, .noQuantity f.text⟩ := by
  rw [tokens?, scan_of_lexeme? 0 wf.lexeme?_text, payload?, if_pos rfl]
  cases Quantity.ofLiteral? f.text <;> rfl

/-- A form stands for no quantity just when it is void. -/
theorem ofLiteral?_text_eq_none_iff [PowersOfTen] : Quantity.ofLiteral? f.text = none ↔ f.Void := by
  rw [ofLiteral?_text wf, Void, wf.exactMark_mem_text, ← dropZeros_eq_nil_iff]
  rcases f.nearest_value with ⟨x, found⟩ | found
  · rw [found]
    cases f.marked <;> simp
  · simp [found]

/-- What is read of a form that is not void. -/
theorem exists_ofLiteral?_text [PowersOfTen] (filled : ¬ f.Void) :
    ∃ q, Quantity.ofLiteral? f.text = some q ∧ Double.nearest f.value = .finite q.magnitude ∧
      (q.isExact = true ↔ f.marked = true) ∧
      (f.marked = false → q.precision = .figures f.mantissa.figures.length) := by
  rw [Void, wf.exactMark_mem_text, ← dropZeros_eq_nil_iff, not_or] at filled
  rw [ofLiteral?_text wf]
  rcases f.nearest_value with ⟨x, found⟩ | found
  · rw [found]
    cases marked : f.marked with
    | true => exact ⟨_, rfl, rfl, iff_of_true rfl rfl, fun unmarked => nomatch unmarked⟩
    | false =>
      have digit : dropZeros f.mantissa.digits ≠ [] := by simpa [marked] using filled.2
      refine ⟨Quantity.ofPrecision x (.figures f.mantissa.figures.length), ?_, rfl, ?_, ?_⟩
      · simp only [Bool.false_eq_true, if_false, if_neg digit]
      · exact iff_of_false (by simp [Quantity.isExact, Quantity.ofPrecision, Quantity.placeFor])
          Bool.false_ne_true
      · exact fun _ => Quantity.precision_ofPrecision x _
  · exact absurd found filled.1

end Reading

end QuantityForm

/-- The characters of quantities stand for themselves between quotes. -/
private theorem quotedChar_eq {c : Char} (plain : c.isDigit = true ∨ c = '.' ∨ c = exponentMark ∨
    c = exactMark) : Text.quotedChar Text.singleQuote c = [c] := by
  rcases plain with digit | rfl | rfl | rfl
  · obtain ⟨low, high⟩ := isDigit_iff.mp digit
    rw [← Char.ofNat_toNat c]
    generalize c.toNat = n at low high
    interval_cases n <;> decide +kernel
  all_goals decide +kernel

private theorem quoted_text {f : QuantityForm} (wf : f.WellFormed) :
    Text.quoted f.text = Text.singleQuote :: f.text ++ [Text.singleQuote] := by
  have plain : ∀ c ∈ f.text, c.isDigit = true ∨ c = '.' ∨ c = exponentMark ∨ c = exactMark := by
    intro c hc
    rw [QuantityForm.text_eq, List.mem_append, QuantityForm.mem_markText] at hc
    rcases hc with front | ⟨-, mark⟩
    · rcases wf.of_mem_body front with digit | point | mark
      · exact Or.inl digit
      · exact Or.inr (Or.inl point)
      · exact Or.inr (Or.inr (Or.inl mark))
    · exact Or.inr (Or.inr (Or.inr mark))
  have unquoted : f.text.contains Text.singleQuote = false := by
    rw [← Bool.not_eq_true, List.contains_iff_mem]
    intro quote
    exact absurd (plain _ quote) (by decide)
  have kept : f.text.flatMap (Text.quotedChar Text.singleQuote) = f.text := by
    rw [List.flatMap_congr fun c hc => quotedChar_eq (plain c hc), List.flatMap_singleton']
  have quote : Text.quoteFor f.text = Text.singleQuote := by
    rw [Text.quoteFor, unquoted]
    rfl
  rw [Text.quoted, quote, kept]

/-- What reading the characters of a quantity as a literal gives agrees with what cutting them as an
expression gives. Nothing is read, and cutting fails with a message that shows them, just when the
form is void. Otherwise the quantity read is the payload of the one token: the double nearest to the
value, exact just when the last character is the mark, and else with the significant figures of the
mantissa. -/
theorem literal_agrees_with_lexer [PowersOfTen] (f : QuantityForm) (wf : f.WellFormed) :
    (Quantity.ofLiteral? f.text = none ↔ f.Void) ∧
    (tokens? f.text = .error ⟨0, .noQuantity f.text⟩ ↔ f.Void) ∧
    (∀ radius, Failure.message ⟨0, .noQuantity f.text⟩ f.text radius =
      "Invalid quantity ".toList ++ (Text.singleQuote :: f.text ++ [Text.singleQuote]) ++
        " at character index 0".toList) ∧
    (¬ f.Void → ∃ q, Quantity.ofLiteral? f.text = some q ∧
      tokens? f.text = .ok [⟨.quantity, 0, f.text, .quantity q⟩] ∧
      Double.nearest f.value = .finite q.magnitude ∧
      (q.isExact = true ↔ f.text.getLast? = some exactMark) ∧
      (exactMark ∉ f.text → q.precision = .figures f.mantissa.figures.length)) := by
  have void_iff := QuantityForm.ofLiteral?_text_eq_none_iff wf
  refine ⟨void_iff, ?_, ?_, ?_⟩
  · rw [← void_iff, QuantityForm.tokens?_text wf]
    cases Quantity.ofLiteral? f.text <;> simp
  · intro radius
    have start : Nat.toDigits 10 0 = ['0'] := by decide
    show _ ++ Text.quoted f.text ++ _ ++ Nat.toDigits 10 0 = _
    rw [quoted_text wf, start, List.append_assoc]
    rfl
  · intro filled
    obtain ⟨q, read, magnitude, exact, figures⟩ := QuantityForm.exists_ofLiteral?_text wf filled
    refine ⟨q, read, ?_, magnitude, exact.trans wf.getLast?_text.symm, ?_⟩
    · rw [QuantityForm.tokens?_text wf, read]
    · intro unmarked
      exact figures (by simpa [wf.exactMark_mem_text] using unmarked)

/-- An exponent mark without digits does not count: 0.050e has two figures. The exact 1e400c is past
the range of doubles. -/
theorem literal_agrees_with_lexer_exponents :
    let f : QuantityForm := ⟨⟨['0'], some ['0', '5', '0']⟩, some [], false⟩
    let g : QuantityForm := ⟨⟨['1'], none⟩, some ['4', '0', '0'], true⟩
    f.WellFormed ∧ f.text = "0.050e".toList ∧
      (∃ q, Quantity.ofLiteral? f.text = some q ∧
        tokens? f.text = .ok [⟨.quantity, 0, f.text, .quantity q⟩] ∧ q.precision = .figures 2) ∧
      g.WellFormed ∧ g.text = "1e400c".toList ∧
      tokens? g.text = .error ⟨0, .noQuantity g.text⟩ := by
  intro f g
  have wf : f.WellFormed :=
    ⟨⟨by decide, List.all_eq_true.mp (by decide)⟩, List.all_eq_true.mp (by decide)⟩
  have wg : g.WellFormed :=
    ⟨⟨by decide, List.all_eq_true.mp (by decide)⟩, List.all_eq_true.mp (by decide)⟩
  have filled : ¬ f.Void := by
    rintro (past | ⟨-, zeros⟩)
    · have found : Double.nearest f.value ≠ .infinite false := by decide +kernel
      exact found past
    · exact absurd (zeros '5' (by decide)) (by decide)
  have past : g.Void := Or.inl (by decide +kernel)
  obtain ⟨q, read, cut, -, -, figures⟩ := (literal_agrees_with_lexer f wf).2.2.2 filled
  exact ⟨wf, rfl, ⟨q, read, cut, figures (by decide)⟩, wg, rfl,
    (literal_agrees_with_lexer g wg).2.1.mpr past⟩

end Expression

end SignificantFigures
