import SignificantFigures.Proofs.Numeral.Counted
import SignificantFigures.Proofs.Numeral.Grammar
import SignificantFigures.Quantity.Literal

/-!
The literals that are accepted, and what they stand for. All of the grammar with a figure and a
finite value is among them, and so are literals that go on behind a number: with one point too many
behind the mantissa, with anything behind the exponent mark, and with anything behind the number of
a literal that has the mark of exact numbers somewhere.
-/

set_option autoImplicit false

namespace SignificantFigures

open Numeral

namespace Quantity

section Grammar

variable [PowersOfTen]

/-- A literal that is accepted, and the quantity it stands for. -/
inductive Accepted : List Char → Quantity → Prop where
  /-- A counted mantissa with its sign, and from the exponent mark on anything: only the exponent at
  the front of it is read. -/
  | figures (negative : Bool) {m : Mantissa} {tail : List Char} {magnitude : Double.Finite}
      (wf : m.WellFormed) (figure : dropZeros m.digits ≠ [])
      (mark : ∀ c ∈ tail.head?, c = exponentMark) (unmarked : exactMark ∉ tail)
      (value : (⟨Sign.ofNegative negative, m, (Exponent.read tail).1⟩ : Numeral).value.nearest =
        .finite magnitude) :
      Accepted (signed negative m.text ++ tail) (ofPrecision magnitude (.figures m.figures.length))
  /-- The same with a second point: then the exponent is not read. -/
  | secondPoint (negative : Bool) {m : Mantissa} {tail : List Char} {magnitude : Double.Finite}
      (wf : m.WellFormed) (whole : dropZeros m.whole ≠ []) (fraction : m.fraction.getD [] ≠ [])
      (mark : ∀ c ∈ tail.head?, c = exponentMark) (unmarked : exactMark ∉ tail)
      (value : (⟨Sign.ofNegative negative, m, none⟩ : Numeral).value.nearest = .finite magnitude) :
      Accepted (signed negative (m.text ++ ['.']) ++ tail)
        (ofPrecision magnitude (.figures m.figures.length))
  /-- A number with anything behind it, once the first mark of exact numbers is taken out. -/
  | exact {literal tail : List Char} {sign : Option Sign} {m : Mantissa} {magnitude : Double.Finite}
      (marked : exactMark ∈ literal) (wf : m.WellFormed) (stops : m.Stops tail)
      (front : literal.erase exactMark = Sign.text sign ++ (m.text ++ tail))
      (value : (⟨sign, m, (Exponent.read tail).1⟩ : Numeral).value.nearest = .finite magnitude) :
      Accepted literal (ofExact magnitude)

variable {text literal : List Char} {q : Quantity}

omit [PowersOfTen] in
/-- What follows the figures does not go on with them. -/
private theorem stops_of_mark {tail : List Char} (m : Mantissa)
    (mark : ∀ c ∈ tail.head?, c = exponentMark) : m.Stops tail := by
  refine ⟨fun c hc => ?_, fun _ c hc => ?_⟩
  · rw [mark c hc]
    rfl
  · rw [mark c hc]
    decide

omit [PowersOfTen] in
/-- The number at the front of a literal whose figures are counted. -/
private theorem leadingDouble?_mantissa {m : Mantissa} {tail : List Char} (negative : Bool)
    (wf : m.WellFormed) (mark : ∀ c ∈ tail.head?, c = exponentMark) :
    leadingDouble? (signed negative m.text ++ tail) =
      some (⟨Sign.ofNegative negative, m, (Exponent.read tail).1⟩ : Numeral).value.nearest := by
  rw [signed_eq, List.append_assoc, leadingDouble?_append wf (stops_of_mark m mark)]

omit [PowersOfTen] in
private theorem leadingDouble?_secondPoint {m : Mantissa} (negative : Bool) (tail : List Char)
    (wf : m.WellFormed) (fraction : m.fraction.getD [] ≠ []) :
    leadingDouble? (signed negative (m.text ++ ['.']) ++ tail) =
      some (⟨Sign.ofNegative negative, m, none⟩ : Numeral).value.nearest := by
  obtain ⟨behind, written, -⟩ := Mantissa.exists_fraction fraction
  have stops : m.Stops ('.' :: tail) :=
    ⟨stopsDigits_point tail, fun pointless => nomatch written.symm.trans pointless⟩
  rw [signed_eq, List.append_assoc, List.append_assoc, List.cons_append, List.nil_append,
    leadingDouble?_append wf stops]
  rfl

omit [PowersOfTen] in
/-- A counted text has digits, points and a sign. -/
private theorem isDigit_of_mem_counted {front : List Char} {count : Nat}
    (counted : Counted front count) {c : Char} (hc : c ∈ front) :
    c.isDigit = true ∨ c = '.' ∨ c = '+' ∨ c = '-' := by
  rcases counted with ⟨negative, wf, -⟩ | ⟨negative, wf, -, -⟩
  · rw [signed_eq, List.mem_append] at hc
    rcases hc with sign | mantissa
    · exact Or.inr (Or.inr (Sign.isWritten_of_mem_text sign))
    · exact (wf.of_mem_text mantissa).imp_right Or.inl
  · rw [signed_eq, List.mem_append, List.mem_append, List.mem_singleton] at hc
    rcases hc with sign | mantissa | point
    · exact Or.inr (Or.inr (Sign.isWritten_of_mem_text sign))
    · exact (wf.of_mem_text mantissa).imp_right Or.inl
    · exact Or.inr (Or.inl point)

/-- Without the mark of exact numbers a literal is a counted text and what follows from the exponent
mark on. -/
private theorem ofNormalized?_append {front tail : List Char} {count : Nat}
    {magnitude : Double.Finite} (counted : Counted front count)
    (mark : ∀ c ∈ tail.head?, c = exponentMark) (unmarked : exactMark ∉ tail)
    (value : leadingDouble? (front ++ tail) = some (.finite magnitude)) :
    ofNormalized? (front ++ tail) = some (ofPrecision magnitude (.figures count)) := by
  have free : exponentMark ∉ front := fun hc =>
    absurd (isDigit_of_mem_counted counted hc) (by decide)
  have unmarked' : (front ++ tail).contains exactMark = false := by
    rw [← Bool.not_eq_true, List.contains_iff_mem, List.mem_append, not_or]
    exact ⟨fun hc => absurd (isDigit_of_mem_counted counted hc) (by decide), unmarked⟩
  rw [ofNormalized?, if_neg (by rw [unmarked']; exact Bool.false_ne_true), value,
    splitExponent_append free mark, figures?_eq_some_iff.mpr counted]

theorem Accepted.ofNormalized? (accepted : Accepted literal q) :
    Quantity.ofNormalized? literal = some q := by
  cases accepted with
  | figures negative wf figure mark unmarked value =>
    have read := leadingDouble?_mantissa negative wf mark
    rw [value] at read
    exact ofNormalized?_append (.mantissa negative wf figure) mark unmarked read
  | @secondPoint negative m tail magnitude wf whole fraction mark unmarked value =>
    have read := leadingDouble?_secondPoint negative tail wf fraction
    rw [value] at read
    exact ofNormalized?_append (.secondPoint negative wf whole fraction) mark unmarked read
  | exact marked wf stops front value =>
    rw [Quantity.ofNormalized?, if_pos (List.contains_iff_mem.mpr marked), front,
      leadingDouble?_append wf stops, value]

theorem accepted_of_ofNormalized? (read : ofNormalized? literal = some q) : Accepted literal q := by
  unfold ofNormalized? at read
  split at read
  · next marked =>
    split at read
    · next magnitude found =>
      obtain rfl := Option.some.inj read
      obtain ⟨sign, m, tail, wf, stops, front, value⟩ := leadingDouble?_eq_some_iff.mp found
      exact .exact (List.contains_iff_mem.mp marked) wf stops front value
    · exact nomatch read
  · next unmarked =>
    rw [List.contains_iff_mem] at unmarked
    split at read
    · next magnitude count found counted =>
      obtain rfl := Option.some.inj read
      obtain ⟨tail, cut, mark⟩ := exists_splitExponent_append literal
      rw [figures?_eq_some_iff] at counted
      generalize (splitExponent literal).1 = front at cut counted
      subst cut
      have unmarked' : exactMark ∉ tail := fun hc => unmarked (List.mem_append_right _ hc)
      rcases counted with ⟨negative, wf, figure⟩ | ⟨negative, wf, whole, fraction⟩
      · rw [leadingDouble?_mantissa negative wf mark] at found
        exact .figures negative wf figure mark unmarked' (Option.some.inj found)
      · rw [leadingDouble?_secondPoint negative tail wf fraction] at found
        exact .secondPoint negative wf whole fraction mark unmarked' (Option.some.inj found)
    · exact nomatch read

/-- A literal stands for a quantity just when its normal form is accepted as it, and a text has a
count of its figures just when it is a counted one: of these texts some are not in the grammar. -/
theorem accepted_literals (text : List Char) :
    (∀ q, ofLiteral? text = some q ↔ Accepted (normalized text) q) ∧
    (∀ count, figures? text = some count ↔ Counted text count) :=
  ⟨fun _ => ⟨accepted_of_ofNormalized?, Accepted.ofNormalized?⟩, fun _ => figures?_eq_some_iff⟩

end Grammar

/-- A second point is accepted and counted over: 1.5. stands for 1.5 with two figures. -/
theorem accepted_literals_second_point :
    let text := "1.5.".toList
    (∃ q, ofLiteral? text = some q) ∧ ¬ IsGrammatical (normalized text) ∧
      figures? text = some 2 ∧
      ∀ negative, ∀ m : Mantissa, m.WellFormed → text ≠ signed negative m.text := by
  intro text
  have normal : normalized text = text := by decide +kernel
  have outside : ¬ IsGrammatical text := by
    intro grammatical
    exact absurd grammatical.count_point_le (by decide)
  have read : ofLiteral? text =
      some ⟨⟨false, 6755399441055744, -52, by decide⟩, .place (-1)⟩ := by decide +kernel
  refine ⟨⟨_, read⟩, normal ▸ outside, by decide +kernel, ?_⟩
  intro negative m wf written
  exact outside ⟨⟨negative, m, none⟩, ⟨wf, fun _ _ exponent => nomatch exponent⟩, Or.inl (by
    rw [written, LiteralForm.text, LiteralForm.exponentText, List.append_nil])⟩

end Quantity

end SignificantFigures
