import SignificantFigures.Proofs.Expression.QuantityForm
import SignificantFigures.Proofs.Numeral.Pattern

/-!
The patterns of the kinds of token. A blank or a symbol is one character; a quantity has two
overlapping alternatives for its mantissa and two optional tails. The first match of a pattern at the
front of a text is the lexeme of the kind.
-/

set_option autoImplicit false

namespace SignificantFigures.Expression

open Numeral Text Text.Pattern

/-- Digits with a point behind or among them, or digits with a point in front of or among them. -/
def mantissaPattern : Pattern :=
  .either
    (.andThen (atLeastOne Char.isDigit)
      (.andThen (.optional (.one (· == '.'))) (.many Char.isDigit)))
    (.andThen (.many Char.isDigit)
      (.andThen (.optional (.one (· == '.'))) (atLeastOne Char.isDigit)))

def exponentPattern : Pattern :=
  .optional (.andThen (.one (· == exponentMark)) (.many Char.isDigit))

def markPattern : Pattern :=
  .optional (.one (· == exactMark))

def quantityPattern : Pattern :=
  .andThen mantissaPattern (.andThen exponentPattern markPattern)

/-- What a token of a kind looks like. -/
def Kind.pattern : Kind → Pattern
  | .whitespace => .one isBlank
  | .quantity => quantityPattern
  | kind => .one fun c => kind.symbol? == some c

section Parts

variable {group : Option (List Char)} {f : List Char → List Char}

private theorem run_markPattern (text : List Char) :
    markPattern.run (always f) group text = some (f (QuantityForm.readMark text).2) := by
  cases text with
  | nil => rfl
  | cons c rest =>
    by_cases mark : c = exactMark <;> simp [markPattern, run, always, QuantityForm.readMark, mark]

private theorem run_exponentPattern (text : List Char) :
    exponentPattern.run (always f) group text = some (f (QuantityForm.readExponent text).2) := by
  cases text with
  | nil => rfl
  | cons c rest =>
    by_cases mark : c = exponentMark
    · have digits : exponentPattern.run (always f) group (c :: rest) =
          ((many Char.isDigit).run (always f) group rest).or (some (f (c :: rest))) := by
        simp [exponentPattern, run, always, mark]
      rw [digits, run_many_always, Option.some_or, QuantityForm.readExponent, if_pos mark]
      rfl
    · simp [exponentPattern, run, always, QuantityForm.readExponent, mark]

/-- Where a text does not begin with a digit, only a point with digits behind it is a mantissa. -/
private theorem run_pointFirst {text : List Char} (stops : StopsDigits text) :
    (andThen (.many Char.isDigit)
        (.andThen (.optional (.one (· == '.'))) (atLeastOne Char.isDigit))).run (always f) group
        text =
      (Mantissa.complete [] text).map fun (_, rest) => f rest := by
  have tried : (andThen (.many Char.isDigit)
      (.andThen (.optional (.one (· == '.'))) (atLeastOne Char.isDigit))).run (always f) group text =
        ((andThen (.one (· == '.')) (atLeastOne Char.isDigit)).run (always f) group text).or
          ((atLeastOne Char.isDigit).run (always f) group text) :=
    repeated_of_head stops
  rw [tried, run_digits text, readDigits_of_stops stops, if_pos rfl, Option.or_none, run_pointed]

private theorem run_mantissaPattern (text : List Char) :
    mantissaPattern.run (always f) group text =
      (Mantissa.read text).map fun (_, rest) => f rest :=
  run_mantissa (fun _ stops => run_pointFirst stops) text

end Parts

private theorem frontMatch?_one (test : Char → Bool) (text : List Char) :
    (one test).frontMatch? text = oneChar? test text := by
  cases text with
  | nil => rfl
  | cons c rest =>
    have first : taken (c :: rest) rest = [c] := taken_append [c] rest
    simp [frontMatch?, run, oneChar?, first]

private theorem frontMatch?_quantityPattern (text : List Char) :
    quantityPattern.frontMatch? text = (QuantityForm.read text).map fun (form, _) => form.text := by
  have mark : markPattern.run (always (taken text)) =
      always (taken text ∘ fun left => (QuantityForm.readMark left).2) := by
    funext group left
    exact run_markPattern left
  have exponent : exponentPattern.run
      (always (taken text ∘ fun left => (QuantityForm.readMark left).2)) =
        always (taken text ∘ fun left =>
          (QuantityForm.readMark (QuantityForm.readExponent left).2).2) := by
    funext group left
    exact run_exponentPattern left
  have tried : quantityPattern.frontMatch? text =
      mantissaPattern.run (exponentPattern.run (markPattern.run (always (taken text)))) none text :=
    rfl
  rw [tried, mark, exponent, run_mantissaPattern]
  cases mantissa : Mantissa.read text with
  | none => simp [QuantityForm.read, mantissa]
  | some found =>
    -- the text that is left tells what is taken
    obtain ⟨m, rest⟩ := found
    have cut : QuantityForm.read text = some (⟨m, (QuantityForm.readExponent rest).1,
        (QuantityForm.readMark (QuantityForm.readExponent rest).2).1⟩,
        (QuantityForm.readMark (QuantityForm.readExponent rest).2).2) := by
      simp [QuantityForm.read, mantissa]
    rw [cut, Option.map_some, Option.map_some]
    exact congrArg some (taken_of_append (QuantityForm.read_append cut).1)

/-- The lexeme of a kind is the first match of its pattern. -/
theorem Kind.lexeme?_eq_frontMatch? (kind : Kind) (text : List Char) :
    kind.lexeme? text = kind.pattern.frontMatch? text := by
  cases kind with
  | quantity => exact (frontMatch?_quantityPattern text).symm
  | whitespace => exact (frontMatch?_one _ text).symm
  | _ => exact (frontMatch?_one _ text).symm

end SignificantFigures.Expression
