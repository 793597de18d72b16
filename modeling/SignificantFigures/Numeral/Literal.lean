import SignificantFigures.Numeral.Figures
import SignificantFigures.Text.Blank
import SignificantFigures.Text.LowerCase

/-!
The text of a literal: its normal form without blanks and in lower case, the mark of an exact
number, and the split at the exponent mark.
-/

set_option autoImplicit false

namespace SignificantFigures.Numeral

/-- The mark of an exact number. -/
def exactMark : Char := 'c'

/-- A literal without blanks and in lower case. -/
def normalized (text : List Char) : List Char :=
  Text.lower (Text.withoutBlanks text)

/-- A literal cut at the first exponent mark; without a mark there is no second part. -/
def splitExponent (literal : List Char) : List Char × Option (List Char) :=
  match literal.dropWhile (· != exponentMark) with
  | [] => (literal, none)
  | _ :: exponent => (literal.takeWhile (· != exponentMark), some exponent)

end SignificantFigures.Numeral
