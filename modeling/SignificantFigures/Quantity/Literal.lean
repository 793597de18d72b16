import SignificantFigures.Numeral.Literal
import SignificantFigures.Quantity.Basic

/-!
Reading a quantity from a literal. With the mark of an exact number the mark is taken out and the
figures are not counted. Without it the figures of the mantissa are the precision, and a literal
without a significant figure is refused. A magnitude past the range of doubles is refused as well.
-/

set_option autoImplicit false

namespace SignificantFigures.Quantity

open Numeral

variable [PowersOfTen]

/-- The quantity of a literal in normal form. -/
def ofNormalized? (literal : List Char) : Option Quantity :=
  if literal.contains exactMark then
    match leadingDouble? (literal.erase exactMark) with
    | some (.finite magnitude) => some (ofExact magnitude)
    | _ => none
  else
    match leadingDouble? literal, figures? (splitExponent literal).1 with
    | some (.finite magnitude), some count =>
      some (ofPrecision magnitude (.figures count))
    | _, _ => none

/-- The quantity that a literal stands for, blanks and case aside. -/
def ofLiteral? (text : List Char) : Option Quantity :=
  ofNormalized? (normalized text)

end SignificantFigures.Quantity
