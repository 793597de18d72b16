import SignificantFigures.Numeral.Basic

/-!
Counting the significant figures of a written number without an exponent. Zeros in front never
count. Zeros at the end count when a point is written and not otherwise, and a number without a
figure other than zero has no count.
-/

set_option autoImplicit false

namespace SignificantFigures.Numeral

/-- The text without the zeros at its front. -/
def dropZeros (text : List Char) : List Char :=
  text.dropWhile (· == '0')

/-- The text without the zeros at its end. -/
def dropLastZeros (text : List Char) : List Char :=
  (dropZeros text.reverse).reverse

/-- The figures of a fraction whose whole part is zero or missing. -/
def fractionFigures? (behind : List Char) : Option Nat :=
  let figures := dropZeros behind
  if !figures.isEmpty && figures.all Char.isDigit then some figures.length else none

/-- The figures of a whole part that does not start with zero, and of what is written behind it.
One more point may end the text. -/
def wholeFigures? (text : List Char) : Option Nat :=
  let (whole, rest) := readDigits text
  if whole.isEmpty then none
  else
    match rest with
    | [] => some (dropLastZeros whole).length
    | '.' :: behind =>
      let (fraction, rest) := readDigits behind
      if rest.isEmpty || (rest == ['.'] && !fraction.isEmpty) then
        some (whole.length + fraction.length)
      else none
    | _ => none

/-- The number of significant figures of a text that is a number without an exponent. -/
def figures? (text : List Char) : Option Nat :=
  let unsigned := match text with
    | '-' :: rest => rest
    | _ => text
  match dropZeros unsigned with
  | '.' :: behind => fractionFigures? behind
  | rest => wholeFigures? rest

end SignificantFigures.Numeral
