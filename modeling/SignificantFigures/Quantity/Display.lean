import SignificantFigures.Double.Text
import SignificantFigures.Quantity.Literal
import SignificantFigures.Quantity.Rounding

/-!
Quantities as text. `display` writes a text that reads back with the same precision: positional
where the zeros at its end say the right thing, with a point behind where they are significant
units, and scientific where positional text would be read with another precision.
-/

set_option autoImplicit false

namespace SignificantFigures.Quantity

variable [PowersOfTen]

/-- The rounded magnitude in positional form, with the places that are significant. -/
def positional (q : Quantity) : Except Decimal.Fault (List Char) :=
  match q.lastPlace with
  | .exact => .ok (Double.finite q.magnitude).plainText
  | .place place => q.rounded.map fun r => r.magnitude.fixedText (-place).toNat

/-- How an exponent is joined to a mantissa. -/
inductive ExponentStyle where
  | letter
  | superscript
  deriving DecidableEq

def ExponentStyle.render : ExponentStyle → Int → List Char
  | letter, exponent => Numeral.exponentMark :: integerText exponent
  | superscript, exponent => "<sup>".toList ++ integerText exponent ++ "</sup>".toList

/-- The rounded magnitude as a mantissa and its decade; zero where no figure is significant. -/
def scientific (q : Quantity) (style : ExponentStyle) : Except Decimal.Fault (List Char) :=
  if q.magnitude.isZero then .ok ['0']
  else
    match q.precision with
    | .exact =>
      let decade := q.magnitude.decade
      (q.magnitude.mantissa decade).map fun m => m.plainText ++ style.render decade
    | .figures count =>
      if count < 1 then .ok ['0']
      else do
        let magnitude := (← q.rounded).magnitude
        let mantissa ← magnitude.mantissa magnitude.decade
        .ok (mantissa.fixedText (count - 1).toNat ++ style.render magnitude.decade)

/-- The form that a quantity is displayed in, with its positional text. -/
inductive Layout where
  /-- Exact: the mark of exact numbers is put behind. -/
  | exact (text : List Char)
  /-- As it stands. -/
  | plain (text : List Char)
  /-- The zeros at the end are significant units: a point is put behind. -/
  | pointed (text : List Char)
  /-- The zeros at the end would be misread: the scientific form is taken instead. -/
  | ambiguous (text : List Char)
  deriving DecidableEq

/-- Whether a positional text reads back with the precision of a quantity. -/
def readsWithPrecision (q : Quantity) (text : List Char) : Bool :=
  (ofLiteral? text).map precision == some q.precision

/-- The form for a positional text of a rounded quantity. -/
def layoutOf (q : Quantity) (text : List Char) : Layout :=
  match q.lastPlace with
  | .exact => .exact text
  | .place place =>
    if place < 0 then .plain text
    else if place = 0 then if q.magnitude.isMultipleOfTen then .pointed text else .plain text
    else if q.readsWithPrecision text then .plain text
    else .ambiguous text

/-- The form in which a quantity is displayed once it is rounded. -/
def layout (q : Quantity) : Except Decimal.Fault Layout := do
  let rounded ← q.rounded
  (rounded.positional).map rounded.layoutOf

/-- The text of a quantity. -/
def display (q : Quantity) (style : ExponentStyle) : Except Decimal.Fault (List Char) := do
  match ← q.layout with
  | .exact text => .ok (text ++ [Numeral.exactMark])
  | .plain text => .ok text
  | .pointed text => .ok (text ++ ['.'])
  | .ambiguous _ => (← q.rounded).scientific style

end SignificantFigures.Quantity
