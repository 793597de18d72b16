import SignificantFigures.Quantity.Error
import SignificantFigures.Quantity.Literal
import SignificantFigures.Value.Number

/-!
Building quantities from untyped values. A magnitude is an integer or a double and finite; a
precision is a positive integer, a place any integer, and an infinity of the right sign stands for
exactness in either. Nothing is converted silently, and the magnitude is looked at first.
-/

set_option autoImplicit false

namespace SignificantFigures.Quantity

variable [PowersOfTen]

/-- A double as a magnitude, if it is finite. -/
def finiteMagnitude : Double → Except Error Double.Finite
  | .finite x => .ok x
  | other => .error (.notFinite other)

def magnitudeOf : Value → Except Error Double.Finite
  | .double x => finiteMagnitude x
  | .integer n =>
    match Double.ofInteger n with
    | .finite x => .ok x
    | _ => .error .tooGreat
  | v => .error (Error.notANumber v).raised

def precisionOf (v : Value) : Except Error Precision :=
  match v with
  | .double (.infinite false) => .ok .exact
  | .integer n => if n < 1 then .error (Error.badPrecision v).raised else .ok (.figures n)
  | _ => .error (Error.badPrecision v).raised

/-- A value as the place of the last figure. -/
def lastPlaceOf (v : Value) : Except Error LastPlace :=
  match v with
  | .double (.infinite true) => .ok .exact
  | .integer n => .ok (.place n)
  | _ => .error (Error.badPlace v).raised

def build (magnitude precision : Value) : Except Error Quantity := do
  let magnitude ← magnitudeOf magnitude
  let precision ← precisionOf precision
  .ok (ofPrecision magnitude precision)

def buildExact (magnitude : Value) : Except Error Quantity :=
  (magnitudeOf magnitude).map ofExact

/-- A quantity from its magnitude and last place. -/
def buildAtPlace (magnitude place : Value) : Except Error Quantity := do
  let magnitude ← magnitudeOf magnitude
  let place ← lastPlaceOf place
  .ok ⟨magnitude, place⟩

def ofLiteral (text : List Char) : Except Error Quantity :=
  match ofLiteral? text with
  | some q => .ok q
  | none => .error (.unreadable text)

def withPrecision (q : Quantity) (precision : Value) : Except Error Quantity :=
  (precisionOf precision).map (ofPrecision q.magnitude)

def withLastPlace (q : Quantity) (place : Value) : Except Error Quantity :=
  (lastPlaceOf place).map fun place => ⟨q.magnitude, place⟩

end SignificantFigures.Quantity
