import SignificantFigures.Double.Arithmetic
import SignificantFigures.Quantity.Construction

/-!
Arithmetic of quantities. A sum or difference is significant down to the coarser of the two last
places; a product or quotient has the lower of the two precisions. The magnitude is the double
result of the magnitudes, and it has to be finite.
-/

set_option autoImplicit false

namespace SignificantFigures.Quantity

variable [PowersOfTen]

inductive Operation where
  | add
  | subtract
  | multiply
  | divide
  deriving DecidableEq

/-- A result that is significant down to a place. -/
def atPlace (result : Double) (place : LastPlace) : Except Error Quantity :=
  (finiteMagnitude result).map fun magnitude => ⟨magnitude, place⟩

/-- A result with a precision. Below one figure the precision has to be turned into a place first,
which an infinite result does not allow. -/
def atPrecision (result : Double) (precision : Precision) : Except Error Quantity :=
  match result, precision with
  | .finite magnitude, precision => .ok (ofPrecision magnitude precision)
  | other, .exact => .error (.notFinite other)
  | other, .figures count => if 1 ≤ count then .error (.notFinite other) else .error .tooGreat

def add (a b : Quantity) : Except Error Quantity :=
  atPlace (a.magnitude.add b.magnitude) (a.lastPlace.coarser b.lastPlace)

def subtract (a b : Quantity) : Except Error Quantity :=
  atPlace (a.magnitude.sub b.magnitude) (a.lastPlace.coarser b.lastPlace)

def multiply (a b : Quantity) : Except Error Quantity :=
  atPrecision (a.magnitude.mul b.magnitude) (a.precision.lower b.precision)

/-- The quotient; the divisor must not be zero. -/
def divide (a b : Quantity) : Except Error Quantity :=
  if b.magnitude.isZero then .error (Error.divisionByZero a).raised
  else atPrecision (a.magnitude.div b.magnitude) (a.precision.lower b.precision)

def Operation.apply : Operation → Quantity → Quantity → Except Error Quantity
  | add => Quantity.add
  | subtract => Quantity.subtract
  | multiply => Quantity.multiply
  | divide => Quantity.divide

end SignificantFigures.Quantity
