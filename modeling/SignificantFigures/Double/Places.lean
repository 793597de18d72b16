import SignificantFigures.Decimal.Rounding
import SignificantFigures.Decimal.Shortest

/-!
Decimal places of a double. Rounding at a place and moving the point act on the shortest decimal,
and the result is the nearest double again.
-/

set_option autoImplicit false

namespace SignificantFigures.Double.Finite

/-- The double rounded at a decimal place, a half going away from zero. A zero result has no sign.
-/
def roundedTo (x : Finite) (place : Int) : Double :=
  (Decimal.shortest x).nearestAt place

/-- The double divided by a power of ten. -/
def mantissa (x : Finite) (exponent : Int) : Except Decimal.Fault Double :=
  ((Decimal.shortest x).shifted (-exponent)).map Decimal.nearest

/-- Whether the value is a whole multiple of ten. -/
def isMultipleOfTen (x : Finite) : Bool :=
  (x.value / 10).den == 1

end SignificantFigures.Double.Finite
