import SignificantFigures.Decimal.Basic
import SignificantFigures.Double.Nearest

/-!
The double nearest to a decimal number. An exponent far outside the range of doubles settles the
answer at once, so that no power of ten of that size is ever formed.
-/

set_option autoImplicit false

namespace SignificantFigures.Decimal

/-- The double nearest to a decimal, with the decimal's sign. -/
def nearest (d : Decimal) : Double :=
  if d.coefficient = 0 ∨ d.leading < -400 then .finite (Double.Finite.zero d.negative)
  else if 400 < d.leading then .infinite d.negative
  else Double.ofSize d.negative d.size

end SignificantFigures.Decimal
