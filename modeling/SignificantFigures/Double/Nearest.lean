import SignificantFigures.Double.Basic
import SignificantFigures.Rational.Rounding
import SignificantFigures.Rational.Order

/-!
The double nearest to a rational. The significand is the magnitude divided by the spacing of
doubles around it, rounded half to even; a significand that fills up moves to the next exponent,
and what lies past the greatest exponent is infinite.
-/

set_option autoImplicit false

namespace SignificantFigures.Double

open Rational

/-- The exponent of the spacing of doubles around a magnitude. -/
def spacing (size : Rat) : Int :=
  if size = 0 then -1074 else max (-1074) (binaryOrder size - 52)

/-- A significand and exponent as a double; what no finite double holds is infinite. -/
def pack (negative : Bool) (significand : Nat) (exponent : Int) : Double :=
  if h : Canonical significand exponent then finite ⟨negative, significand, exponent, h⟩
  else infinite negative

/-- The double of the given sign nearest to a magnitude; a tie goes to the even significand. -/
def ofSize (negative : Bool) (size : Rat) : Double :=
  let exponent := spacing size
  let significand := (halfEven (size / (2 : Rat) ^ exponent)).toNat
  if significand = 9007199254740992 then pack negative 4503599627370496 (exponent + 1)
  else pack negative significand exponent

/-- The double nearest to a rational; zero has no sign. -/
def nearest (q : Rat) : Double :=
  if q < 0 then ofSize true (-q) else ofSize false q

end SignificantFigures.Double
