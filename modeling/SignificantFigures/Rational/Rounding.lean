/-!
Rounding a rational to an integer. `halfEven` takes the nearest integer and sends a half to the
even neighbour; `halfUp` sends a half to the upper neighbour, which on magnitudes is the one away
from zero.
-/

set_option autoImplicit false

namespace SignificantFigures.Rational

/-- The nearest integer; a half goes to the even neighbour. -/
def halfEven (q : Rat) : Int :=
  let low := q.floor
  let part := q - low
  if part < 1 / 2 then low
  else if 1 / 2 < part then low + 1
  else low + low % 2

/-- The nearest integer; a half goes to the upper neighbour. -/
def halfUp (q : Rat) : Int :=
  (q + 1 / 2).floor

end SignificantFigures.Rational
