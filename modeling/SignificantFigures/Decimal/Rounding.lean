import SignificantFigures.Decimal.Nearest

/-!
Operations on decimals under fixed limits: rounding to a decimal place, cutting the coefficient
down to a number of digits, and moving the point. The limits are those of a decimal arithmetic with
28 digits and leading exponents up to 999999; what breaks them is a `Fault`.
-/

set_option autoImplicit false

namespace SignificantFigures.Decimal

open Rational

/-- How an operation leaves the range of decimal numbers. -/
inductive Fault where
  /-- The operation has no result: the shift is too long or the operand is infinite. -/
  | invalid
  /-- The result's leading exponent is too great. -/
  | overflow
  deriving DecidableEq

/-- The number of digits that a shifted or normalised coefficient keeps. -/
def digitLimit : Nat := 28

def leadingLimit : Int := 999999

/-- The longest shift of the decimal point. -/
def shiftLimit : Int := 2 * (leadingLimit + (digitLimit : Int))

/-- The coefficient in units of a higher exponent, a half going away from zero. A coefficient with
fewer digits than the step is less than half a unit. -/
def coarsened (coefficient step : Nat) : Nat :=
  if digitCount coefficient < step then 0
  else (halfUp ((coefficient : Rat) / (Nat.pow 10 step : Nat))).toNat

/-- Rounds to a multiple of `10 ^ place`, a half going away from zero. -/
def roundedAt (d : Decimal) (place : Int) : Decimal :=
  if place ≤ d.exponent then d
  else ⟨d.negative, coarsened d.coefficient (place - d.exponent).toNat, place⟩

/-- The number of digits to work with at a place: all down to it and one for a carry, and no fewer
than other operations have. -/
def workingDigits (d : Decimal) (place : Int) : Int :=
  max (digitLimit : Int) (d.leading - place + 2)

/-- Rounds at a place, if the digits down to it are not more than there are to work with. -/
def quantized (d : Decimal) (place digits : Int) : Except Fault Decimal :=
  let rounded := d.roundedAt place
  if rounded.coefficient ≠ 0 ∧ digits < rounded.leading - place + 1 then .error .invalid
  else .ok rounded

/-- The nearest double, where zero has no sign. -/
def nearestUnsigned (d : Decimal) : Double :=
  if d.coefficient = 0 then .finite (Double.Finite.zero false) else d.nearest

/-- The double nearest to the number rounded at a place. A zero result has no sign. -/
def nearestAt (d : Decimal) (place : Int) : Double :=
  (d.roundedAt place).nearestUnsigned

/-- Whether a decimal place is one that numbers can be rounded at. -/
def checkPlace (place : Int) : Except Fault Unit :=
  if shiftLimit < place.natAbs then .error .invalid
  else if leadingLimit < place then .error .overflow
  else .ok ()

/-- Keeps the leading digits up to a count; a half goes to the even neighbour. -/
def limited (d : Decimal) (count : Nat) : Decimal :=
  let step := digitCount d.coefficient - count
  if step = 0 then d
  else
    ⟨d.negative, (halfEven ((d.coefficient : Rat) / (Nat.pow 10 step : Nat))).toNat,
      d.exponent + (step : Int)⟩

/-- Multiplies by a power of ten, under the limits. -/
def shifted (d : Decimal) (places : Int) : Except Fault Decimal :=
  if shiftLimit < places.natAbs then .error .invalid
  else
    let moved := (⟨d.negative, d.coefficient, d.exponent + places⟩ : Decimal).limited digitLimit
    if moved.coefficient ≠ 0 ∧ leadingLimit < moved.leading then .error .overflow
    else .ok moved

end SignificantFigures.Decimal
