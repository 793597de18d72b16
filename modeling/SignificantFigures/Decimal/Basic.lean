import SignificantFigures.Double.Basic
import SignificantFigures.Rational.Order

/-!
Decimal numbers: a sign, a coefficient and a power of ten. One value has many forms, and the form
is kept, since the number of digits of the coefficient is what the operations look at.
-/

set_option autoImplicit false

namespace SignificantFigures

open Rational

/-- A decimal number: `± coefficient * 10 ^ exponent`. -/
structure Decimal where
  negative : Bool
  coefficient : Nat
  exponent : Int
  deriving DecidableEq

namespace Decimal

/-- The distance from zero. -/
def size (d : Decimal) : Rat :=
  (d.coefficient : Rat) * (10 : Rat) ^ d.exponent

def value (d : Decimal) : Rat :=
  if d.negative then -d.size else d.size

def digits (d : Decimal) : List Char :=
  Nat.toDigits 10 d.coefficient

def leading (d : Decimal) : Int :=
  d.exponent + (digitCount d.coefficient : Int) - 1

def ofInt (n : Int) : Decimal :=
  ⟨n < 0, n.natAbs, 0⟩

/-- Removes the zeros at the end of a nonzero coefficient. -/
def stripZeros (coefficient : Nat) (exponent : Int) : Nat × Int :=
  if coefficient ≠ 0 ∧ coefficient % 10 = 0 then stripZeros (coefficient / 10) (exponent + 1)
  else (coefficient, exponent)
termination_by coefficient
decreasing_by omega

/-- The form of the same value whose coefficient does not end in zero; zero has exponent zero. -/
def reduced (d : Decimal) : Decimal :=
  if d.coefficient = 0 then ⟨d.negative, 0, 0⟩
  else
    let stripped := stripZeros d.coefficient d.exponent
    ⟨d.negative, stripped.1, stripped.2⟩

end Decimal

end SignificantFigures
