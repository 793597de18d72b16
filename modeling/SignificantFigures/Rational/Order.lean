/-!
The exponent of the leading digit of a positive rational, in base two and in base ten. The digit
counts of numerator and denominator fix it up to one, and one exact comparison decides.
-/

set_option autoImplicit false

namespace SignificantFigures.Rational

/-- The number of decimal digits of a natural number; zero has one. -/
def digitCount (n : Nat) : Nat :=
  (Nat.toDigits 10 n).length

/-- The `k` with `2 ^ k ≤ q < 2 ^ (k + 1)`, for positive `q`. -/
def binaryOrder (q : Rat) : Int :=
  let guess : Int := (q.num.natAbs.log2 : Int) - (q.den.log2 : Int)
  if (2 : Rat) ^ guess ≤ q then guess else guess - 1

/-- The `k` with `10 ^ k ≤ q < 10 ^ (k + 1)`, for positive `q`. -/
def decimalOrder (q : Rat) : Int :=
  let guess : Int := (digitCount q.num.natAbs : Int) - (digitCount q.den : Int)
  if (10 : Rat) ^ guess ≤ q then guess else guess - 1

end SignificantFigures.Rational
