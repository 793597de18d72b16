import SignificantFigures.Decimal.Rounding

/-!
Decimal numbers as text, with the point in its place or with an exponent.
-/

set_option autoImplicit false

namespace SignificantFigures

/-- A minus sign before the text of a negative number. -/
def signed (negative : Bool) (text : List Char) : List Char :=
  if negative then '-' :: text else text

def integerText (n : Int) : List Char :=
  signed (n < 0) (Nat.toDigits 10 n.natAbs)

namespace Decimal

/-- Digits with the point before the last `places` of them, zeros filling what is missing. -/
def pointed (digits : List Char) (places : Nat) : List Char :=
  if places = 0 then digits
  else
    let padded := List.replicate (places + 1 - digits.length) '0' ++ digits
    padded.take (padded.length - places) ++ '.' :: padded.drop (padded.length - places)

/-- The digits of a decimal with the point in its place. -/
def positional (d : Decimal) : List Char :=
  if 0 ≤ d.exponent then
    if d.coefficient = 0 then ['0'] else d.digits ++ List.replicate d.exponent.toNat '0'
  else pointed d.digits (-d.exponent).toNat

/-- The text of an exponent: a sign and at least two digits. -/
def exponentText (exponent : Int) : List Char :=
  let digits := Nat.toDigits 10 exponent.natAbs
  (if exponent < 0 then '-' else '+') :: (List.replicate (2 - digits.length) '0' ++ digits)

/-- The digits of a decimal with a point after the first and the exponent behind. -/
def exponential (d : Decimal) : List Char :=
  pointed d.digits (d.digits.length - 1) ++ 'e' :: exponentText d.leading

/-- The positional text of a value of up to 28 digits, without zeros at its end and without a sign
on zero. -/
def plainText (d : Decimal) : List Char :=
  let short := (d.limited digitLimit).reduced
  signed (short.negative && short.coefficient != 0) short.positional

end Decimal

end SignificantFigures
