import SignificantFigures.Decimal.Nearest

/-!
The decade of a number: the exponent of its leading digit. It is found by comparing the number with
the doubles that stand for powers of ten. How these are computed is left open: where they are the
nearest doubles, a double that prints as a power of ten belongs to that power's decade even if it
lies a little below. Zero is given decade zero.
-/

set_option autoImplicit false

namespace SignificantFigures

open Rational

/-- The doubles that stand for the powers of ten. -/
class PowersOfTen where
  power : Int → Double.Finite

namespace PowersOfTen

/-- The double nearest to a power of ten; zero where it underflows. -/
def nearestPower (exponent : Int) : Double.Finite :=
  match (⟨false, 1, exponent⟩ : Decimal).nearest with
  | .finite x => x
  | _ => .zero false

/-- The nearest doubles as powers of ten. -/
abbrev nearest : PowersOfTen :=
  ⟨nearestPower⟩

/-- The powers of ten as they are usually computed. Half way between two doubles lies `10 ^ 23`, and
`10 ^ 210` nearly so; in both cases it is the double above that comes out. -/
instance usual : PowersOfTen where
  power exponent :=
    if exponent = 23 then ⟨false, 5960464477539063, 24, by decide⟩
    else if exponent = 210 then ⟨false, 6849404215651260, 645, by decide⟩
    else nearestPower exponent

end PowersOfTen

variable [PowersOfTen]

namespace Decade

def ofZero : Int := 0

/-- The greatest exponent with a double that stands for the power of ten. -/
def greatest : Int := 308

/-- The value of the double that stands for a power of ten. -/
def powerOfTen (exponent : Int) : Rat :=
  (PowersOfTen.power exponent).value

/-- An estimate of the order, moved up or down by one where the powers of ten around the size ask for
it. -/
def stepped (estimate : Int) (size : Rat) : Int :=
  if estimate < greatest ∧ powerOfTen (estimate + 1) ≤ size then estimate + 1
  else if size < powerOfTen estimate then estimate - 1
  else estimate

def ofSize (size : Rat) : Int :=
  stepped (decimalOrder size) size

end Decade

def Double.Finite.decade (x : Double.Finite) : Int :=
  if x.isZero then Decade.ofZero else Decade.ofSize x.size

end SignificantFigures
