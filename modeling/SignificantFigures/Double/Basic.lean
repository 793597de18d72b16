/-!
Binary floating-point numbers of 64 bits. A finite one is a sign and a significand times a power of
two, in the one form the format allows, so equal fields mean the same datum; the two zeros differ
in the sign only. `Finite.value` is the exact rational behind a finite one.
-/

set_option autoImplicit false

namespace SignificantFigures

namespace Double

/-- The forms the format allows: 53 bits with a leading one, or fewer bits at the least exponent.
-/
def Canonical (significand : Nat) (exponent : Int) : Prop :=
  (significand < 4503599627370496 ∧ exponent = -1074) ∨
  (4503599627370496 ≤ significand ∧ significand < 9007199254740992 ∧
    -1074 ≤ exponent ∧ exponent ≤ 971)

instance (significand : Nat) (exponent : Int) : Decidable (Canonical significand exponent) :=
  inferInstanceAs (Decidable (_ ∨ _))

/-- A finite double: `± significand * 2 ^ exponent`. -/
structure Finite where
  negative : Bool
  significand : Nat
  exponent : Int
  canonical : Canonical significand exponent
  deriving DecidableEq

end Double

/-- A double: finite, infinite of either sign, or not a number. -/
inductive Double where
  | finite (x : Double.Finite)
  | infinite (negative : Bool)
  | nan
  deriving DecidableEq

namespace Double

namespace Finite

/-- The distance from zero. -/
def size (x : Finite) : Rat :=
  (x.significand : Rat) * (2 : Rat) ^ x.exponent

/-- The exact value. -/
def value (x : Finite) : Rat :=
  if x.negative then -x.size else x.size

/-- Zero of the given sign. -/
def zero (negative : Bool) : Finite :=
  ⟨negative, 0, -1074, by decide⟩

/-- Whether the value is zero, of either sign. -/
def isZero (x : Finite) : Bool :=
  x.significand == 0

/-- The opposite; it turns one zero into the other. -/
def neg (x : Finite) : Finite :=
  { x with negative := !x.negative }

/-- Equality of values, under which the two zeros are one. -/
def same (x y : Finite) : Bool :=
  x.value == y.value

end Finite

def isFinite : Double → Bool
  | finite _ => true
  | _ => false

end Double

end SignificantFigures
