import SignificantFigures.Decimal.Nearest

/-!
The shortest decimal of a double: the fewest digits that read back to it, and of those the closest
to it. For each digit count the value has two neighbours on the grid of that many digits; the first
grid on which one of them reads back gives the answer.
-/

set_option autoImplicit false

namespace SignificantFigures.Decimal

open Rational

/-- Whether a coefficient at an exponent, with the sign of the double, reads back to the double. -/
def readsBack (x : Double.Finite) (exponent : Int) (coefficient : Nat) : Bool :=
  (⟨x.negative, coefficient, exponent⟩ : Decimal).nearest == .finite x

/-- Of the two neighbours of a double on a decimal grid, the one that reads back; of two that do,
the closer, and of two equally close the even one. -/
def neighbourReadingBack (x : Double.Finite) (exponent : Int) : Option Nat :=
  let scaled := x.size / (10 : Rat) ^ exponent
  let below := scaled.floor.toNat
  match readsBack x exponent below, readsBack x exponent (below + 1) with
  | true, true => some (halfEven scaled).toNat
  | true, false => some below
  | false, true => some (below + 1)
  | false, false => none

/-- The decimal expansion of a double, all of it. -/
def exact (x : Double.Finite) : Decimal :=
  if 0 ≤ x.exponent then ⟨x.negative, x.significand * Nat.pow 2 x.exponent.toNat, 0⟩
  else ⟨x.negative, x.significand * Nat.pow 5 (-x.exponent).toNat, x.exponent⟩

/-- The first of the grids of one to seventeen digits with a neighbour that reads back. -/
def shortestOnGrid (x : Double.Finite) : Option Decimal :=
  let order := decimalOrder x.size
  (List.range 17).findSome? fun (further : Nat) =>
    let exponent := order - (further : Int)
    (neighbourReadingBack x exponent).map fun coefficient => ⟨x.negative, coefficient, exponent⟩

/-- The decimal with the fewest digits that reads back to a double, without zeros at its end. -/
def shortest (x : Double.Finite) : Decimal :=
  if x.isZero then ⟨x.negative, 0, 0⟩
  else ((shortestOnGrid x).getD (exact x)).reduced

end SignificantFigures.Decimal
