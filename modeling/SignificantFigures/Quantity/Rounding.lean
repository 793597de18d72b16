import SignificantFigures.Double.Places
import SignificantFigures.Quantity.Basic

/-!
Rounding a quantity to its last place. The precision is kept where there is at least one figure, so
the place moves when rounding carries into the next decade; otherwise the place is kept.
-/

set_option autoImplicit false

namespace SignificantFigures.Quantity

variable [PowersOfTen]

/-- The magnitude rounded at a place; one that would leave the range of doubles stays as it is. -/
def roundedMagnitude (magnitude : Double.Finite) (place : Int) : Double.Finite :=
  match magnitude.roundedTo place with
  | .finite rounded => rounded
  | _ => magnitude

/-- A rounded magnitude with the number of figures it had before, or with its place if it had none.
-/
def withFigures (rounded : Double.Finite) (place count : Int) : Quantity :=
  if count < 1 then ⟨rounded, .place place⟩ else ofPrecision rounded (.figures count)

/-- The quantity rounded to its last place, if that is a place that can be rounded at. -/
def rounded (q : Quantity) : Except Decimal.Fault Quantity :=
  match q.lastPlace with
  | .exact => .ok q
  | .place place =>
    (Decimal.checkPlace place).map fun _ =>
      withFigures (roundedMagnitude q.magnitude place) place (q.magnitude.decade - place + 1)

end SignificantFigures.Quantity
