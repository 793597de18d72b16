import SignificantFigures.Quantity.Display
import SignificantFigures.Value.Basic

/-!
A quantity as a document: magnitude, precision, last place and displayed text. An exact quantity
has the word for its precision and no last place.
-/

set_option autoImplicit false

namespace SignificantFigures

variable [PowersOfTen]

/-- The word for the precision of an exact quantity. -/
def exactWord : String := "exact"

def Precision.document : Precision → Value
  | exact => .string exactWord
  | figures count => .integer count

def LastPlace.document : LastPlace → Value
  | exact => .null
  | place exponent => .integer exponent

def Quantity.document (q : Quantity) : Except Decimal.Fault Value :=
  (q.display .letter).map fun text =>
    .object [("magnitude", .double (.finite q.magnitude)),
      ("precision", q.precision.document),
      ("last_sig_place", q.lastPlace.document),
      ("display", .string (String.ofList text))]

end SignificantFigures
