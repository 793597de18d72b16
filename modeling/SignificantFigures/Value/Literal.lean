import SignificantFigures.Numeral.Literal
import SignificantFigures.Quantity.Literal
import SignificantFigures.Value.Number

/-!
Literal operations on untyped values. Strings are what they are for; a split also passes on a list
or an object that does not have the exponent mark in it.
-/

set_option autoImplicit false

namespace SignificantFigures.Value

/-- The characters of a string; nothing else has any. -/
def characters : Value → Except Fault (List Char)
  | string text => .ok text.toList
  | _ => .error .wrongKind

/-- Whether a value is the string of the exponent mark. -/
def isExponentMark : Value → Bool
  | string text => text.toList == [Numeral.exponentMark]
  | _ => false

def splitExponent (v : Value) : Except Fault (Value × Option (List Char)) :=
  match v with
  | string text =>
    let (mantissa, exponent) := Numeral.splitExponent text.toList
    .ok (string (String.ofList mantissa), exponent)
  | list items => if items.any isExponentMark then .error .lacking else .ok (v, none)
  | object entries =>
    if entries.any fun e => isExponentMark (string e.1) then .error .lacking else .ok (v, none)
  | _ => .error .wrongKind

end SignificantFigures.Value
