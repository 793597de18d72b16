import SignificantFigures.Expression.Scan
import SignificantFigures.Text.Quoted

/-!
Reporting a failure to cut an expression: the characters around it, and a message. The window
around a position reaches a radius to both sides; with a negative radius its end may fall before
the start of the text, and is then counted from the end of the text.
-/

set_option autoImplicit false

namespace SignificantFigures.Expression

/-- The radius of the window where none is asked for. -/
def defaultRadius : Int := 3

/-- The characters around a position. -/
def window (text : List Char) (position : Nat) (radius : Int) : List Char :=
  let start := max 0 ((position : Int) - radius)
  let stop := min ((position : Int) + radius) (text.length : Int)
  let stop := if stop < 0 then stop + (text.length : Int) else stop
  (text.take stop.toNat).drop start.toNat

namespace Failure

/-- The characters of the expression around the failure. -/
def context (f : Failure) (expression : List Char) (radius : Int) : List Char :=
  window expression f.position radius

def message (f : Failure) (expression : List Char) (radius : Int) : List Char :=
  match f.reason with
  | .unknown =>
    "Unknown token at character index ".toList ++ Nat.toDigits 10 f.position ++ ": ... ".toList ++
      f.context expression radius ++ " ...".toList
  | .noQuantity literal =>
    "Invalid quantity ".toList ++ Text.quoted literal ++ " at character index ".toList ++
      Nat.toDigits 10 f.position

end Failure

end SignificantFigures.Expression
