import SignificantFigures.Decimal.Shortest
import SignificantFigures.Decimal.Text

/-!
The texts of a double: the shortest that reads back, positional while the leading exponent is from
-4 to 15; the positional one at every size; and the one with a fixed number of places, which rounds
the exact value.
-/

set_option autoImplicit false

namespace SignificantFigures.Double

open Rational

/-- The shortest text that reads back, with at least one digit behind the point in positional form.
-/
def Finite.text (x : Finite) : List Char :=
  let d := Decimal.shortest x
  signed x.negative <|
    if -4 ≤ d.leading ∧ d.leading < 16 then
      if 0 ≤ d.exponent then d.positional ++ ['.', '0'] else d.positional
    else d.exponential

def text : Double → List Char
  | finite x => x.text
  | infinite negative => signed negative ['i', 'n', 'f']
  | nan => ['n', 'a', 'n']

/-- The positional text without zeros at its end. -/
def plainText : Double → List Char
  | finite x => (Decimal.shortest x).plainText
  | infinite negative => signed negative ['I', 'n', 'f', 'i', 'n', 'i', 't', 'y']
  | nan => ['N', 'a', 'N']

/-- The number of places after which the expansion of every double has ended. -/
def longestFraction : Nat := 1074

/-- The text with a fixed number of places: the exact value rounded half to even, the sign kept
also on zero. -/
def Finite.fixedText (x : Finite) (places : Nat) : List Char :=
  let computed := min places longestFraction
  let units := (halfEven (x.size * (Nat.pow 10 computed : Nat))).toNat
  signed x.negative <|
    Decimal.pointed (Nat.toDigits 10 units ++ List.replicate (places - computed) '0') places

/-- The text of any double with a fixed number of places. -/
def fixedText (x : Double) (places : Nat) : List Char :=
  match x with
  | finite x => x.fixedText places
  | other => other.text

end SignificantFigures.Double
