/-!
Sets of characters given as lists of code point ranges.
-/

set_option autoImplicit false

namespace SignificantFigures.Text

/-- A set of code points: ranges with both ends included. -/
abbrev Ranges := List (Nat × Nat)

/-- Whether a character lies in one of the ranges. -/
def Ranges.contains (ranges : Ranges) (c : Char) : Bool :=
  ranges.any fun range => range.1 ≤ c.toNat && c.toNat ≤ range.2

end SignificantFigures.Text
