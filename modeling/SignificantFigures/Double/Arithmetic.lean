import SignificantFigures.Double.Nearest

/-!
Arithmetic of finite doubles: the exact result, rounded once. Only the sign of a zero result needs
a rule of its own: a sum is negative zero when both terms are negative, and a product or quotient
takes the sign of its operands.
-/

set_option autoImplicit false

namespace SignificantFigures.Double.Finite

/-- The sum, rounded once. -/
def add (x y : Finite) : Double :=
  let exact := x.value + y.value
  if exact = 0 then finite (zero (x.negative && y.negative)) else nearest exact

/-- The difference, rounded once. -/
def sub (x y : Finite) : Double :=
  x.add y.neg

/-- The product, rounded once. -/
def mul (x y : Finite) : Double :=
  ofSize (x.negative != y.negative) (x.size * y.size)

/-- The quotient by a nonzero divisor, rounded once. -/
def div (x y : Finite) : Double :=
  ofSize (x.negative != y.negative) (x.size / y.size)

end SignificantFigures.Double.Finite
