import SignificantFigures.Contract.Restore
import SignificantFigures.Contract.Stream
import SignificantFigures.Expression.Scan

/-!
The tokens of an expression as documents, checked as a stream, with some of their positions moved.
-/

set_option autoImplicit false

namespace SignificantFigures.Contract

variable [PowersOfTen]

def documents (tokens : List Expression.Token) : Except Decimal.Fault (List Value) :=
  tokens.mapM Expression.Token.document

def moveTo (position : Value) : Value → Value
  | .object entries => .object (Value.setEntry entries "position" position)
  | v => v

/-- The index meant by an integer: a negative one counts from the end. -/
def indexOf (index : Int) (size : Nat) : Nat :=
  (if index < 0 then index + (size : Int) else index).toNat

def moveAll (items : List Value) (moves : List (Int × Value)) : List Value :=
  moves.foldl (fun items m => items.modify (indexOf m.1 items.length) (moveTo m.2)) items

/-- The quantities restored from the documents that have one. -/
def restoreAll (items : List Value) : List (Except RestoreFault Quantity) :=
  items.filterMap fun v => (v.get? "quantity").map restore

end SignificantFigures.Contract
