import SignificantFigures.Expression.Scan

/-!
The flat list of an expression's entries: its tokens without the white space, each with its kind,
its position and, for a quantity, the quantity.
-/

set_option autoImplicit false

namespace SignificantFigures.Expression

variable [PowersOfTen]

structure Entry where
  kind : Kind
  position : Nat
  quantity : Option Quantity
  deriving DecidableEq

namespace Payload

/-- The quantity of a payload, if it is one. -/
def quantity? : Payload → Option Quantity
  | quantity q => some q
  | text _ => none

end Payload

namespace Entry

def ofToken (t : Token) : Entry :=
  ⟨t.kind, t.position, t.payload.quantity?⟩

def sameQuantity : Option Quantity → Option Quantity → Bool
  | some a, some b => a.same b
  | none, none => true
  | _, _ => false

def same (a b : Entry) : Bool :=
  a.kind == b.kind && a.position == b.position && sameQuantity a.quantity b.quantity

end Entry

/-- The entries of tokens: white space is left out. -/
def entriesOf (tokens : List Token) : List Entry :=
  (tokens.filter fun t => !t.isWhitespace).map Entry.ofToken

/-- The entries of an expression, or the failure to cut it. -/
def entries? (expression : List Char) : Except Failure (List Entry) :=
  (tokens? expression).map entriesOf

/-- Whether two lists of entries are equal, one by one. -/
def sameEntries : List Entry → List Entry → Bool
  | [], [] => true
  | a :: as, b :: bs => a.same b && sameEntries as bs
  | _, _ => false

end SignificantFigures.Expression
