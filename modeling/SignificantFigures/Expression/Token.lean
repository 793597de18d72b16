import SignificantFigures.Expression.Kind
import SignificantFigures.Quantity.Document

/-!
Tokens: a kind, the position of the first character, the characters, and what they stand for. A
quantity token carries the quantity, every other token a text.
-/

set_option autoImplicit false

namespace SignificantFigures.Expression

variable [PowersOfTen]

inductive Payload where
  | quantity (q : Quantity)
  | text (characters : List Char)
  deriving DecidableEq

structure Token where
  kind : Kind
  position : Nat
  text : List Char
  payload : Payload
  deriving DecidableEq

namespace Token

/-- The position behind the last character. -/
def stop (t : Token) : Nat :=
  t.position + t.text.length

def isWhitespace (t : Token) : Bool :=
  t.kind == .whitespace

/-- The entry of a document for a payload: only a quantity has one. -/
def payloadEntries : Payload → Except Decimal.Fault (List (String × Value))
  | .quantity q => q.document.map fun document => [("quantity", document)]
  | .text _ => .ok []

def document (t : Token) : Except Decimal.Fault Value :=
  (payloadEntries t.payload).map fun entries =>
    .object ([("kind", .string t.kind.name), ("position", .integer t.position),
      ("text", .string (String.ofList t.text))] ++ entries)

end Token

end SignificantFigures.Expression
