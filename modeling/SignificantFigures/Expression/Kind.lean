/-!
The kinds of token in an arithmetic expression, in the order in which they are tried.
-/

set_option autoImplicit false

namespace SignificantFigures.Expression

inductive Kind where
  | whitespace
  | multiply
  | divide
  | add
  | subtract
  | openParen
  | closeParen
  | quantity
  deriving DecidableEq

namespace Kind

/-- All kinds, in the order in which they are tried. -/
def all : List Kind :=
  [whitespace, multiply, divide, add, subtract, openParen, closeParen, quantity]

def name : Kind → String
  | whitespace => "whitespace"
  | multiply => "multiply"
  | divide => "divide"
  | add => "add"
  | subtract => "subtract"
  | openParen => "open_paren"
  | closeParen => "close_paren"
  | quantity => "quantity"

def ofName? (name : String) : Option Kind :=
  all.find? fun kind => kind.name == name

/-- Whether the kind is one of the four operators. -/
def isOperator : Kind → Bool
  | multiply | divide | add | subtract => true
  | _ => false

def isParen : Kind → Bool
  | openParen | closeParen => true
  | _ => false

/-- The one character that a kind is written with, for the kinds that have one. -/
def symbol? : Kind → Option Char
  | multiply => some '*'
  | divide => some '/'
  | add => some '+'
  | subtract => some '-'
  | openParen => some '('
  | closeParen => some ')'
  | whitespace | quantity => none

end Kind

end SignificantFigures.Expression
