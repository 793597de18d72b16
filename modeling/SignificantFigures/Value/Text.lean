import SignificantFigures.Double.Text
import SignificantFigures.Text.Integer
import SignificantFigures.Text.Quoted
import SignificantFigures.Value.Basic

/-!
The text of a value in messages: constants by name, numbers in digits, strings between quotes,
lists in brackets, objects in braces, quantities by their magnitude and precision. There is none
where an integer in it has too many digits.
-/

set_option autoImplicit false

namespace SignificantFigures

variable [PowersOfTen]

def Precision.text? : Precision → Option (List Char)
  | exact => some "EXACT".toList
  | figures count => Text.ofInteger? count

def Quantity.describe? (q : Quantity) : Option (List Char) :=
  q.precision.text?.map fun precision =>
    "SigFigNumber(".toList ++ q.magnitude.text ++ ", ".toList ++ precision ++ [')']

namespace Value

mutual

def text? : Value → Option (List Char)
  | null => some "None".toList
  | bool true => some "True".toList
  | bool false => some "False".toList
  | integer n => Text.ofInteger? n
  | double x => some x.text
  | string s => some (Text.quoted s.toList)
  | list items => (itemsText? items).map fun inner => '[' :: inner ++ [']']
  | object entries => (entriesText? entries).map fun inner => '\x7b' :: inner ++ ['\x7d']
  | quantity q => q.describe?

/-- The texts of the items of a list, divided by commas. -/
def itemsText? : List Value → Option (List Char)
  | [] => some []
  | [v] => text? v
  | v :: rest => do
    let first ← text? v
    let others ← itemsText? rest
    some (first ++ ", ".toList ++ others)

/-- The texts of the entries of an object, divided by commas. -/
def entriesText? : List (String × Value) → Option (List Char)
  | [] => some []
  | [(key, v)] => (text? v).map fun first => Text.quoted key.toList ++ ": ".toList ++ first
  | (key, v) :: rest => do
    let first ← text? v
    let others ← entriesText? rest
    some (Text.quoted key.toList ++ ": ".toList ++ first ++ ", ".toList ++ others)

end

end Value

end SignificantFigures
