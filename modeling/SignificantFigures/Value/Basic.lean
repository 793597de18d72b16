import SignificantFigures.Quantity.Basic

/-!
Untyped values, as they arrive from outside: the values of a data format, with integers and doubles
kept apart, and quantities. An object keeps the order of its entries.
-/

set_option autoImplicit false

namespace SignificantFigures

/-- An untyped value. -/
inductive Value where
  | null
  | bool (b : Bool)
  | integer (n : Int)
  | double (x : Double)
  | string (text : String)
  | list (items : List Value)
  | object (entries : List (String × Value))
  | quantity (q : Quantity)

namespace Value

instance : Inhabited Value := ⟨null⟩

def isInteger : Value → Bool
  | integer _ => true
  | _ => false

/-- Whether the value is a number: an integer or a double. -/
def isNumber : Value → Bool
  | integer _ => true
  | double _ => true
  | _ => false

/-- The value of a key among the entries of an object. -/
def entry? (entries : List (String × Value)) (key : String) : Option Value :=
  (entries.find? fun e => e.1 == key).map (·.2)

def entries? : Value → Option (List (String × Value))
  | object entries => some entries
  | _ => none

/-- The value of a key, if this is an object that has it. -/
def get? (v : Value) (key : String) : Option Value :=
  v.entries?.bind fun entries => entry? entries key

/-- Puts a value under a key: in the place of the old one, or at the end. -/
def setEntry (entries : List (String × Value)) (key : String) (v : Value) :
    List (String × Value) :=
  match entries with
  | [] => [(key, v)]
  | e :: rest => if e.1 = key then (key, v) :: rest else e :: setEntry rest key v

/-- An object of entries in order; of several with one key the last value stays, in the first
place. -/
def ofEntries (entries : List (String × Value)) : Value :=
  object (entries.foldl (fun kept e => setEntry kept e.1 e.2) [])

end Value

end SignificantFigures
