import SignificantFigures.Contract.Catalogue
import SignificantFigures.Double.Arithmetic
import SignificantFigures.Value.Text

/-!
A stream of token documents: each keeps the contract of tokens and starts no earlier than the one
before it ends. Positions may be integers or whole doubles; a sum stays of the kind of the
position.
-/

set_option autoImplicit false

namespace SignificantFigures.Contract

inductive Offset where
  | integer (n : Int)
  | double (x : Double.Finite)
  deriving DecidableEq

namespace Offset

/-- A value as a position, if it is a finite number. -/
def ofValue? : Value → Option Offset
  | .integer n => some (integer n)
  | .double (.finite x) => some (double x)
  | _ => none

def value : Offset → Rat
  | integer n => n
  | double x => x.value

/-- The position a number of characters further on. -/
def advance (o : Offset) (count : Nat) : Offset :=
  match o with
  | integer n => integer (n + (count : Int))
  | double x =>
    match Double.nearest (x.value + (count : Rat)) with
    | .finite sum => double sum
    | _ => double x

/-- The text of a position, unless it has too many digits. -/
def text? : Offset → Option (List Char)
  | integer n => Text.ofInteger? n
  | double x => some x.text

end Offset

inductive StreamFault where
  /-- The value has no elements. -/
  | noElements
  /-- An element breaks the contract of tokens. -/
  | broken (violation : Violation)
  /-- An element starts before the end of the one before it. -/
  | overlap (index : Nat) (position previousEnd : Offset)
  /-- The message of an overlap has a position with too many digits. -/
  | unwritable

/-- The message of an overlap, if it can be written. -/
def StreamFault.message? : StreamFault → Option (List Char)
  | overlap index position previousEnd => do
    let position ← position.text?
    let previousEnd ← previousEnd.text?
    some ("Token ".toList ++ Nat.toDigits 10 index ++ " at position ".toList ++ position ++
      " overlaps previous token ending at ".toList ++ previousEnd)
  | _ => none

/-- The overlap of an element with the one before it, or the failure to write its message. -/
def overlapFault (index : Nat) (position previousEnd : Offset) : StreamFault :=
  let fault := StreamFault.overlap index position previousEnd
  if fault.message?.isNone then .unwritable else fault

/-- Where a token document starts and how many characters it has. -/
structure Span where
  position : Offset
  length : Nat

def Span.stop (s : Span) : Offset :=
  s.position.advance s.length

/-- The span that a value gives, if it has a position and a text. -/
def Span.ofValue? (v : Value) : Option Span :=
  match (v.get? "position").bind Offset.ofValue?, v.get? "text" with
  | some position, some (.string text) => some ⟨position, text.length⟩
  | _, _ => none

/-- The span of a value that keeps the contract of tokens, or its first violation. -/
def spanOf (v : Value) : Except StreamFault Span :=
  match violations tokenSchema v, Span.ofValue? v with
  | first :: _, _ => .error (.broken first)
  | [], some span => .ok span
  | [], none => .error .noElements

/-- Checks elements in order, given the index of the first and the end of the one before it. -/
def checkElements (index : Nat) (previousEnd : Offset) : List Value → Except StreamFault Unit
  | [] => .ok ()
  | v :: rest =>
    match spanOf v with
    | .error fault => .error fault
    | .ok span =>
      if span.position.value < previousEnd.value then
        .error (overlapFault index span.position previousEnd)
      else checkElements (index + 1) span.stop rest

/-- The elements of a value: the items of a list, the characters of a string, the keys of an
object. -/
def elements? : Value → Option (List Value)
  | .list items => some items
  | .string text => some (text.toList.map fun c => .string (String.ofList [c]))
  | .object entries => some (entries.map fun e => .string e.1)
  | _ => none

/-- Checks the elements of a value as a stream of tokens. -/
def checkStream (v : Value) : Except StreamFault Unit :=
  match elements? v with
  | none => .error .noElements
  | some items => checkElements 0 (.integer 0) items

end SignificantFigures.Contract
