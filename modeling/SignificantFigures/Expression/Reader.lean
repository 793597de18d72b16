import SignificantFigures.Expression.Scan

/-!
Reading an expression one token at a time. A reader holds its own expression and place, so readers
do not disturb each other; after the end or a failure it gives nothing more.
-/

set_option autoImplicit false

namespace SignificantFigures.Expression

variable [PowersOfTen]

/-- Where a reader stands: at a position with the rest of the text, or past its end. -/
inductive Place where
  | before (position : Nat) (rest : List Char)
  | closed
  deriving DecidableEq

/-- A reader of an expression, with the radius for reporting a failure. -/
structure Reader where
  expression : List Char
  radius : Int
  place : Place
  deriving DecidableEq

/-- What a reader gives when it is asked for a token. -/
inductive Answer where
  | token (t : Token)
  | failure (f : Failure)
  | stop
  deriving DecidableEq

namespace Reader

/-- A reader at the start of an expression. -/
def start (expression : List Char) (radius : Int) : Reader :=
  ⟨expression, radius, .before 0 expression⟩

/-- The next token, or the failure once, or nothing; and the reader after that. -/
def next (r : Reader) : Answer × Reader :=
  match r.place with
  | .closed => (.stop, r)
  | .before position rest =>
    match pull position rest with
    | .finished => (.stop, { r with place := .closed })
    | .failed failure => (.failure failure, { r with place := .closed })
    | .token t => (.token t, { r with place := .before t.stop (rest.drop t.text.length) })

end Reader

abbrev Readers := List (String × Reader)

namespace Readers

def reader? (readers : Readers) (name : String) : Option Reader :=
  (readers.find? fun e => e.1 == name).map (·.2)

/-- Puts a reader under a name, in the place of an older one. -/
def put (readers : Readers) (name : String) (r : Reader) : Readers :=
  (name, r) :: readers.filter fun e => e.1 != name

inductive Step where
  | start (name : String) (expression : List Char) (radius : Int)
  | next (name : String)

/-- What a step answers: a reader was made, one was asked, or the name has none. -/
inductive Outcome where
  | started
  | answered (r : Reader) (answer : Answer)
  | unknown

def step (readers : Readers) : Step → Outcome × Readers
  | .start name expression radius => (.started, readers.put name (Reader.start expression radius))
  | .next name =>
    match readers.reader? name with
    | none => (.unknown, readers)
    | some r => (.answered r r.next.1, readers.put name r.next.2)

/-- Takes steps in order, from no readers. -/
def run (readers : Readers) : List Step → List Outcome
  | [] => []
  | s :: rest => (readers.step s).1 :: run (readers.step s).2 rest

end Readers

end SignificantFigures.Expression
