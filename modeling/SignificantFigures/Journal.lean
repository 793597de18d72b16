import SignificantFigures.Expression.Failure
import SignificantFigures.Quantity.Display

/-!
What is noted for the record: a quantity shown in scientific form because its zeros would be
misread, and a text that cannot be cut into tokens.
-/

set_option autoImplicit false

namespace SignificantFigures.Journal

variable [PowersOfTen]

/-- How much a record matters. -/
inductive Level where
  | debug
  | info
  deriving DecidableEq

def Level.name : Level → String
  | debug => "DEBUG"
  | info => "INFO"

/-- A logger as it is set up: where it writes to, how, and from which level on. -/
structure Logger where
  name : String
  level : Level
  handlers : Nat
  format : String
  deriving DecidableEq

/-- The name of the logger where none is asked for. -/
def defaultName : String := "sigfig"

def defaultFormat : String := "%(asctime)s %(levelname)s [%(name)s] %(message)s"

/-- The logger of a name; it has one handler however often it is asked for. -/
def logger (name : Option String) : Logger :=
  let name := name.getD defaultName
  ⟨if name.isEmpty then "root" else name, .info, 1, defaultFormat⟩

structure Entry where
  logger : String
  level : Level
  message : List Char
  deriving DecidableEq

def quantityLogger : String := "src.core.domain.sigfig"

def expressionLogger : String := "src.lexer.tokenizer"

def ofDisplay (q : Quantity) : List Entry :=
  match q.layout with
  | .ok (.ambiguous text) =>
    [⟨quantityLogger, .debug, "Ambiguous trailing zeros in ".toList ++ Text.quoted text ++
      ", using scientific notation".toList⟩]
  | _ => []

def ofFailure (expression : List Char) (failure : Expression.Failure) : Entry :=
  let position := Nat.toDigits 10 failure.position
  ⟨expressionLogger, .debug,
    match failure.reason with
    | .unknown =>
      "No token matches at character index ".toList ++ position ++ " of ".toList ++
        Text.quoted expression
    | .noQuantity literal =>
      "Quantity literal ".toList ++ Text.quoted literal ++ " at index ".toList ++ position ++
        " has no significant figures".toList⟩

end SignificantFigures.Journal
