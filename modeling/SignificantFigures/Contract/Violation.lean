import SignificantFigures.Contract.Schema

/-!
Checking a value against a schema. `violations` lists every rule that is broken, with the keys that
lead from the value to the place; a value is accepted when there are none. A rule about objects,
strings or numbers says nothing about values of other types.
-/

set_option autoImplicit false

namespace SignificantFigures.Contract

/-- A broken rule: its keyword, and the keys that lead to the value that breaks it. -/
structure Violation where
  keyword : String
  path : List String
  deriving DecidableEq

/-- The same violation seen from the object that has the value under a key. -/
def Violation.under (key : String) (v : Violation) : Violation :=
  { v with path := key :: v.path }

/-- One violation of the keyword here, if the rule is broken. -/
def brokenIf (broken : Bool) (keyword : String) : List Violation :=
  if broken then [⟨keyword, []⟩] else []

/-- Whether a text ends in a character, or in it and one line feed. -/
def textEndsIn (c : Char) (text : List Char) : Bool :=
  match text.reverse with
  | [] => false
  | last :: before => last == c || (last == '\n' && before.head? == some c)

/-- Whether a number lies below a bound; only numbers do. -/
def isBelow (bound : Int) : Value → Bool
  | .integer n => n < bound
  | .double (.finite x) => x.value < (bound : Rat)
  | .double (.infinite negative) => negative
  | _ => false

def lacking (names : List String) : Value → List String
  | .object entries => names.filter fun name => (Value.entry? entries name).isNone
  | _ => []

/-- Whether an object has a key that is not among the declared ones. -/
def hasOther (names : List String) : Value → Bool
  | .object entries => entries.any fun e => !names.contains e.1
  | _ => false

/-- Whether a value is a string among the given ones. -/
def isAmong (texts : List String) : Value → Bool
  | .string text => texts.contains text
  | _ => false

/-- Whether a string is shorter than a count; only strings are. -/
def isShorter (count : Nat) : Value → Bool
  | .string text => text.length < count
  | _ => false

/-- Whether a string ends otherwise; only strings do. -/
def endsOtherwise (c : Char) : Value → Bool
  | .string text => !textEndsIn c text.toList
  | _ => false

mutual

/-- The violations of one rule, beside properties with the declared keys. -/
def Rule.violations (keys : List String) : Rule → Value → List Violation
  | .type names, v => brokenIf (!names.any (·.holds v)) "type"
  | .closed, v => brokenIf (hasOther keys v) "additionalProperties"
  | .required names, v => (lacking names v).map fun _ => ⟨"required", []⟩
  | .properties fields, v => fieldViolations fields v
  | .oneOf alternatives, v => brokenIf (countKept alternatives v != 1) "oneOf"
  | .constant text, v => brokenIf (!isAmong [text] v) "const"
  | .enumerated texts, v => brokenIf (!isAmong texts v) "enum"
  | .minLength count, v => brokenIf (isShorter count v) "minLength"
  | .minimum bound, v => brokenIf (isBelow bound v) "minimum"
  | .endsIn c, v => brokenIf (endsOtherwise c v) "pattern"
  | .branch test kept broken, v =>
    if (listViolations (declared test) test v).isEmpty then listViolations (declared kept) kept v
    else listViolations (declared broken) broken v
  | .never rules, v => brokenIf (listViolations (declared rules) rules v).isEmpty "not"
  | .reference _ rules, v => listViolations (declared rules) rules v

def listViolations (keys : List String) : List Rule → Value → List Violation
  | [], _ => []
  | rule :: rest, v => rule.violations keys v ++ listViolations keys rest v

/-- The violations of the values that an object has under the given keys. -/
def fieldViolations : List (String × List Rule) → Value → List Violation
  | [], _ => []
  | (name, rules) :: rest, v =>
    (match v.get? name with
      | some inner => (listViolations (declared rules) rules inner).map (Violation.under name)
      | none => []) ++ fieldViolations rest v

def countKept : List (List Rule) → Value → Nat
  | [], _ => 0
  | rules :: rest, v =>
    (if (listViolations (declared rules) rules v).isEmpty then 1 else 0) + countKept rest v

end

/-- All violations of a schema, in order. -/
def violations (schema : Schema) (v : Value) : List Violation :=
  listViolations (declared schema) schema v

/-- Whether a value keeps a schema. -/
def accepts (schema : Schema) (v : Value) : Bool :=
  (violations schema v).isEmpty

/-- The first violation of a schema is the error. -/
def validate (schema : Schema) (v : Value) : Except Violation Unit :=
  match violations schema v with
  | [] => .ok ()
  | first :: _ => .error first

end SignificantFigures.Contract
