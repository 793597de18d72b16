import SignificantFigures.Value.Basic

/-!
Schemas: lists of rules that a value has to keep. The rules stand in the order in which a schema
document lists them, which is the order in which violations are reported.
-/

set_option autoImplicit false

namespace SignificantFigures.Contract

/-- The types that a rule can ask for. -/
inductive TypeName where
  | object
  | number
  | integer
  | string
  | null
  deriving DecidableEq

/-- A rule of a schema. -/
inductive Rule where
  /-- The value is of one of the types. -/
  | type (names : List TypeName)
  /-- An object has no keys but those of the `properties` beside this rule. -/
  | closed
  /-- An object has these keys. -/
  | required (names : List String)
  /-- The values under these keys keep the rules given for them. -/
  | properties (fields : List (String × List Rule))
  /-- Exactly one of the alternatives is kept. -/
  | oneOf (alternatives : List (List Rule))
  /-- The value is this string. -/
  | constant (text : String)
  /-- The value is one of these strings. -/
  | enumerated (texts : List String)
  /-- A string has at least this many characters. -/
  | minLength (count : Nat)
  /-- A number is no less than this. -/
  | minimum (bound : Int)
  /-- A string ends in this character, or in it and one line feed. -/
  | endsIn (c : Char)
  /-- The second list of rules is kept where the first is, the third elsewhere. -/
  | branch (test kept broken : List Rule)
  /-- The rules are not kept. -/
  | never (rules : List Rule)
  /-- The rules of the schema of this name are kept. -/
  | reference (name : String) (rules : List Rule)

/-- A schema is a list of rules. -/
abbrev Schema := List Rule

/-- The keys of the properties that a schema lists. -/
def declared (schema : Schema) : List String :=
  schema.flatMap fun
    | .properties fields => fields.map (·.1)
    | _ => []

namespace TypeName

def name : TypeName → String
  | object => "object"
  | number => "number"
  | integer => "integer"
  | string => "string"
  | null => "null"

/-- Whether a value is of a type. A double without a fraction is an integer; a truth value is not a
number. -/
def holds : TypeName → Value → Bool
  | object, .object _ => true
  | number, .integer _ => true
  | number, .double _ => true
  | integer, .integer _ => true
  | integer, .double (.finite x) => x.value.den == 1
  | string, .string _ => true
  | null, .null => true
  | _, _ => false

end TypeName

end SignificantFigures.Contract
