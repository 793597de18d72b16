import SignificantFigures.Contract.Violation
import SignificantFigures.Expression.Kind
import SignificantFigures.Quantity.Document

/-!
The two published contracts, for quantities and for tokens, with their schemas as documents.
-/

set_option autoImplicit false

namespace SignificantFigures.Contract

structure Published where
  name : String
  description : String
  schema : Schema

/-- The schema of a quantity's document: an exact quantity has no last place and a marked text, any
other has an integer place. -/
def quantitySchema : Schema :=
  [.type [.object],
    .closed,
    .required ["magnitude", "precision", "last_sig_place", "display"],
    .properties
      [("magnitude", [.type [.number]]),
        ("precision", [.oneOf [[.type [.integer]], [.constant exactWord]]]),
        ("last_sig_place", [.type [.integer, .null]]),
        ("display", [.type [.string], .minLength 1])],
    .branch
      [.properties [("precision", [.constant exactWord])]]
      [.properties [("last_sig_place", [.type [.null]]), ("display", [.endsIn 'c'])]]
      [.properties [("last_sig_place", [.type [.integer]])]]]

/-- The schema of a token's document: a quantity is there exactly for the kind of quantities. -/
def tokenSchema : Schema :=
  [.type [.object],
    .closed,
    .required ["kind", "position", "text"],
    .properties
      [("kind", [.enumerated (Expression.Kind.all.map (·.name))]),
        ("position", [.type [.integer], .minimum 0]),
        ("text", [.type [.string], .minLength 1]),
        ("quantity", [.reference "quantity.json" quantitySchema])],
    .branch
      [.properties [("kind", [.constant Expression.Kind.quantity.name])]]
      [.required ["quantity"]]
      [.never [.required ["quantity"]]]]

def quantityContract : Published :=
  ⟨"quantity", "Serialized significant-figure quantity", quantitySchema⟩

def tokenContract : Published :=
  ⟨"token", "Serialized lexer token", tokenSchema⟩

def published : List Published :=
  [quantityContract, tokenContract]

def stringList (texts : List String) : Value :=
  .list (texts.map .string)

/-- The types of a rule as a value: a single one stands alone. -/
def typeValue : List TypeName → Value
  | [name] => .string name.name
  | names => stringList (names.map (·.name))

mutual

/-- The entries of a rule in a schema document. -/
def Rule.entries : Rule → List (String × Value)
  | .type names => [("type", typeValue names)]
  | .closed => [("additionalProperties", .bool false)]
  | .required names => [("required", stringList names)]
  | .properties fields => [("properties", .object (fieldEntries fields))]
  | .oneOf alternatives => [("oneOf", .list (alternativeValues alternatives))]
  | .constant text => [("const", .string text)]
  | .enumerated texts => [("enum", stringList texts)]
  | .minLength count => [("minLength", .integer count)]
  | .minimum bound => [("minimum", .integer bound)]
  | .endsIn c => [("pattern", .string (String.ofList [c, '$']))]
  | .branch test kept broken =>
    [("if", .object (listEntries test)), ("then", .object (listEntries kept)),
      ("else", .object (listEntries broken))]
  | .never rules => [("not", .object (listEntries rules))]
  | .reference name _ => [("$ref", .string name)]

def listEntries : List Rule → List (String × Value)
  | [] => []
  | rule :: rest => rule.entries ++ listEntries rest

def fieldEntries : List (String × List Rule) → List (String × Value)
  | [] => []
  | (name, rules) :: rest => (name, .object (listEntries rules)) :: fieldEntries rest

def alternativeValues : List (List Rule) → List Value
  | [] => []
  | rules :: rest => .object (listEntries rules) :: alternativeValues rest

end

def Published.document (p : Published) : Value :=
  .object ([("$schema", .string "https://json-schema.org/draft/2020-12/schema"),
    ("$id", .string (p.name ++ ".json")), ("title", .string p.name),
    ("description", .string p.description)] ++ listEntries p.schema)

/-- The folder that the contracts are published in, from the innermost name outwards. -/
def folder : List String :=
  ["schema", "contracts"]

/-- The folder reached from another by a path, as far as it leads through the folders of contracts.
-/
def follow (place : List String) : List String → Option (List String)
  | [] => some place
  | step :: rest =>
    if step = "" ∨ step = "." then follow place rest
    else if step = ".." then
      match place with
      | [] => none
      | _ :: outer => follow outer rest
    else if (step :: place).isSuffixOf folder then follow (step :: place) rest
    else none

/-- Whether a name is a path from the root of all folders, where no contracts are. -/
def isRooted (name : List Char) : Bool :=
  name.head? == some '/'

/-- The contract of a name; the name may be a path that starts in the folder of contracts. -/
def find? (name : List Char) : Option Published :=
  let steps := (name.splitOn '/').map String.ofList
  if isRooted name then none
  else if follow folder steps.dropLast = some folder then
    published.find? fun p => some p.name == steps.getLast?
  else none

end SignificantFigures.Contract
