import SignificantFigures.Contract.Restore
import SignificantFigures.Quantity.Arithmetic
import SignificantFigures.Workspace.Basic

/-!
Steps on a workspace. A step reads what it works on, and answers or fails; what it has changed stays
changed if it fails afterwards. The two setters change a quantity in place; every other step adds its
result, if it has one, as a new quantity.
-/

set_option autoImplicit false

namespace SignificantFigures.Workspace

variable [PowersOfTen]

/-- An operand: a name, or a value that stands for itself. -/
inductive Operand where
  | name (name : String)
  | value (v : Value)

inductive Step where
  | build (target : String) (magnitude : Value) (precision : Option Value)
  | buildAtPlace (target : String) (magnitude place : Value)
  | literal (target : String) (text : List Char)
  | restore (target : String) (document : Value)
  | setPrecision (source : String) (precision : Value)
  | setLastPlace (source : String) (place : Value)
  | setMagnitude (source : String)
  | combine (operation : Quantity.Operation) (a b : Operand) (target : String)
  | copy (source target : String)
  | round (source target : String)
  | alias (source target : String)
  | get (source : String)
  | equal (a b : Operand)
  | show (source : String)
  | display (source : String) (style : Quantity.ExponentStyle)
  | document (source : String)
  | roundTrip (source target : String)

/-- Why a step fails. -/
inductive StepFault where
  /-- A name refers to nothing. -/
  | unknownName
  /-- An operand is no quantity. -/
  | wrongOperand
  /-- A magnitude cannot be changed. -/
  | readOnly
  /-- A document breaks the contract. -/
  | broken (violation : Contract.Violation)
  /-- The operation on quantities fails. -/
  | quantity (error : Quantity.Error)

/-- All views of a quantity; each may fail by itself. -/
structure Portrait where
  /-- The magnitude and the precision, unless this has too many digits. -/
  description : Option (List Char)
  display : Except Decimal.Fault (List Char)
  displayRaised : Except Decimal.Fault (List Char)
  positional : Except Decimal.Fault (List Char)
  scientific : Except Decimal.Fault (List Char)
  scientificRaised : Except Decimal.Fault (List Char)
  rounded : Except Decimal.Fault Quantity
  isExact : Bool

def Portrait.of (q : Quantity) : Portrait where
  description := q.describe?
  display := q.display .letter
  displayRaised := q.display .superscript
  positional := q.positional
  scientific := q.scientific .letter
  scientificRaised := q.scientific .superscript
  rounded := q.rounded
  isExact := q.isExact

inductive Answer where
  | state (q : Quantity)
  | truth (b : Bool)
  | text (characters : List Char)
  | document (v : Value)
  | portrait (p : Portrait)

/-- What a step does with a workspace. -/
abbrev Action (α : Type) : Type :=
  ExceptT StepFault (StateM Workspace) α

/-- A failure of quantities as a failure of a step. -/
def ofQuantity {α : Type} (result : Except Quantity.Error α) : Except StepFault α :=
  result.mapError .quantity

/-- A limit of decimal arithmetic as a failure of a step. -/
def ofDecimal {α : Type} (result : Except Decimal.Fault α) : Except StepFault α :=
  result.mapError fun fault => .quantity (.decimal fault)

def restored (document : Value) : Except StepFault Quantity :=
  (Contract.restore document).mapError fun
    | .broken violation => .broken violation
    | .refused error => .quantity error

/-- The result of an operation on two values, which have to be quantities. -/
def combined (operation : Quantity.Operation) : Value → Value → Except StepFault Quantity
  | .quantity a, .quantity b => ofQuantity (operation.apply a b)
  | _, _ => .error .wrongOperand

/-- Equality of two values of which the first is a quantity. -/
def sameValue : Value → Value → Bool
  | .quantity a, .quantity b => a.same b
  | _, _ => false

/-- The index and the quantity that a name refers to. -/
def find (w : Workspace) (name : String) : Except StepFault (Nat × Quantity) :=
  match w.index? name, w.quantity? name with
  | some index, some q => .ok (index, q)
  | _, _ => .error .unknownName

def reference (name : String) : Action (Nat × Quantity) := do
  (← get).find name

def lookUp (name : String) : Action Quantity := do
  let (_, q) ← reference name
  return q

def operand : Operand → Action Value
  | .name name => return .quantity (← lookUp name)
  | .value v => return v

/-- Adds a quantity under a name and answers with it. -/
def store (target : String) (q : Quantity) : Action Answer := do
  modify (·.add target q)
  return .state q

/-- Changes the quantity of a name and answers with it. -/
def update (source : String) (f : Quantity → Except Quantity.Error Quantity) : Action Answer := do
  let (index, q) ← reference source
  let changed ← ofQuantity (f q)
  modify (·.change index changed)
  return .state changed

/-- Lets a second name refer to the quantity of a name. -/
def share (source target : String) : Action Answer := do
  let (index, q) ← reference source
  modify (·.refer target index)
  return .state q

/-- What each step reads, checks and changes, in that order. -/
def action : Step → Action Answer
  | .build target magnitude none => do
    store target (← ofQuantity (Quantity.buildExact magnitude))
  | .build target magnitude (some precision) => do
    store target (← ofQuantity (Quantity.build magnitude precision))
  | .buildAtPlace target magnitude place => do
    store target (← ofQuantity (Quantity.buildAtPlace magnitude place))
  | .literal target text => do store target (← ofQuantity (Quantity.ofLiteral text))
  | .restore target document => do store target (← restored document)
  | .setPrecision source precision => update source (·.withPrecision precision)
  | .setLastPlace source place => update source (·.withLastPlace place)
  | .setMagnitude source => do
    let _ ← lookUp source
    throw .readOnly
  | .combine operation a b target => do
    let a ← operand a
    let b ← operand b
    store target (← combined operation a b)
  | .copy source target => do store target (← lookUp source)
  | .round source target => do
    let q ← lookUp source
    store target (← ofDecimal q.rounded)
  | .alias source target => share source target
  | .get source => return .state (← lookUp source)
  | .equal a b => do
    let a ← operand a
    let b ← operand b
    return .truth (sameValue a b)
  | .show source => return .portrait (Portrait.of (← lookUp source))
  | .display source style => do
    let q ← lookUp source
    return .text (← ofDecimal (q.display style))
  | .document source => do
    let q ← lookUp source
    return .document (← ofDecimal q.document)
  | .roundTrip source target => do
    let q ← lookUp source
    let document ← ofDecimal q.document
    store target (← restored document)

/-- The answer or the failure of a step, and the workspace that it leaves. -/
def perform (w : Workspace) (s : Step) : Except StepFault Answer × Workspace :=
  (action s).run.run w

/-- The answer of a step and the workspace after it, if it does not fail. -/
def step (w : Workspace) (s : Step) : Except StepFault (Answer × Workspace) :=
  match w.perform s with
  | (result, left) => result.map fun answer => (answer, left)

/-- The workspace after a step. -/
def next (w : Workspace) (s : Step) : Workspace :=
  (w.perform s).2

def after (w : Workspace) (steps : List Step) : Workspace :=
  steps.foldl next w

def run (w : Workspace) : List Step → List (Except StepFault Answer)
  | [] => []
  | s :: rest => (w.perform s).1 :: (w.next s).run rest

end SignificantFigures.Workspace
