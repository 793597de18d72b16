import SignificantFigures.Double.Basic
import SignificantFigures.Expression.Token
import SignificantFigures.Text.Integer

/-!
Building a token from untyped fields. Every field is looked at, and all errors are reported in the
order of the fields. A position may also be a truth value, a whole double or an integer in a string;
a payload has to fit the kind, if the kind itself is a good one. A token once built does not change.
-/

set_option autoImplicit false

namespace SignificantFigures.Expression

variable [PowersOfTen]

inductive FieldFault where
  | missing
  | noKind
  | notAnInteger
  | noDigits
  | tooLong
  | notFinite
  | notWhole
  | negative
  | notText
  | emptyText
  | notAQuantity
  | quantityExpected
  | textExpected (kind : Kind)
  | frozen
  deriving DecidableEq

namespace FieldFault

def name : FieldFault → String
  | missing => "missing"
  | noKind => "enum"
  | notAnInteger => "int_type"
  | noDigits => "int_parsing"
  | tooLong => "int_parsing_size"
  | notFinite => "finite_number"
  | notWhole => "int_from_float"
  | negative => "greater_than_equal"
  | notText => "string_type"
  | emptyText => "string_too_short"
  | notAQuantity => "is_instance_of"
  | quantityExpected | textExpected _ => "value_error"
  | frozen => "frozen_instance"

/-- The message of a fault, for the faults that have one of their own. -/
def message? : FieldFault → Option String
  | quantityExpected => some "Value error, quantity token payload must be a SigFigNumber"
  | textExpected kind =>
    some ("Value error, " ++ kind.name ++ " token payload must be the matched text")
  | _ => none

end FieldFault

structure FieldError where
  location : List String
  fault : FieldFault
  deriving DecidableEq

namespace Field

/-- The greatest integer that a double is turned into. -/
def integerLimit : Int := 9223372036854775807

/-- A fault of the text of an integer as the fault of a field. -/
def ofIntegerFault : Text.IntegerFault → FieldFault
  | .noInteger => .noDigits
  | .tooLong => .tooLong

def integerOf : Value → Except FieldFault Int
  | .integer n => .ok n
  | .bool b => .ok (if b then 1 else 0)
  | .double (.finite x) =>
    if x.value.den ≠ 1 then .error .notWhole
    else if integerLimit < x.value.num.natAbs then .error .tooLong
    else .ok x.value.num
  | .double _ => .error .notFinite
  | .string text => (Text.integer text.toList).mapError ofIntegerFault
  | _ => .error .notAnInteger

def kindOf : Value → Except (List FieldError) Kind
  | .string text =>
    match Kind.ofName? text with
    | some kind => .ok kind
    | none => .error [⟨["kind"], .noKind⟩]
  | _ => .error [⟨["kind"], .noKind⟩]

def positionOf (v : Value) : Except (List FieldError) Nat :=
  match integerOf v with
  | .error fault => .error [⟨["position"], fault⟩]
  | .ok n => if n < 0 then .error [⟨["position"], .negative⟩] else .ok n.toNat

/-- A value as the characters of a token. -/
def textOf : Value → Except (List FieldError) (List Char)
  | .string text =>
    if text.isEmpty then .error [⟨["text"], .emptyText⟩] else .ok text.toList
  | _ => .error [⟨["text"], .notText⟩]

/-- A value as a payload, whatever the kind. -/
def payloadOf : Value → Except (List FieldError) Payload
  | .quantity q => .ok (.quantity q)
  | .string text => .ok (.text text.toList)
  | _ => .error [⟨["payload", "is-instance[SigFigNumber]"], .notAQuantity⟩,
      ⟨["payload", "str"], .notText⟩]

/-- Whether a payload fits a kind. -/
def fits (kind : Kind) : Payload → Except (List FieldError) Payload
  | .quantity q =>
    if kind = .quantity then .ok (.quantity q)
    else .error [⟨["payload"], .textExpected kind⟩]
  | .text text =>
    if kind = .quantity then .error [⟨["payload"], .quantityExpected⟩] else .ok (.text text)

/-- A field of the given name, read in the given way. -/
def read {α : Type} (fields : List (String × Value)) (name : String)
    (of : Value → Except (List FieldError) α) : Except (List FieldError) α :=
  match Value.entry? fields name with
  | some v => of v
  | none => .error [⟨[name], .missing⟩]

def errors {α : Type} : Except (List FieldError) α → List FieldError
  | .error es => es
  | .ok _ => []

end Field

/-- The payload among the fields; it has to fit the kind if there is a good one. -/
def Token.payloadOfFields (fields : List (String × Value)) :
    Except (List FieldError) Kind → Except (List FieldError) Payload
  | .ok kind => (Field.read fields "payload" Field.payloadOf).bind (Field.fits kind)
  | .error _ => Field.read fields "payload" Field.payloadOf

/-- The token of the given fields, or all that is wrong with them. Other fields are ignored. -/
def Token.ofFields (fields : List (String × Value)) : Except (List FieldError) Token :=
  let kind := Field.read fields "kind" Field.kindOf
  let position := Field.read fields "position" Field.positionOf
  let text := Field.read fields "text" Field.textOf
  let payload := Token.payloadOfFields fields kind
  match kind, position, text, payload with
  | .ok kind, .ok position, .ok text, .ok payload => .ok ⟨kind, position, text, payload⟩
  | _, _, _, _ =>
    .error (Field.errors kind ++ Field.errors position ++ Field.errors text ++ Field.errors payload)

/-- Assigning to a field of a token changes nothing and is an error. -/
def Token.assign (t : Token) (field : String) : FieldError × Token :=
  (⟨[field], .frozen⟩, t)

end SignificantFigures.Expression
