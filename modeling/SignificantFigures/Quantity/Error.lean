import SignificantFigures.Value.Text

/-!
Why an operation on quantities fails, and the message for each cause that has one. Where an integer
in the message has too many digits, the operation fails for that instead.
-/

set_option autoImplicit false

namespace SignificantFigures.Quantity

variable [PowersOfTen]

/-- The causes of failure. -/
inductive Error where
  /-- The magnitude is no number. -/
  | notANumber (magnitude : Value)
  /-- The magnitude is infinite or not a number. -/
  | notFinite (magnitude : Double)
  /-- The precision is neither exact nor a positive integer. -/
  | badPrecision (precision : Value)
  /-- The last place is neither exact nor an integer. -/
  | badPlace (place : Value)
  /-- A number past the range of doubles where its size is asked for. -/
  | tooGreat
  /-- The divisor is zero. -/
  | divisionByZero (dividend : Quantity)
  /-- The text is no literal of a quantity. -/
  | unreadable (literal : List Char)
  /-- A limit of decimal arithmetic. -/
  | decimal (fault : Decimal.Fault)
  /-- The message of another failure has an integer with too many digits. -/
  | unwritable

namespace Error

/-- Whether a failure has a message of its own. -/
def hasMessage : Error → Bool
  | tooGreat => false
  | decimal _ => false
  | unwritable => false
  | _ => true

/-- The message of a failure that has one, if it can be written. -/
def message? : Error → Option (List Char)
  | notANumber v => v.text?.map ("Invalid value: ".toList ++ ·)
  | notFinite x => some ("Value must be finite, got ".toList ++ x.text)
  | badPrecision v => v.text?.map ("Invalid number of significant figures: ".toList ++ ·)
  | badPlace v => v.text?.map ("Invalid last significant place: ".toList ++ ·)
  | divisionByZero q =>
    q.describe?.map fun dividend =>
      "Division of ".toList ++ dividend ++ " by zero quantity".toList
  | unreadable literal =>
    some ("Invalid significant-figure literal: ".toList ++ Text.quoted literal)
  | tooGreat => none
  | decimal _ => none
  | unwritable => none

/-- What an operation fails for once the message is to be written. -/
def raised (e : Error) : Error :=
  if e.hasMessage && e.message?.isNone then unwritable else e

end Error

end SignificantFigures.Quantity
