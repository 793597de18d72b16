import SignificantFigures.Decade
import SignificantFigures.Double.Places
import SignificantFigures.Double.Text
import SignificantFigures.Value.Text

/-!
Numeric operations on untyped values. Each says which values it takes and how it fails on the
others; on a finite double it is the operation of that double.
-/

set_option autoImplicit false

namespace SignificantFigures

/-- A decimal number, an infinity, or not a number. -/
inductive Decimal.Extended where
  | finite (d : Decimal)
  | infinite (negative : Bool)
  | nan

def Double.ofInteger (n : Int) : Double :=
  nearest (n : Rat)

/-- The decimal number of a double: the shortest that reads back. -/
def Double.decimal : Double → Decimal.Extended
  | finite x => .finite (Decimal.shortest x)
  | infinite negative => .infinite negative
  | nan => .nan

namespace Value

variable [PowersOfTen]

/-- Why an operation on values has no result. -/
inductive Fault where
  /-- A value of a kind that the operation does not take. -/
  | wrongKind
  /-- A value of the right kind that has no meaning here. -/
  | meaningless
  /-- A number too great for the operation. -/
  | tooGreat
  /-- The kind of value lacks what the operation asks of it. -/
  | lacking
  /-- A limit of decimal arithmetic. -/
  | decimal (fault : Decimal.Fault)
  deriving DecidableEq

/-- A truth value as the number one or zero. -/
def ofBool (b : Bool) : Int :=
  if b then 1 else 0

/-- An integer or a truth value, as an integer. -/
def whole : Value → Except Fault Int
  | integer n => .ok n
  | bool b => .ok (ofBool b)
  | _ => .error .wrongKind

/-- A number or a truth value, as the nearest double. -/
def nearestDouble : Value → Except Fault Double
  | double x => .ok x
  | integer n =>
    match Double.ofInteger n with
    | .finite x => .ok (.finite x)
    | _ => .error .tooGreat
  | bool b => .ok (Double.ofInteger (ofBool b))
  | _ => .error .wrongKind

/-- Whether a number is finite as a double; an integer past the range has no answer. -/
def isFinite (v : Value) : Except Fault Bool :=
  v.nearestDouble.map Double.isFinite

/-- The least integer whose decimal logarithm is taken to be 309. -/
def logarithmLimit : Nat :=
  12526052250055991 * Nat.pow 2 973

/-- The decade that an estimate of the order leads to. No double stands for the power of ten of an
estimate past the greatest one. -/
def decadeFrom (estimate : Int) (size : Rat) : Except Fault Int :=
  if Decade.greatest < estimate then .error .tooGreat else .ok (Decade.stepped estimate size)

/-- The order of an integer as its logarithm gives it. -/
def orderOfInteger (n : Int) : Int :=
  if logarithmLimit ≤ n.natAbs then Decade.greatest + 1 else Rational.decimalOrder (n.natAbs : Rat)

/-- The decade of an integer, unless its logarithm is past the greatest decade. -/
def decadeOfInteger (n : Int) : Except Fault Int :=
  if n = 0 then .ok Decade.ofZero else decadeFrom (orderOfInteger n) (n.natAbs : Rat)

def decade : Value → Except Fault Int
  | integer n => decadeOfInteger n
  | bool b => decadeOfInteger (ofBool b)
  | double (.finite x) => .ok x.decade
  | double (.infinite _) => .error .tooGreat
  | double .nan => .error .meaningless
  | _ => .error .wrongKind

/-- A number as a decimal, by way of its text; nothing else is one. -/
def decimal (v : Value) : Except Fault Decimal.Extended :=
  if v.text?.isNone then .error .meaningless
  else
    match v with
    | integer n => .ok (.finite (Decimal.ofInt n))
    | double x => .ok x.decimal
    | _ => .error (.decimal .invalid)

/-- A decimal rounded at a place, as a double. -/
def roundedDecimal (place : Int) : Decimal.Extended → Except Fault Double
  | .finite d =>
    ((d.quantized place (d.workingDigits place)).map Decimal.nearestUnsigned).mapError
      Fault.decimal
  | .infinite _ => .error (.decimal .invalid)
  | .nan => .ok .nan

/-- A number rounded at a decimal place, a half going away from zero. -/
def roundedAt (v place : Value) : Except Fault Double := do
  let d ← v.decimal
  let place ← place.whole
  (Decimal.checkPlace place).mapError Fault.decimal
  roundedDecimal place d

/-- A decimal with its point moved, as a double. -/
def shiftedDecimal (places : Int) : Decimal.Extended → Except Fault Double
  | .finite d => (d.shifted places).map Decimal.nearest |>.mapError Fault.decimal
  | .infinite negative =>
    if Decimal.shiftLimit < places.natAbs then .error (.decimal .invalid)
    else .ok (.infinite negative)
  | .nan => .ok .nan

/-- A number divided by a power of ten. -/
def mantissa (v exponent : Value) : Except Fault Double := do
  let d ← v.decimal
  let exponent ← exponent.whole
  shiftedDecimal (-exponent) d

/-- The greatest number of places that a text can be given. -/
def placesLimit : Nat := 2147483647

/-- The greatest count that can be read at all. -/
def countLimit : Int := 9223372036854775807

/-- The number of places that a value asks for: zero for anything below zero. A positive double, a
truth value that is true or an integer past all bounds is no count. An integer has to be written. -/
def places : Value → Except Fault (Option Nat)
  | integer n =>
    if (Text.ofInteger? (max 0 n)).isNone then .error .meaningless
    else .ok (if n ≤ countLimit then some n.toNat else none)
  | bool b => .ok (if b then none else some 0)
  | double (.finite x) => .ok (if 0 < x.value then none else some 0)
  | double (.infinite negative) => .ok (if negative then some 0 else none)
  | double .nan => .ok (some 0)
  | _ => .error .wrongKind

/-- A number with a fixed number of places. -/
def fixedText (v count : Value) : Except Fault (List Char) := do
  match v, ← count.places with
  | string _, _ => .error .meaningless
  | v, some count =>
    let x ← v.nearestDouble
    if placesLimit < count then .error .meaningless else .ok (x.fixedText count)
  | v, none => if v.isNumber then .error .meaningless else v.whole.bind fun _ => .error .meaningless

/-- A decimal in positional form without zeros at its end. -/
def plainDecimal : Decimal.Extended → List Char
  | .finite d => d.plainText
  | .infinite negative => (Double.infinite negative).plainText
  | .nan => Double.nan.plainText

/-- A number in positional form without zeros at its end. -/
def plainText (v : Value) : Except Fault (List Char) :=
  v.decimal.map plainDecimal

end Value

end SignificantFigures
