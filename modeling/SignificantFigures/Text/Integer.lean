import SignificantFigures.Decimal.Text
import SignificantFigures.Text.Blank

/-!
Integers as text. They are read and written only up to a number of digits.

Integers are read as people write them. White space at the ends, a plus sign, zeros in front of the digits or
of a minus sign, zeros between a minus sign in front and the digits, a fraction of nothing but zeros
and single underscores between digits are cleared away; what is left has to be a plain integer. A
point without a zero behind it is no fraction.
-/

set_option autoImplicit false

namespace SignificantFigures.Text

inductive IntegerFault where
  | noInteger
  | tooLong
  deriving DecidableEq

/-- The greatest number of digits that an integer is read or written with. -/
def digitLimit : Nat := 4300

/-- The text of an integer that has not too many digits. -/
def ofInteger? (n : Int) : Option (List Char) :=
  if Rational.digitCount n.natAbs ≤ digitLimit then some (integerText n) else none

/-- Whether a character is white space at the ends of an integer: a blank that is not one of the
separators. -/
def isSpace (c : Char) : Bool :=
  isBlank c && !(0x1C ≤ c.toNat && c.toNat ≤ 0x1F)

/-- The text without white space at both ends. -/
def trimmed (text : List Char) : List Char :=
  ((text.dropWhile isSpace).reverse.dropWhile isSpace).reverse

/-- Whether a number is written with a minus sign, and what stands behind its sign. -/
def splitSign : List Char → Bool × List Char
  | '-' :: rest => (true, rest)
  | '+' :: rest => (false, rest)
  | text => (false, text)

/-- Whether a character may stand among the zeros in front of a number. -/
def isFill (c : Char) : Bool :=
  c == '0' || c == '_'

/-- Takes zeros, and underscores between them, off the front of a text. The last of them stays where
a point or nothing follows. -/
def withoutFill (text : List Char) : List Char :=
  let fill := text.takeWhile isFill
  match text.dropWhile isFill with
  | [] => fill.drop (fill.length - 1)
  | '.' :: behind => fill.drop (fill.length - 1) ++ '.' :: behind
  | rest => rest

/-- Takes zeros off the front of what stands behind a sign, which has to start with a digit. -/
def withoutLeadingZeros : List Char → Option (List Char)
  | [] => none
  | c :: rest => if c.isDigit then some (withoutFill (c :: rest)) else none

/-- Takes a point off with the zeros behind it, of which there is at least one. -/
def withoutZeroFraction (text : List Char) : List Char :=
  match text.dropWhile (· != '.') with
  | '.' :: '0' :: rest => if rest.all (· == '0') then text.takeWhile (· != '.') else text
  | _ => text

/-- Takes single underscores out from between other characters. -/
def withoutUnderscores (text : List Char) : List Char :=
  let groups := text.splitOn '_'
  if groups.all fun group => !group.isEmpty then groups.flatten else text

/-- The number that plain digits stand for: a single zero, or digits that do not start with zero.
The sign in front of them counts towards their length. -/
def plainSize (signLength : Nat) (text : List Char) : Except IntegerFault Nat :=
  match text with
  | ['0'] => .ok 0
  | '0' :: _ => .error .noInteger
  | _ =>
    let digits := text.takeWhile Char.isDigit
    if digitLimit < signLength + digits.length then .error .tooLong
    else if digits.isEmpty || digits.length != text.length then .error .noInteger
    else .ok (Nat.ofDigitChars 10 digits 0)

/-- A plain integer: digits, which a minus sign may precede. -/
def plainInteger : List Char → Except IntegerFault Int
  | '-' :: digits => (plainSize 1 digits).map fun size => -(size : Int)
  | digits => (plainSize 0 digits).map fun size => (size : Int)

/-- The integer that a text stands for. -/
def integer (text : List Char) : Except IntegerFault Int :=
  let (negative, unsigned) := splitSign (trimmed text)
  match withoutLeadingZeros unsigned with
  | none => .error .noInteger
  | some number =>
    let plain := withoutUnderscores (withoutZeroFraction number)
    plainInteger (if negative then '-' :: plain else plain)

end SignificantFigures.Text
