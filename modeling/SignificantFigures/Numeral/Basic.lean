import SignificantFigures.Decimal.Nearest

/-!
Numerals as they are written: digits with an optional point, an optional sign and an optional
exponent. Each form comes with its text and with the reader that takes the longest such form from
the front of a text and returns what follows.
-/

set_option autoImplicit false

namespace SignificantFigures.Numeral

def exponentMark : Char := 'e'

inductive Sign where
  | plus
  | minus
  deriving DecidableEq

namespace Sign

def char : Sign → Char
  | plus => '+'
  | minus => '-'

def text : Option Sign → List Char
  | some sign => [sign.char]
  | none => []

/-- Takes an optional sign from the front of a text. -/
def read : List Char → Option Sign × List Char
  | [] => (none, [])
  | c :: rest =>
    if c = '+' then (some plus, rest)
    else if c = '-' then (some minus, rest)
    else (none, c :: rest)

end Sign

/-- Takes the digits from the front of a text. -/
def readDigits (text : List Char) : List Char × List Char :=
  (text.takeWhile Char.isDigit, text.dropWhile Char.isDigit)

/-- Taking digits off a text loses nothing. -/
theorem readDigits_append (text : List Char) : (readDigits text).1 ++ (readDigits text).2 = text :=
  List.takeWhile_append_dropWhile

/-- Digits with an optional point: those before it, and those behind it if there is a point. -/
structure Mantissa where
  whole : List Char
  fraction : Option (List Char)
  deriving DecidableEq

namespace Mantissa

def text (m : Mantissa) : List Char :=
  m.whole ++ match m.fraction with
    | none => []
    | some fraction => '.' :: fraction

/-- All its digits, without the point. -/
def digits (m : Mantissa) : List Char :=
  m.whole ++ m.fraction.getD []

/-- Only digits beside the point, and at least one of them. -/
def WellFormed (m : Mantissa) : Prop :=
  m.digits ≠ [] ∧ ∀ c ∈ m.digits, c.isDigit = true

/-- Completes a mantissa whose digits before the point are taken. -/
def complete (whole : List Char) (rest : List Char) : Option (Mantissa × List Char) :=
  match rest with
  | '.' :: behind =>
    if whole.isEmpty && (readDigits behind).1.isEmpty then none
    else some (⟨whole, some (readDigits behind).1⟩, (readDigits behind).2)
  | _ => if whole.isEmpty then none else some (⟨whole, none⟩, rest)

/-- Takes the longest mantissa from the front of a text. -/
def read (text : List Char) : Option (Mantissa × List Char) :=
  complete (readDigits text).1 (readDigits text).2

theorem complete_append {whole rest rest' : List Char} {m : Mantissa}
    (h : complete whole rest = some (m, rest')) :
    m.text ++ rest' = whole ++ rest ∧ m.text ≠ [] := by
  unfold complete at h
  split at h
  · next behind =>
    have fraction := readDigits_append behind
    simp only [Option.ite_none_left_eq_some, Option.some.injEq, Prod.mk.injEq] at h
    obtain ⟨-, rfl, rfl⟩ := h
    simp [text, fraction]
  · simp only [List.isEmpty_iff, Option.ite_none_left_eq_some, Option.some.injEq,
      Prod.mk.injEq] at h
    obtain ⟨nonempty, rfl, rfl⟩ := h
    simp [text, nonempty]

/-- Reading a mantissa cuts it off the text, and it is not empty. -/
theorem read_append {text rest : List Char} {m : Mantissa} (h : read text = some (m, rest)) :
    m.text ++ rest = text ∧ m.text ≠ [] := by
  have cut := complete_append h
  rwa [readDigits_append] at cut

end Mantissa

/-- An exponent: its sign and its digits. -/
structure Exponent where
  sign : Option Sign
  digits : List Char
  deriving DecidableEq

namespace Exponent

def text : Option Exponent → List Char
  | some e => exponentMark :: (Sign.text e.sign ++ e.digits)
  | none => []

/-- The number that an optional exponent stands for; none stands for zero. -/
def value : Option Exponent → Int
  | some e =>
    let size : Int := Nat.ofDigitChars 10 e.digits 0
    if e.sign = some .minus then -size else size
  | none => 0

/-- Takes an exponent with at least one digit from the front of a text, or nothing. -/
def read (text : List Char) : Option Exponent × List Char :=
  match text with
  | [] => (none, [])
  | c :: behind =>
    let signed := Sign.read behind
    let digits := readDigits signed.2
    if c = exponentMark ∧ digits.1 ≠ [] then (some ⟨signed.1, digits.1⟩, digits.2) else (none, text)

end Exponent

end Numeral

/-- A written number: sign, mantissa and exponent. -/
structure Numeral where
  sign : Option Numeral.Sign
  mantissa : Numeral.Mantissa
  exponent : Option Numeral.Exponent
  deriving DecidableEq

namespace Numeral

def text (n : Numeral) : List Char :=
  Sign.text n.sign ++ n.mantissa.text ++ Exponent.text n.exponent

/-- The decimal number that a numeral stands for. -/
def value (n : Numeral) : Decimal :=
  ⟨n.sign = some .minus, Nat.ofDigitChars 10 n.mantissa.digits 0,
    Exponent.value n.exponent - ((n.mantissa.fraction.getD []).length : Int)⟩

/-- Takes the longest numeral from the front of a text. -/
def read (text : List Char) : Option (Numeral × List Char) :=
  let signed := Sign.read text
  (Mantissa.read signed.2).map fun (mantissa, rest) =>
    let exponent := Exponent.read rest
    (⟨signed.1, mantissa, exponent.1⟩, exponent.2)

/-- The double nearest to the numeral at the front of a text; what follows it is ignored. -/
def leadingDouble? (text : List Char) : Option Double :=
  (read text).map fun (numeral, _) => numeral.value.nearest

end Numeral

end SignificantFigures
