import SignificantFigures.Expression.Kind
import SignificantFigures.Numeral.Literal

/-!
The characters that make up a token. A blank and a symbol are one character; a quantity is a
mantissa, then optionally the exponent mark with any number of digits, then optionally the mark of
exact numbers. A lexeme is never empty and stands at the front of the text it is taken from.
-/

set_option autoImplicit false

namespace SignificantFigures.Expression

open Numeral

structure QuantityForm where
  mantissa : Mantissa
  exponent : Option (List Char)
  marked : Bool
  deriving DecidableEq

namespace QuantityForm

def exponentText : Option (List Char) → List Char
  | none => []
  | some digits => exponentMark :: digits

/-- The mark of exact numbers, if it is there. -/
def markText (marked : Bool) : List Char :=
  if marked then [exactMark] else []

def text (f : QuantityForm) : List Char :=
  f.mantissa.text ++ exponentText f.exponent ++ markText f.marked

/-- Takes an exponent mark with the digits behind it from the front of a text. -/
def readExponent : List Char → Option (List Char) × List Char
  | [] => (none, [])
  | c :: rest =>
    if c = exponentMark then (some (readDigits rest).1, (readDigits rest).2)
    else (none, c :: rest)

/-- Takes the mark of exact numbers from the front of a text. -/
def readMark : List Char → Bool × List Char
  | [] => (false, [])
  | c :: rest => if c = exactMark then (true, rest) else (false, c :: rest)

/-- Takes the longest quantity from the front of a text. -/
def read (text : List Char) : Option (QuantityForm × List Char) :=
  (Mantissa.read text).map fun (mantissa, rest) =>
    let exponent := readExponent rest
    let mark := readMark exponent.2
    (⟨mantissa, exponent.1, mark.1⟩, mark.2)

theorem readExponent_append (text : List Char) :
    exponentText (readExponent text).1 ++ (readExponent text).2 = text := by
  unfold readExponent
  split
  · rfl
  · next c rest =>
    have digits := readDigits_append rest
    split <;> simp_all [exponentText]

theorem readMark_append (text : List Char) :
    markText (readMark text).1 ++ (readMark text).2 = text := by
  unfold readMark
  split
  · rfl
  · split <;> simp_all [markText]

/-- Reading a quantity cuts it off the text, and it is not empty. -/
theorem read_append {text rest : List Char} {f : QuantityForm} (h : read text = some (f, rest)) :
    f.text ++ rest = text ∧ f.text ≠ [] := by
  simp only [read, Option.map_eq_some_iff, Prod.exists, Prod.mk.injEq] at h
  obtain ⟨mantissa, behind, h, rfl, rfl⟩ := h
  obtain ⟨cut, nonempty⟩ := Mantissa.read_append h
  have exponent := readExponent_append behind
  have mark := readMark_append (readExponent behind).2
  simp [QuantityForm.text, nonempty, cut, exponent, mark]

end QuantityForm

/-- The first character of a text as a lexeme, if it passes a test. -/
def oneChar? (test : Char → Bool) : List Char → Option (List Char)
  | [] => none
  | c :: _ => if test c then some [c] else none

/-- The lexeme of a kind at the front of a text. -/
def Kind.lexeme? (kind : Kind) (text : List Char) : Option (List Char) :=
  match kind with
  | .whitespace => oneChar? Text.isBlank text
  | .quantity => (QuantityForm.read text).map fun (form, _) => form.text
  | kind => oneChar? (fun c => kind.symbol? == some c) text

theorem oneChar?_append {test : Char → Bool} {text lexeme : List Char}
    (h : oneChar? test text = some lexeme) : lexeme ≠ [] ∧ ∃ rest, lexeme ++ rest = text := by
  unfold oneChar? at h
  split at h <;> simp_all
  simp [← h]

/-- A lexeme is a nonempty front part of the text. -/
theorem Kind.lexeme?_append {kind : Kind} {text lexeme : List Char}
    (h : kind.lexeme? text = some lexeme) : lexeme ≠ [] ∧ ∃ rest, lexeme ++ rest = text := by
  unfold Kind.lexeme? at h
  split at h
  · exact oneChar?_append h
  · simp only [Option.map_eq_some_iff, Prod.exists] at h
    obtain ⟨form, rest, h, rfl⟩ := h
    obtain ⟨cut, nonempty⟩ := QuantityForm.read_append h
    exact ⟨nonempty, rest, cut⟩
  · exact oneChar?_append h

/-- The first kind with a lexeme at the front of a text, and that lexeme. -/
def lexeme? (text : List Char) : Option (Kind × List Char) :=
  Kind.all.findSome? fun kind => (kind.lexeme? text).map fun lexeme => (kind, lexeme)

theorem lexeme?_append {kind : Kind} {text lexeme : List Char}
    (h : lexeme? text = some (kind, lexeme)) : lexeme ≠ [] ∧ ∃ rest, lexeme ++ rest = text := by
  unfold lexeme? at h
  obtain ⟨found, -, found_eq⟩ := List.exists_of_findSome?_eq_some h
  simp only [Option.map_eq_some_iff, Prod.mk.injEq] at found_eq
  obtain ⟨_, taken, -, rfl⟩ := found_eq
  exact Kind.lexeme?_append taken

/-- The lexeme of a kind at a position of a text; there is none past its end. -/
def Kind.lexemeAt? (kind : Kind) (text : List Char) (position : Int) : Option (List Char) :=
  kind.lexeme? (text.drop position.toNat)

end SignificantFigures.Expression
