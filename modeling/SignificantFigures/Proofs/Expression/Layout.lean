import SignificantFigures.Expression.Entry
import SignificantFigures.Proofs.Expression.Concatenation

/-!
Laying an expression out anew. Blanks are put in between its tokens, and blanks are taken out that do
not stand between two quantities. The entries keep their kinds and quantities, and each moves by the
number of blanks put in before it, less those taken out.
-/

set_option autoImplicit false

namespace SignificantFigures.Expression

open Numeral

/-- One step in laying out tokens from left to right: a blank is put in, a token stays, or a token is
taken out. A run of blanks is put in one by one. -/
inductive Edit where
  | insert (blank : Char)
  | keep (t : Token)
  | delete (t : Token)

namespace Edit

/-- The tokens that are laid out, those that are taken out among them. -/
def tokens : List Edit → List Token
  | [] => []
  | insert _ :: rest => tokens rest
  | keep t :: rest => t :: tokens rest
  | delete t :: rest => t :: tokens rest

/-- The text of the new layout. -/
def text : List Edit → List Char
  | [] => []
  | insert blank :: rest => blank :: text rest
  | keep t :: rest => t.text ++ text rest
  | delete _ :: rest => text rest

/-- Whether the first of some tokens, white space aside, is a quantity. -/
def leads (tokens : List Token) : Bool :=
  (tokens.find? fun t => !t.isWhitespace).any fun t => t.kind == .quantity

/-- Only blanks are put in and only white space is taken out, none of it from between two quantities.
The flag says whether the last token so far, white space aside, is a quantity. -/
def Allowed (behind : Bool) : List Edit → Prop
  | [] => True
  | insert blank :: rest => Text.isBlank blank = true ∧ Allowed behind rest
  | keep t :: rest => Allowed (if t.isWhitespace then behind else t.kind == .quantity) rest
  | delete t :: rest =>
    t.isWhitespace = true ∧ (behind && leads (tokens rest)) = false ∧ Allowed behind rest

/-- The blanks put in before each token that stays, white space aside, less those taken out. -/
def shifts (amount : Int) : List Edit → List Int
  | [] => []
  | insert _ :: rest => shifts (amount + 1) rest
  | keep t :: rest => if t.isWhitespace then shifts amount rest else amount :: shifts amount rest
  | delete t :: rest => shifts (amount - t.text.length) rest

/-- The tokens of the new layout, from a position on. -/
def laid (position : Nat) : List Edit → List Token
  | [] => []
  | insert blank :: rest => ⟨.whitespace, position, [blank], .text [blank]⟩ :: laid (position + 1) rest
  | keep t :: rest => { t with position } :: laid (position + t.text.length) rest
  | delete _ :: rest => laid position rest

end Edit

/-- What an entry is, wherever it stands. -/
def Entry.content (e : Entry) : Kind × Option Quantity :=
  (e.kind, e.quantity)

section Boundaries

variable {text : List Char} {c : Char}

/-- No lexeme begins with one of the marks that stand inside of quantities. -/
private theorem ne_mark_of_begins {kind : Kind} (begins : kind.begins c) :
    c ≠ exponentMark ∧ c ≠ exactMark := by
  constructor
  · rintro rfl
    have blank : Text.isBlank exponentMark = false := by decide
    cases kind <;> simp_all [Kind.begins, Kind.symbol?, exponentMark]
  · rintro rfl
    have blank : Text.isBlank exactMark = false := by decide
    cases kind <;> simp_all [Kind.begins, Kind.symbol?, exactMark]

/-- A text that begins like a blank or a symbol does not go on with a quantity. -/
theorem stopsQuantity_of_begins {kind : Kind} (other : kind ≠ .quantity) (begins : kind.begins c) :
    StopsQuantity (c :: text) := by
  intro d hd
  obtain rfl := Option.some.inj hd
  have free : ¬ (c.isDigit = true ∨ c = '.') := fun quantity =>
    other (Kind.eq_of_begins begins (b := .quantity) quantity)
  rw [not_or, Bool.not_eq_true] at free
  exact ⟨free.1, free.2, ne_mark_of_begins begins⟩

theorem stopsQuantity_blank (blank : Text.isBlank c = true) : StopsQuantity (c :: text) :=
  stopsQuantity_of_begins (show Kind.whitespace ≠ .quantity by decide) blank

end Boundaries

/-- White space gives no entry, every other token one. -/
theorem entriesOf_cons (t : Token) (tokens : List Token) :
    entriesOf (t :: tokens) =
      if t.isWhitespace then entriesOf tokens else Entry.ofToken t :: entriesOf tokens := by
  cases white : t.isWhitespace <;> simp [entriesOf, white]

/-- What an entry has of its token: the kind, the position and the quantity, if the token is one. -/
structure Entry.IsOf (e : Entry) (t : Token) : Prop where
  kind : e.kind = t.kind
  position : e.position = t.position
  quantity (q : Quantity) : e.quantity = some q ↔ t.payload = .quantity q

theorem Payload.quantity?_eq_some_iff {p : Payload} {q : Quantity} :
    p.quantity? = some q ↔ p = .quantity q := by
  cases p <;> simp [quantity?]

theorem Entry.isOf_iff {e : Entry} {t : Token} : e.IsOf t ↔ e = ofToken t := by
  constructor
  · rintro ⟨kind, position, quantity⟩
    have carried : e.quantity = t.payload.quantity? :=
      Option.ext fun q => (quantity q).trans Payload.quantity?_eq_some_iff.symm
    cases e
    simp_all [ofToken]
  · rintro rfl
    exact ⟨rfl, rfl, fun q => Payload.quantity?_eq_some_iff⟩

/-- Entries come from the tokens that are no white space, one from each and in their order. -/
theorem forall₂_isOf_iff {entries : List Entry} {tokens : List Token} :
    List.Forall₂ Entry.IsOf entries (tokens.filter fun t => t.kind != .whitespace) ↔
      entries = entriesOf tokens := by
  have made : Entry.IsOf = fun e t => e = Entry.ofToken t :=
    funext₂ fun _ _ => propext Entry.isOf_iff
  have visible : (tokens.filter fun t => t.kind != .whitespace) =
      tokens.filter fun t => !t.isWhitespace := rfl
  rw [made, visible, ← List.forall₂_map_right_iff, List.forall₂_eq_eq_eq, entriesOf]

/-- The entries of an expression are those of its tokens. -/
theorem entries?_eq_ok_iff [PowersOfTen] {expression : List Char} {entries : List Entry} :
    entries? expression = .ok entries ↔ ∃ tokens, tokens? expression = .ok tokens ∧
      List.Forall₂ Entry.IsOf entries (tokens.filter fun t => t.kind != .whitespace) := by
  simp only [entries?, Except.map_eq_ok_iff, forall₂_isOf_iff, eq_comm (a := entries)]

section Scanning

variable [PowersOfTen] {position : Nat} {rest : List Char}

/-- Tokens are what their characters are cut into if the first is taken off and the others are cut
from where it stops. -/
theorem scan_characters_cons_iff {t : Token} {tokens : List Token} :
    scan position (characters (t :: tokens)) = (t :: tokens, none) ↔
      pull position (t.text ++ characters tokens) = .token t ∧
        scan t.stop (characters tokens) = (tokens, none) := by
  rw [scan_eq_cons_iff, characters_cons, List.drop_left]

/-- A token begins as its kind does. -/
theorem exists_begins_of_pull {text : List Char} {t : Token} (pulled : pull position text = .token t) :
    ∃ c front, t.text = c :: front ∧ t.kind.begins c := by
  obtain ⟨-, lexeme, -⟩ := pull_token pulled
  obtain ⟨nonempty, behind, rfl⟩ := pull_eq_token pulled
  obtain ⟨c, head, begins⟩ := Kind.begins_of_lexeme? (lexeme?_eq_some_iff.mp lexeme)
  obtain ⟨d, front, written⟩ := List.exists_cons_of_ne_nil nonempty
  rw [written] at head
  obtain rfl := Option.some.inj head
  exact ⟨_, front, written, begins⟩

theorem pull_blank {blank : Char} (isBlank : Text.isBlank blank = true) :
    pull position (blank :: rest) = .token ⟨.whitespace, position, [blank], .text [blank]⟩ := by
  have lexeme : lexeme? (blank :: rest) = some (.whitespace, [blank]) :=
    lexeme?_eq_some_iff.mpr ((Kind.lexeme?_eq_some_iff_of_ne (by decide)).mpr
      ⟨blank, rest, rfl, isBlank, rfl⟩)
  exact pull_of_lexeme? lexeme rfl

end Scanning

namespace Edit

variable {behind : Bool} {edits : List Edit} {old new : Nat}

section Pull

variable [PowersOfTen]

/-- Behind a quantity, the text that is left after something is taken out does not go on with it. -/
private theorem stopsQuantity_text (allowed : Allowed behind edits)
    (free : leads (tokens edits) = false)
    (cut : scan old (characters (tokens edits)) = (tokens edits, none)) :
    StopsQuantity (text edits) := by
  induction edits generalizing old with
  | nil => exact fun c hc => nomatch hc
  | cons edit rest ih =>
    cases edit with
    | insert blank => exact stopsQuantity_blank allowed.1
    | keep t =>
      obtain ⟨pulled, -⟩ := scan_characters_cons_iff.mp cut
      obtain ⟨c, front, written, begins⟩ := exists_begins_of_pull pulled
      have other : t.kind ≠ .quantity := by
        intro quantity
        simp [leads, tokens, Token.isWhitespace, quantity] at free
      show StopsQuantity (t.text ++ text rest)
      rw [written]
      exact stopsQuantity_of_begins other begins
    | delete t =>
      obtain ⟨white, -, allowed⟩ := allowed
      obtain ⟨-, later⟩ := scan_characters_cons_iff.mp cut
      exact ih allowed (by simpa [leads, tokens, white] using free) later

/-- Behind a quantity the new layout goes on with it only if the old one does. -/
private theorem stops_text (allowed : Allowed true edits)
    (cut : scan old (characters (tokens edits)) = (tokens edits, none)) {f : QuantityForm}
    (stops : f.Stops (characters (tokens edits))) : f.Stops (text edits) := by
  cases edits with
  | nil => exact stops
  | cons edit rest =>
    cases edit with
    | insert blank => exact (stopsQuantity_blank allowed.1).stops f
    | keep t =>
      obtain ⟨c, front, written, -⟩ := exists_begins_of_pull (scan_characters_cons_iff.mp cut).1
      rw [tokens, characters_cons, written] at stops
      show f.Stops (t.text ++ text rest)
      rw [written]
      exact stops
    | delete t =>
      obtain ⟨-, free, allowed⟩ := allowed
      obtain ⟨-, later⟩ := scan_characters_cons_iff.mp cut
      exact (stopsQuantity_text allowed free later).stops f

/-- A kept token is taken off the new layout as well. -/
private theorem pull_keep {t : Token} {rest : List Edit} (allowed : Allowed behind (keep t :: rest))
    (cut : scan old (characters (tokens (keep t :: rest))) = (tokens (keep t :: rest), none)) :
    pull new (t.text ++ text rest) = .token { t with position := new } := by
  obtain ⟨pulled, later⟩ := scan_characters_cons_iff.mp cut
  obtain ⟨-, lexeme, stands⟩ := pull_token pulled
  have lexeme' : lexeme? (t.text ++ text rest) = some (t.kind, t.text) := by
    refine lexeme?_replace lexeme fun quantity f stops => stops_text ?_ later stops
    have visible : t.isWhitespace = false := by simp [Token.isWhitespace, quantity]
    simpa [Allowed, visible, quantity] using allowed
  exact pull_of_lexeme? lexeme' stands

/-- The new layout is cut to its end, into the tokens laid out anew. -/
theorem scan_text (allowed : Allowed behind edits)
    (cut : scan old (characters (tokens edits)) = (tokens edits, none)) :
    scan new (text edits) = (laid new edits, none) := by
  induction edits generalizing behind old new with
  | nil => exact scan_nil new
  | cons edit rest ih =>
    cases edit with
    | insert blank =>
      obtain ⟨blank', allowed⟩ := allowed
      exact scan_eq_cons_iff.mpr ⟨pull_blank blank', ih allowed cut⟩
    | keep t =>
      obtain ⟨-, later⟩ := scan_characters_cons_iff.mp cut
      refine scan_eq_cons_iff.mpr ⟨pull_keep allowed cut, ?_⟩
      rw [text, List.drop_left]
      exact ih allowed later
    | delete t =>
      obtain ⟨-, later⟩ := scan_characters_cons_iff.mp cut
      exact ih allowed.2.2 later

end Pull

/-- The entries laid out anew are those of the tokens. -/
theorem content_laid (new : Nat) (allowed : Allowed behind edits) :
    (entriesOf (laid new edits)).map Entry.content = (entriesOf (tokens edits)).map Entry.content := by
  induction edits generalizing behind new with
  | nil => rfl
  | cons edit rest ih =>
    cases edit with
    | insert blank => exact ih (new + 1) allowed.2
    | keep t =>
      have later := ih (new + t.text.length) allowed
      have moved : Token.isWhitespace { t with position := new } = t.isWhitespace := rfl
      rw [laid, tokens, entriesOf_cons, entriesOf_cons, moved]
      split
      · exact later
      · rw [List.map_cons, List.map_cons, later]
        rfl
    | delete t =>
      obtain ⟨white, -, allowed⟩ := allowed
      rw [laid, tokens, entriesOf_cons, if_pos white]
      exact ih new allowed

/-- The entries laid out anew stand where those of the tokens do, moved by their shifts. -/
theorem positions_laid (old new : Nat) (amount : Int) (moved : (new : Int) = old + amount)
    (adjoin : Adjoin old (tokens edits)) (allowed : Allowed behind edits) :
    (entriesOf (laid new edits)).map (fun e => (e.position : Int)) =
      List.zipWith (· + ·) ((entriesOf (tokens edits)).map fun e => (e.position : Int))
        (shifts amount edits) := by
  induction edits generalizing behind old new amount with
  | nil => rfl
  | cons edit rest ih =>
    cases edit with
    | insert blank =>
      exact ih old (new + 1) (amount + 1) (by omega) adjoin allowed.2
    | keep t =>
      obtain ⟨start, -, adjoin⟩ := adjoin
      have stop : t.stop = old + t.text.length := by rw [Token.stop, start]
      have later := ih t.stop (new + t.text.length) amount (by omega) adjoin allowed
      have same : Token.isWhitespace { t with position := new } = t.isWhitespace := rfl
      rw [laid, tokens, shifts, entriesOf_cons, entriesOf_cons, same]
      split
      · exact later
      · have front : (new : Int) = t.position + amount := by rw [start, moved]
        rw [List.map_cons, List.map_cons, List.zipWith_cons_cons, later]
        exact congrArg (· :: _) front
    | delete t =>
      obtain ⟨white, -, allowed⟩ := allowed
      obtain ⟨start, -, adjoin⟩ := adjoin
      have stop : t.stop = old + t.text.length := by rw [Token.stop, start]
      rw [laid, tokens, shifts, entriesOf_cons, if_pos white]
      exact ih t.stop new (amount - t.text.length) (by omega) adjoin allowed

end Edit

/-- The entries of an expression are its tokens that are no white space, and they do not depend on its
layout. Where blanks are put in between its tokens and taken out, though not from between two
quantities, the entries are the same quantities, operators and parentheses in the same order, each
moved by the blanks put in before it less those taken out. -/
theorem entries_of_layout [PowersOfTen] (expression : List Char) (edits : List Edit)
    (cut : tokens? expression = .ok (Edit.tokens edits)) (allowed : Edit.Allowed false edits) :
    ∃ entries moved, entries? expression = .ok entries ∧ entries? (Edit.text edits) = .ok moved ∧
      List.Forall₂ Entry.IsOf entries
        ((Edit.tokens edits).filter fun t => t.kind != .whitespace) ∧
      moved.map Entry.content = entries.map Entry.content ∧
      moved.map (fun e => (e.position : Int)) =
        List.zipWith (· + ·) (entries.map fun e => (e.position : Int)) (Edit.shifts 0 edits) := by
  have complete : scan 0 expression = (Edit.tokens edits, none) := tokens?_eq_ok_iff.mp cut
  obtain ⟨adjoin, used⟩ := scan_spec 0 expression
  rw [complete] at adjoin used
  obtain rfl : characters (Edit.tokens edits) = expression := used
  have laid : tokens? (Edit.text edits) = .ok (Edit.laid 0 edits) :=
    tokens?_eq_ok_iff.mpr (Edit.scan_text allowed complete)
  have made := forall₂_isOf_iff.mpr (rfl : entriesOf (Edit.tokens edits) = _)
  refine ⟨entriesOf (Edit.tokens edits), entriesOf (Edit.laid 0 edits), ?_, ?_, made, ?_, ?_⟩
  · exact entries?_eq_ok_iff.mpr ⟨_, cut, made⟩
  · exact entries?_eq_ok_iff.mpr ⟨_, laid, forall₂_isOf_iff.mpr rfl⟩
  · exact Edit.content_laid 0 allowed
  · exact Edit.positions_laid 0 0 0 rfl adjoin allowed

/-- Two quantities that touch each other are parted, and the blanks around a sign are taken out. -/
theorem entries_of_layout_touching :
    ∃ entries moved, entries? "1.2.3 * 4".toList = .ok entries ∧
      entries? " 1.2\t.3*4".toList = .ok moved ∧
      moved.map Entry.content = entries.map Entry.content ∧
      moved.map (fun e => (e.position : Int)) =
        List.zipWith (· + ·) (entries.map fun e => (e.position : Int)) [1, 2, 1, 0] := by
  let q (exponent : Int) (h : Double.Canonical 5404319552844595 exponent) : Quantity :=
    ⟨⟨false, 5404319552844595, exponent, h⟩, .place (-1)⟩
  let four : Quantity := ⟨⟨false, 4503599627370496, -50, by decide⟩, .place 0⟩
  let edits : List Edit :=
    [.insert ' ', .keep ⟨.quantity, 0, "1.2".toList, .quantity (q (-52) (by decide))⟩,
      .insert '\t', .keep ⟨.quantity, 3, ".3".toList, .quantity (q (-54) (by decide))⟩,
      .delete ⟨.whitespace, 5, [' '], .text [' ']⟩, .keep ⟨.multiply, 6, ['*'], .text ['*']⟩,
      .delete ⟨.whitespace, 7, [' '], .text [' ']⟩, .keep ⟨.quantity, 8, ['4'], .quantity four⟩]
  have cut : tokens? "1.2.3 * 4".toList = .ok (Edit.tokens edits) :=
    tokens?_eq_ok_iff.mpr (by decide +kernel)
  have allowed : Edit.Allowed false edits :=
    ⟨by decide, by decide, rfl, rfl, rfl, rfl, trivial⟩
  obtain ⟨entries, moved, first, second, -, same⟩ := entries_of_layout _ edits cut allowed
  exact ⟨entries, moved, first, second, same⟩

end SignificantFigures.Expression
