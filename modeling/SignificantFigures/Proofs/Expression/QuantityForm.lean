import SignificantFigures.Expression.Lexeme
import SignificantFigures.Proofs.Numeral.Literal

/-!
The language of quantities in an expression: a mantissa, then optionally the exponent mark with any
number of digits, then optionally the mark of exact numbers. Reading takes such a form off its text
and gives no other, and no other kind of token begins like one.
-/

set_option autoImplicit false

namespace SignificantFigures.Expression

open Numeral

namespace QuantityForm

/-- Digits where digits belong. -/
structure WellFormed (f : QuantityForm) : Prop where
  mantissa : f.mantissa.WellFormed
  exponent : ∀ c ∈ f.exponent.getD [], c.isDigit = true

variable {f : QuantityForm}

/-- The text up to the mark of exact numbers. -/
def body (f : QuantityForm) : List Char :=
  f.mantissa.text ++ exponentText f.exponent

theorem text_eq (f : QuantityForm) : f.text = f.body ++ markText f.marked :=
  rfl

theorem mem_markText {marked : Bool} {c : Char} : c ∈ markText marked ↔ marked = true ∧ c = exactMark := by
  cases marked <;> simp [markText]

/-- What may follow a quantity without being taken for a part of it. -/
def Stops (f : QuantityForm) (rest : List Char) : Prop :=
  f.marked = true ∨ ∀ c ∈ rest.head?, c ≠ exactMark ∧ c.isDigit = false ∧
    (f.exponent = none → c ≠ exponentMark ∧ (f.mantissa.fraction = none → c ≠ '.'))

section Parts

variable {text rest : List Char}

private theorem readMark_append_of_stops {marked : Bool}
    (stops : marked = true ∨ ∀ c ∈ rest.head?, c ≠ exactMark) :
    readMark (markText marked ++ rest) = (marked, rest) := by
  cases marked with
  | true => rfl
  | false =>
    have unmarked := stops.resolve_left Bool.false_ne_true
    cases rest with
    | nil => rfl
    | cons c rest => simp [markText, readMark, unmarked c rfl]

private theorem readMark_eq_false (unmarked : (readMark text).1 = false) :
    (readMark text).2 = text ∧ ∀ c ∈ text.head?, c ≠ exactMark := by
  unfold readMark at unmarked ⊢
  split at unmarked
  · simp
  · split at unmarked <;> simp_all

private theorem readExponent_append_of_stops {exponent : Option (List Char)}
    (all : ∀ c ∈ exponent.getD [], c.isDigit = true) (ends : StopsDigits rest)
    (free : exponent = none → ∀ c ∈ rest.head?, c ≠ exponentMark) :
    readExponent (exponentText exponent ++ rest) = (exponent, rest) := by
  cases exponent with
  | none =>
    cases rest with
    | nil => rfl
    | cons c rest => simp [exponentText, readExponent, free rfl c rfl]
  | some digits =>
    have digits_eq : readDigits (digits ++ rest) = (digits, rest) :=
      readDigits_digits_append all ends
    simp only [exponentText, List.cons_append, readExponent, if_pos, digits_eq]

private theorem isDigit_of_mem_readExponent {c : Char}
    (hc : c ∈ (readExponent text).1.getD []) : c.isDigit = true := by
  unfold readExponent at hc
  split at hc
  · simp at hc
  · split at hc
    · exact isDigit_of_mem_readDigits hc
    · simp at hc

/-- An exponent ends where the digits do; without one the text does not go on with the mark. -/
private theorem readExponent_stops (digits : StopsDigits text) :
    StopsDigits (readExponent text).2 ∧
      ((readExponent text).1 = none → ∀ c ∈ (readExponent text).2.head?, c ≠ exponentMark) := by
  unfold readExponent
  split
  · exact ⟨digits, by simp⟩
  · next c behind =>
    split
    · exact ⟨stopsDigits_readDigits behind, by simp⟩
    · next other => exact ⟨digits, by simpa using other⟩

/-- What follows the exponent does not go on with the digits, nor with the parts that are missing. -/
private theorem Stops.behind_exponent (stops : f.Stops rest) :
    ∀ c ∈ (markText f.marked ++ rest).head?, c.isDigit = false ∧
      (f.exponent = none → c ≠ exponentMark ∧ (f.mantissa.fraction = none → c ≠ '.')) := by
  intro c hc
  rcases stops with marked | free
  · rw [marked] at hc
    obtain rfl := Option.some.inj hc
    exact ⟨by decide, fun _ => ⟨by decide, fun _ => by decide⟩⟩
  · cases marked : f.marked with
    | true =>
      rw [marked] at hc
      obtain rfl := Option.some.inj hc
      exact ⟨by decide, fun _ => ⟨by decide, fun _ => by decide⟩⟩
    | false =>
      rw [marked] at hc
      exact (free c hc).2

private theorem Stops.behind_mantissa (stops : f.Stops rest) :
    f.mantissa.Stops (exponentText f.exponent ++ (markText f.marked ++ rest)) := by
  have behind := stops.behind_exponent
  cases exponent : f.exponent with
  | none =>
    exact ⟨fun c hc => (behind c hc).1, fun pointless c hc => ((behind c hc).2 exponent).2 pointless⟩
  | some digits => exact ⟨stopsDigits_cons (by decide), by simp [exponentText, exponentMark]⟩

end Parts

/-- The text of a quantity is taken off a text that does not go on with it. -/
theorem WellFormed.read_text_append {rest : List Char} (wf : f.WellFormed) (stops : f.Stops rest) :
    read (f.text ++ rest) = some (f, rest) := by
  have exponent : readExponent (exponentText f.exponent ++ (markText f.marked ++ rest)) =
      (f.exponent, markText f.marked ++ rest) :=
    readExponent_append_of_stops wf.exponent (fun c hc => (stops.behind_exponent c hc).1)
      fun none c hc => ((stops.behind_exponent c hc).2 none).1
  have mark : readMark (markText f.marked ++ rest) = (f.marked, rest) :=
    readMark_append_of_stops (stops.imp_right fun free c hc => (free c hc).1)
  rw [QuantityForm.text, List.append_assoc, List.append_assoc, read,
    Mantissa.read_text_append wf.mantissa stops.behind_mantissa, Option.map_some]
  simp only [exponent, mark]

/-- What is taken off a text as a quantity is one that the rest does not go on with. -/
theorem read_eq_some_iff {text rest : List Char} :
    read text = some (f, rest) ↔ f.WellFormed ∧ f.Stops rest ∧ text = f.text ++ rest := by
  constructor
  · intro taken
    have cut := (read_append taken).1.symm
    simp only [read, Option.map_eq_some_iff, Prod.exists, Prod.mk.injEq] at taken
    obtain ⟨mantissa, behind, taken, rfl, rfl⟩ := taken
    obtain ⟨wf, ⟨digits, point⟩, -⟩ := Mantissa.read_eq_some_iff.mp taken
    refine ⟨⟨wf, fun c => isDigit_of_mem_readExponent⟩, ?_, cut⟩
    obtain ⟨ends, free⟩ := readExponent_stops digits
    by_cases marked : (readMark (readExponent behind).2).1 = true
    · exact Or.inl marked
    · obtain ⟨same, unmarked⟩ := readMark_eq_false (Bool.not_eq_true _ |>.mp marked)
      rw [same]
      refine Or.inr fun c hc => ⟨unmarked c hc, ends c hc, fun none => ⟨free none c hc, ?_⟩⟩
      -- without an exponent the mark is looked for right behind the mantissa
      intro pointless
      have whole := readExponent_append behind
      rw [show (readExponent behind).1 = .none from none] at whole
      rw [show (readExponent behind).2 = behind from whole] at hc
      exact point pointless c hc
  · rintro ⟨wf, stops, rfl⟩
    exact wf.read_text_append stops

section Text

variable (wf : f.WellFormed)

include wf

theorem WellFormed.of_mem_body {c : Char} (hc : c ∈ f.body) :
    c.isDigit = true ∨ c = '.' ∨ c = exponentMark := by
  rcases List.mem_append.mp hc with mantissa | exponent
  · rcases wf.mantissa.of_mem_text mantissa with digit | point
    · exact Or.inl digit
    · exact Or.inr (Or.inl point)
  · cases digits : f.exponent with
    | none => simp [digits, exponentText] at exponent
    | some digits' =>
      have all := wf.exponent
      simp only [digits, exponentText, List.mem_cons, Option.getD_some] at exponent all
      rcases exponent with mark | digit
      · exact Or.inr (Or.inr mark)
      · exact Or.inl (all c digit)

theorem WellFormed.exactMark_not_mem_body : exactMark ∉ f.body := by
  intro marked
  exact absurd (wf.of_mem_body marked) (by decide)

theorem WellFormed.exactMark_mem_text : exactMark ∈ f.text ↔ f.marked = true := by
  rw [text_eq, List.mem_append, or_iff_right wf.exactMark_not_mem_body, mem_markText]
  exact and_iff_left rfl

/-- A mark stands at the end of the text and nowhere else. -/
theorem WellFormed.getLast?_text : f.text.getLast? = some exactMark ↔ f.marked = true := by
  constructor
  · intro last
    exact wf.exactMark_mem_text.mp (List.mem_of_getLast? last)
  · intro marked
    simp [text_eq, marked, markText]

theorem WellFormed.isPlain {c : Char} (hc : c ∈ f.text) : IsPlain c := by
  rw [text_eq, List.mem_append, mem_markText] at hc
  rcases hc with body | ⟨-, rfl⟩
  · rcases wf.of_mem_body body with digit | rfl | rfl
    · exact isPlain_of_isDigit digit
    all_goals decide
  · decide

/-- The text of a quantity is read back to it, with nothing left over. -/
theorem WellFormed.read_text : read f.text = some (f, []) := by
  have ends : f.Stops [] := Or.inr (by simp)
  simpa using wf.read_text_append ends

end Text

end QuantityForm

/-- The lexeme of a quantity is the text of a well-formed one that the text does not go on with. -/
theorem lexeme?_quantity_eq_some_iff {text lexeme : List Char} :
    Kind.quantity.lexeme? text = some lexeme ↔ ∃ (f : QuantityForm) (rest : List Char),
      f.WellFormed ∧ f.Stops rest ∧ text = f.text ++ rest ∧ f.text = lexeme := by
  simp only [Kind.lexeme?, Option.map_eq_some_iff, Prod.exists, QuantityForm.read_eq_some_iff,
    and_assoc]

/-- A lexeme of a quantity is the text of a well-formed one. -/
theorem exists_form_of_lexeme? {text lexeme : List Char}
    (taken : Kind.quantity.lexeme? text = some lexeme) :
    ∃ f : QuantityForm, f.WellFormed ∧ f.text = lexeme := by
  obtain ⟨f, -, wf, -, -, text⟩ := lexeme?_quantity_eq_some_iff.mp taken
  exact ⟨f, wf, text⟩

/-- The texts that are a quantity as a whole. -/
theorem lexeme?_quantity_eq_self_iff {text : List Char} :
    Kind.quantity.lexeme? text = some text ↔ ∃ f : QuantityForm, f.WellFormed ∧ f.text = text := by
  constructor
  · exact exists_form_of_lexeme?
  · rintro ⟨f, wf, rfl⟩
    rw [Kind.lexeme?, wf.read_text, Option.map_some]

/-- Whether a lexeme of a kind can begin with a character. -/
def Kind.begins (kind : Kind) (c : Char) : Prop :=
  match kind with
  | .whitespace => Text.isBlank c = true
  | .quantity => c.isDigit = true ∨ c = '.'
  | kind => kind.symbol? = some c

section Kinds

variable {a b kind : Kind} {c : Char} {text lexeme rest : List Char}

private theorem Kind.begins_cases (begins : kind.begins c) :
    (kind = .whitespace ∧ Text.isBlank c = true) ∨
      (kind = .quantity ∧ (c.isDigit = true ∨ c = '.')) ∨ kind.symbol? = some c := by
  cases kind with
  | whitespace => exact Or.inl ⟨rfl, begins⟩
  | quantity => exact Or.inr (Or.inl ⟨rfl, begins⟩)
  | _ => exact Or.inr (Or.inr begins)

private theorem isBlank_eq_false (quantity : c.isDigit = true ∨ c = '.') :
    Text.isBlank c = false := by
  rcases quantity with digit | rfl
  · exact (isPlain_of_isDigit digit).2.1
  · decide

/-- A symbol is no blank and does not begin a quantity. -/
private theorem Kind.of_symbol? (symbol : kind.symbol? = some c) :
    Text.isBlank c = false ∧ ¬ (c.isDigit = true ∨ c = '.') := by
  cases kind <;> simp only [symbol?, Option.some.injEq, reduceCtorEq] at symbol <;> subst symbol <;>
    decide

private theorem Kind.symbol?_inj (first : a.symbol? = some c) (second : b.symbol? = some c) :
    a = b := by
  have same : a.symbol? = b.symbol? := first.trans second.symm
  have filled : a.symbol? ≠ none := first ▸ Option.some_ne_none c
  clear first second
  cases a <;> cases b <;> simp_all [symbol?]

/-- No two kinds have lexemes that begin with one character. -/
theorem Kind.eq_of_begins (first : a.begins c) (second : b.begins c) : a = b := by
  rcases begins_cases first with ⟨rfl, blank⟩ | ⟨rfl, quantity⟩ | symbol <;>
    rcases begins_cases second with ⟨rfl, blank'⟩ | ⟨rfl, quantity'⟩ | symbol'
  · rfl
  · exact absurd blank (by simp [isBlank_eq_false quantity'])
  · exact absurd blank (by simp [(of_symbol? symbol').1])
  · exact absurd blank' (by simp [isBlank_eq_false quantity])
  · rfl
  · exact absurd quantity (of_symbol? symbol').2
  · exact absurd blank' (by simp [(of_symbol? symbol).1])
  · exact absurd quantity' (of_symbol? symbol).2
  · exact symbol?_inj symbol symbol'

private theorem oneChar?_eq_some_iff {test : Char → Bool} :
    oneChar? test text = some lexeme ↔ ∃ c rest, text = c :: rest ∧ test c = true ∧ lexeme = [c] := by
  constructor
  · intro taken
    cases text with
    | nil => exact nomatch taken
    | cons c rest =>
      simp only [oneChar?, Option.ite_none_right_eq_some, Option.some.injEq] at taken
      exact ⟨c, rest, rfl, taken.1, taken.2.symm⟩
  · rintro ⟨c, rest, rfl, passes, rfl⟩
    exact if_pos passes

/-- A lexeme of a kind other than quantities is one character that it begins with. -/
theorem Kind.lexeme?_eq_some_iff_of_ne (other : kind ≠ .quantity) :
    kind.lexeme? text = some lexeme ↔ ∃ c rest, text = c :: rest ∧ kind.begins c ∧ lexeme = [c] := by
  cases kind with
  | quantity => exact absurd rfl other
  | whitespace => exact oneChar?_eq_some_iff
  | _ => simp only [Kind.lexeme?, oneChar?_eq_some_iff, beq_iff_eq, begins]

theorem Kind.begins_of_lexeme? (taken : kind.lexeme? text = some lexeme) :
    ∃ c ∈ text.head?, kind.begins c := by
  by_cases quantity : kind = .quantity
  · subst quantity
    obtain ⟨f, rest, wf, -, rfl, -⟩ := lexeme?_quantity_eq_some_iff.mp taken
    have head := wf.mantissa.head (QuantityForm.exponentText f.exponent ++
      (QuantityForm.markText f.marked ++ rest))
    have nonempty := (QuantityForm.read_append wf.read_text).2
    cases text : f.text with
    | nil => exact absurd text nonempty
    | cons c front =>
      refine ⟨c, rfl, head c ?_⟩
      rw [← List.append_assoc, ← List.append_assoc, ← QuantityForm.text, text]
      rfl
  · obtain ⟨c, rest, rfl, begins, -⟩ := (lexeme?_eq_some_iff_of_ne quantity).mp taken
    exact ⟨c, rfl, begins⟩

/-- No two kinds have a lexeme at the front of one text. -/
theorem Kind.eq_of_lexemes {front back : List Char} (first : a.lexeme? text = some front)
    (second : b.lexeme? text = some back) : a = b := by
  obtain ⟨c, head, begins⟩ := Kind.begins_of_lexeme? first
  obtain ⟨d, head', begins'⟩ := Kind.begins_of_lexeme? second
  obtain rfl := Option.some.inj (head.symm.trans head')
  exact Kind.eq_of_begins begins begins'

/-- In whatever order all kinds are tried, the one that has a lexeme is found. -/
theorem findSome?_lexeme?_eq_some_iff {order : List Kind} (all : ∀ kind, kind ∈ order) :
    (order.findSome? fun kind => (kind.lexeme? text).map fun lexeme => (kind, lexeme)) =
      some (kind, lexeme) ↔ kind.lexeme? text = some lexeme := by
  have sound {kind : Kind} {lexeme : List Char}
      (found : (order.findSome? fun kind => (kind.lexeme? text).map fun lexeme => (kind, lexeme)) =
        some (kind, lexeme)) : kind.lexeme? text = some lexeme := by
    obtain ⟨tried, -, tried_eq⟩ := List.exists_of_findSome?_eq_some found
    simp only [Option.map_eq_some_iff, Prod.mk.injEq] at tried_eq
    obtain ⟨_, taken, rfl, rfl⟩ := tried_eq
    exact taken
  constructor
  · exact sound
  · intro taken
    obtain ⟨⟨kind', lexeme'⟩, found⟩ : ∃ pair, (order.findSome? fun kind =>
        (kind.lexeme? text).map fun lexeme => (kind, lexeme)) = some pair := by
      rw [← Option.ne_none_iff_exists', ne_eq, List.findSome?_eq_none_iff]
      intro missing
      have := missing kind (all kind)
      rw [taken] at this
      exact nomatch this
    have taken' := sound found
    obtain rfl := Kind.eq_of_lexemes taken taken'
    obtain rfl := Option.some.inj (taken.symm.trans taken')
    exact found

/-- The lexeme at the front of a text is that of the only kind that has one there. -/
theorem lexeme?_eq_some_iff :
    lexeme? text = some (kind, lexeme) ↔ kind.lexeme? text = some lexeme :=
  findSome?_lexeme?_eq_some_iff fun kind => by cases kind <;> decide

/-- A lexeme is taken off any text that does not go on with a quantity. -/
theorem lexeme?_replace {rest' : List Char} (taken : lexeme? (lexeme ++ rest) = some (kind, lexeme))
    (stops : kind = .quantity → ∀ f : QuantityForm, f.Stops rest → f.Stops rest') :
    lexeme? (lexeme ++ rest') = some (kind, lexeme) := by
  rw [lexeme?_eq_some_iff] at taken ⊢
  by_cases quantity : kind = .quantity
  · subst quantity
    obtain ⟨f, behind, wf, ends, cut, rfl⟩ := lexeme?_quantity_eq_some_iff.mp taken
    obtain rfl := List.append_cancel_left cut
    exact lexeme?_quantity_eq_some_iff.mpr ⟨f, rest', wf, stops rfl f ends, rfl, rfl⟩
  · obtain ⟨c, behind, -, begins, rfl⟩ := (Kind.lexeme?_eq_some_iff_of_ne quantity).mp taken
    exact (Kind.lexeme?_eq_some_iff_of_ne quantity).mpr ⟨c, rest', rfl, begins, rfl⟩

end Kinds

/-- The text of a quantity is one lexeme, of that kind. -/
theorem QuantityForm.WellFormed.lexeme?_text {f : QuantityForm} (wf : f.WellFormed) :
    lexeme? f.text = some (.quantity, f.text) :=
  lexeme?_eq_some_iff.mpr (lexeme?_quantity_eq_self_iff.mpr ⟨f, wf, rfl⟩)

end SignificantFigures.Expression
