import SignificantFigures.Proofs.Expression.LexemePattern
import SignificantFigures.Proofs.Expression.Literal

/-!
The lexeme of a quantity is the longest front part of a text that is one, although the alternatives of
its pattern are tried in their order. No two kinds have a lexeme at one position, so the order of the
kinds decides nothing, and a quantity that is cut again by itself gives the same token.
-/

set_option autoImplicit false

namespace SignificantFigures.Expression

open Numeral

/-- A front part of a text that is a quantity, where no longer one is. -/
structure IsLongestQuantity (text lexeme : List Char) : Prop where
  quantity : ∃ f : QuantityForm, f.WellFormed ∧ f.text = lexeme
  front : lexeme <+: text
  longest : ∀ f : QuantityForm, f.WellFormed → f.text <+: text → f.text.length ≤ lexeme.length

section Longest

open QuantityForm

variable {f g : QuantityForm} {text lexeme rest : List Char}

theorem QuantityForm.WellFormed.read_append_ne_none (wf : f.WellFormed) (rest : List Char) :
    QuantityForm.read (f.text ++ rest) ≠ none := by
  have mantissa := wf.mantissa.read_append_ne_none
    (QuantityForm.exponentText f.exponent ++ (QuantityForm.markText f.marked ++ rest))
  rw [QuantityForm.text, List.append_assoc, List.append_assoc, QuantityForm.read, ne_eq,
    Option.map_eq_none_iff]
  exact mantissa

theorem lexeme?_quantity_eq_none_iff :
    Kind.quantity.lexeme? text = none ↔ ∀ f : QuantityForm, f.WellFormed → ¬ f.text <+: text := by
  constructor
  · rintro missing f wf ⟨rest, rfl⟩
    rw [Kind.lexeme?, Option.map_eq_none_iff] at missing
    exact wf.read_append_ne_none rest missing
  · intro none
    rw [Option.eq_none_iff_forall_ne_some]
    intro lexeme taken
    obtain ⟨f, rest, wf, -, cut, -⟩ := lexeme?_quantity_eq_some_iff.mp taken
    exact none f wf ⟨rest, cut.symm⟩

/-- A quantity that a text does not go on with is as long as any in front of the text. -/
theorem QuantityForm.Stops.length_le (stops : f.Stops rest) (wf : f.WellFormed)
    (wf' : g.WellFormed) (front : g.text <+: f.text ++ rest) :
    g.text.length ≤ f.text.length := by
  have taken (extra : List Char) (inRest : extra <+: rest) :
      QuantityForm.read (f.text ++ extra) = some (f, extra) :=
    wf.read_text_append (stops.imp_right fun free c hc => free c (mem_head?_of_front inRest hc))
  exact length_le_of_taken taken wf'.read_text front

theorem lexeme?_quantity_eq_longest_iff :
    Kind.quantity.lexeme? text = some lexeme ↔ IsLongestQuantity text lexeme := by
  constructor
  · intro taken
    obtain ⟨f, rest, wf, stops, rfl, rfl⟩ := lexeme?_quantity_eq_some_iff.mp taken
    exact ⟨⟨f, wf, rfl⟩, List.prefix_append _ _, fun g wf' front => stops.length_le wf wf' front⟩
  · rintro ⟨⟨f, wf, rfl⟩, front, longest⟩
    obtain ⟨found, taken⟩ : ∃ found, Kind.quantity.lexeme? text = some found := by
      rw [← Option.ne_none_iff_exists']
      exact fun missing => lexeme?_quantity_eq_none_iff.mp missing f wf front
    obtain ⟨g, rest, wf', stops, rfl, rfl⟩ := lexeme?_quantity_eq_some_iff.mp taken
    have same : g.text.length = f.text.length :=
      le_antisymm (longest g wf' (List.prefix_append _ _)) (stops.length_le wf' wf front)
    have equal : f.text = g.text :=
      List.IsPrefix.eq_of_length (List.prefix_of_prefix_length_le front (List.prefix_append _ _)
        same.ge) same.symm
    rw [taken, equal]

end Longest

/-- In whatever order all kinds are tried, the same lexeme is found. -/
theorem findSome?_lexeme? {order : List Kind} (all : ∀ kind, kind ∈ order) (text : List Char) :
    (order.findSome? fun kind => (kind.lexeme? text).map fun lexeme => (kind, lexeme)) =
      lexeme? text := by
  refine Option.ext fun ⟨kind, lexeme⟩ => ?_
  rw [findSome?_lexeme?_eq_some_iff all, lexeme?_eq_some_iff]

/-- A quantity that is cut off a text is cut into itself alone. -/
theorem tokens?_of_mem_scan [PowersOfTen] {position : Nat} {text : List Char} {t : Token}
    (ht : t ∈ (scan position text).1) (quantity : t.kind = .quantity) :
    tokens? t.text = .ok [⟨.quantity, 0, t.text, t.payload⟩] := by
  obtain ⟨-, taken, stands⟩ := lexeme?_of_mem_scan ht
  rw [lexeme?_eq_some_iff, quantity] at taken
  obtain ⟨f, wf, text⟩ := exists_form_of_lexeme? taken
  rw [quantity, payload?, if_pos rfl, Option.map_eq_some_iff, ← text] at stands
  obtain ⟨q, read, payload⟩ := stands
  rw [← text, QuantityForm.tokens?_text wf, read, ← payload]

/-- At every position of every text: each kind takes the first match of its pattern. At most one kind
has a lexeme, so any order in which all of them are tried finds the same. The lexeme of a quantity is
the longest front part that is one, and there is none just when no front part is. A quantity that is
cut off a text is cut into itself again, with the same payload. -/
theorem lexemes_at_position [PowersOfTen] (text : List Char) (position : Int) :
    (∀ kind : Kind, kind.lexemeAt? text position =
      kind.pattern.frontMatch? (text.drop position.toNat)) ∧
    (∀ (a b : Kind) (front back : List Char), a.lexemeAt? text position = some front →
      b.lexemeAt? text position = some back → a = b) ∧
    (∀ order : List Kind, (∀ kind, kind ∈ order) →
      (order.findSome? fun kind =>
        (kind.lexemeAt? text position).map fun lexeme => (kind, lexeme)) =
          lexeme? (text.drop position.toNat)) ∧
    (∀ lexeme, Kind.quantity.lexemeAt? text position = some lexeme ↔
      IsLongestQuantity (text.drop position.toNat) lexeme) ∧
    (Kind.quantity.lexemeAt? text position = none ↔
      ∀ f : QuantityForm, f.WellFormed → ¬ f.text <+: text.drop position.toNat) ∧
    ∀ t ∈ (scan 0 text).1, t.kind = .quantity →
      tokens? t.text = .ok [⟨.quantity, 0, t.text, t.payload⟩] := by
  refine ⟨?_, ?_, ?_, ?_, ?_, ?_⟩
  · intro kind
    exact kind.lexeme?_eq_frontMatch? _
  · intro a b front back first second
    exact Kind.eq_of_lexemes first second
  · intro order all
    exact findSome?_lexeme? all _
  · intro lexeme
    exact lexeme?_quantity_eq_longest_iff
  · exact lexeme?_quantity_eq_none_iff
  · intro t ht quantity
    exact tokens?_of_mem_scan ht quantity

/-- Behind the sign of `-3.e5.` the quantity is `3.e5`, since the point that follows belongs to no
longer one. By itself it is one token. -/
theorem lexemes_at_position_of_point :
    Kind.quantity.lexemeAt? "-3.e5.".toList 1 = some "3.e5".toList ∧
      Kind.subtract.lexemeAt? "-3.e5.".toList 1 = none ∧
      IsLongestQuantity "3.e5.".toList "3.e5".toList ∧
      ∃ t ∈ (scan 0 "3.e5".toList).1, tokens? t.text = .ok [⟨.quantity, 0, t.text, t.payload⟩] := by
  obtain ⟨-, only, -, longest, -⟩ := lexemes_at_position "-3.e5.".toList 1
  have taken : Kind.quantity.lexemeAt? "-3.e5.".toList 1 = some "3.e5".toList := by decide
  refine ⟨taken, ?_, (longest _).mp taken, ?_⟩
  · rw [Option.eq_none_iff_forall_ne_some]
    intro lexeme symbol
    exact absurd (only _ _ _ _ taken symbol) (by decide)
  · have whole : lexeme? "3.e5".toList = some (.quantity, "3.e5".toList) := by decide
    obtain ⟨payload, stands⟩ : ∃ payload, payload? .quantity "3.e5".toList = some payload :=
      Option.isSome_iff_exists.mp (by decide +kernel)
    have cut := scan_of_lexeme? 0 whole
    rw [stands] at cut
    have member : (⟨.quantity, 0, "3.e5".toList, payload⟩ : Token) ∈ (scan 0 "3.e5".toList).1 := by
      rw [cut]
      exact List.mem_cons_self
    obtain ⟨-, -, -, -, -, again⟩ := lexemes_at_position "3.e5".toList 0
    exact ⟨_, member, again _ member rfl⟩

end SignificantFigures.Expression
