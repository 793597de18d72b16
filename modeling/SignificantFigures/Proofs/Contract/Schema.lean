import SignificantFigures.Contract.Catalogue

/-!
What the schemas ask for. A quantity has four entries and no other: a number, a text with at least
one character, and a precision that agrees with the last place and the end of the text. A token has
three, and a quantity besides where that is its kind.
-/

set_option autoImplicit false

namespace SignificantFigures.Contract

open Expression (Kind)

theorem accepts_iff {schema : Schema} {v : Value} :
    accepts schema v = true ↔ violations schema v = [] :=
  List.isEmpty_iff

theorem validate_eq_ok_iff {schema : Schema} {v : Value} :
    validate schema v = .ok () ↔ accepts schema v = true := by
  rw [accepts_iff, validate]
  cases violations schema v <;> simp

@[simp] theorem brokenIf_eq_nil_iff {broken : Bool} {keyword : String} :
    brokenIf broken keyword = [] ↔ broken = false := by
  cases broken <;> simp [brokenIf]

/-- Rules are kept one by one. -/
theorem listViolations_eq_nil_iff {keys : List String} {rules : List Rule} {v : Value} :
    listViolations keys rules v = [] ↔ ∀ rule ∈ rules, rule.violations keys v = [] := by
  induction rules with
  | nil => simp [listViolations]
  | cons rule rest ih => simp [listViolations, ih]

theorem isAmong_singleton_iff {word : String} {v : Value} :
    isAmong [word] v = true ↔ v = .string word := by
  cases v <;> simp [isAmong]

theorem object_holds_iff {v : Value} :
    TypeName.object.holds v = true ↔ ∃ entries, v = .object entries := by
  cases v <;> simp [TypeName.holds]

theorem number_holds (v : Value) : TypeName.number.holds v = v.isNumber := by
  cases v <;> rfl

theorem string_holds_iff {v : Value} :
    TypeName.string.holds v = true ↔ ∃ text, v = .string text := by
  cases v <;> simp [TypeName.holds]

theorem null_holds_iff {v : Value} : TypeName.null.holds v = true ↔ v = .null := by
  cases v <;> simp [TypeName.holds]

/-- A text ends in a character just when nothing or one line feed stands behind it. -/
theorem textEndsIn_iff {c : Char} {text : List Char} : textEndsIn c text = true ↔
    ∃ front, text = front ++ [c] ∨ text = front ++ [c, '\n'] := by
  unfold textEndsIn
  constructor
  · intro ends
    split at ends
    · exact nomatch ends
    · next last before reversed =>
      obtain rfl := List.reverse_eq_iff.mp reversed
      rw [Bool.or_eq_true, Bool.and_eq_true, beq_iff_eq, beq_iff_eq, beq_iff_eq] at ends
      rcases ends with rfl | ⟨rfl, mark⟩
      · exact ⟨before.reverse, Or.inl (by simp)⟩
      · obtain ⟨front, rfl⟩ := List.head?_eq_some_iff.mp mark
        exact ⟨front.reverse, Or.inr (by simp)⟩
  · rintro ⟨front, rfl | rfl⟩ <;> simp

/-- The keys of a quantity's document. -/
def quantityKeys : List String :=
  ["magnitude", "precision", "last_sig_place", "display"]

/-- A precision with the last place and the text that belong to it: the word for exact numbers, no
place and a marked text, or two integers. -/
def Agrees (precision place : Value) (text : String) : Prop :=
  (precision = .string exactWord ∧ place = .null ∧ textEndsIn 'c' text.toList = true) ∨
    (TypeName.integer.holds precision = true ∧ TypeName.integer.holds place = true)

section

variable {entries : List (String × Value)} {magnitude precision place display : Value}

private theorem precision_kept_iff :
    countKept [[.type [.integer]], [.constant exactWord]] precision = 1 ↔
      TypeName.integer.holds precision = true ∨ isAmong [exactWord] precision = true := by
  cases precision <;> simp [countKept, listViolations, Rule.violations, TypeName.holds, isAmong]

/-- The rules of the schema one by one, on an object with the four entries. -/
private theorem violations_eq_nil_iff
    (magnitude_eq : Value.entry? entries "magnitude" = some magnitude)
    (precision_eq : Value.entry? entries "precision" = some precision)
    (place_eq : Value.entry? entries "last_sig_place" = some place)
    (display_eq : Value.entry? entries "display" = some display) :
    violations quantitySchema (.object entries) = [] ↔
      hasOther quantityKeys (.object entries) = false ∧
      TypeName.number.holds magnitude = true ∧
      (TypeName.integer.holds precision = true ∨ isAmong [exactWord] precision = true) ∧
      (TypeName.integer.holds place = true ∨ TypeName.null.holds place = true) ∧
      TypeName.string.holds display = true ∧ isShorter 1 display = false ∧
      (if isAmong [exactWord] precision = true then
          TypeName.null.holds place = true ∧ endsOtherwise 'c' display = false
        else TypeName.integer.holds place = true) := by
  have object : TypeName.object.holds (.object entries) = true := rfl
  by_cases exact : isAmong [exactWord] precision = true <;>
    by_cases unit : TypeName.integer.holds place = true <;>
    simp [violations, quantitySchema, quantityKeys, declared, listViolations, Rule.violations,
      fieldViolations, precision_kept_iff, Value.get?, Value.entries?, lacking, magnitude_eq,
      precision_eq, place_eq, display_eq, exact, unit, object]

/-- An object is accepted if the four entries are all that it has and they agree. -/
theorem accepts_object_iff (magnitude_eq : Value.entry? entries "magnitude" = some magnitude)
    (precision_eq : Value.entry? entries "precision" = some precision)
    (place_eq : Value.entry? entries "last_sig_place" = some place)
    (display_eq : Value.entry? entries "display" = some display) :
    accepts quantitySchema (.object entries) = true ↔
      hasOther quantityKeys (.object entries) = false ∧
      TypeName.number.holds magnitude = true ∧
      ∃ text, display = .string text ∧ text ≠ "" ∧ Agrees precision place text := by
  rw [accepts_iff, violations_eq_nil_iff magnitude_eq precision_eq place_eq display_eq]
  constructor
  · rintro ⟨closed, number, count, -, string, filled, branch⟩
    obtain ⟨text, rfl⟩ := string_holds_iff.mp string
    refine ⟨closed, number, text, rfl, by simpa [isShorter] using filled, ?_⟩
    by_cases exact : isAmong [exactWord] precision = true
    · rw [if_pos exact] at branch
      refine Or.inl ⟨isAmong_singleton_iff.mp exact, null_holds_iff.mp branch.1, ?_⟩
      simpa [endsOtherwise] using branch.2
    · rw [if_neg exact] at branch
      exact Or.inr ⟨count.resolve_right exact, branch⟩
  · rintro ⟨closed, number, text, rfl, filled, agrees⟩
    have short : isShorter 1 (.string text) = false := by
      simpa [isShorter] using filled
    rcases agrees with ⟨rfl, rfl, ending⟩ | ⟨count, unit⟩
    · have exact : isAmong [exactWord] (.string exactWord) = true := isAmong_singleton_iff.mpr rfl
      refine ⟨closed, number, Or.inr exact, Or.inr rfl, rfl, short, ?_⟩
      rw [if_pos exact]
      exact ⟨rfl, by simpa [endsOtherwise] using ending⟩
    · have other : ¬ isAmong [exactWord] precision = true := by
        intro exact
        rw [isAmong_singleton_iff.mp exact] at count
        exact Bool.noConfusion count
      refine ⟨closed, number, Or.inl count, Or.inl unit, rfl, short, ?_⟩
      rw [if_neg other]
      exact unit

end

/-- The keys that a token's document may have. -/
def tokenKeys : List String :=
  ["kind", "position", "text", "quantity"]

section Token

variable {entries : List (String × Value)} {kind position text : Value}

theorem isAmong_kinds_iff {v : Value} :
    isAmong (Kind.all.map (·.name)) v = true ↔ ∃ kind : Kind, v = .string kind.name := by
  cases v with
  | string word =>
    simp only [isAmong, List.contains_iff_mem, List.mem_map, Value.string.injEq]
    constructor
    · rintro ⟨kind, -, rfl⟩
      exact ⟨kind, rfl⟩
    · rintro ⟨kind, rfl⟩
      exact ⟨kind, by cases kind <;> decide, rfl⟩
  | _ => simp [isAmong]

theorem kind_name_inj {a b : Kind} : a.name = b.name ↔ a = b := by
  cases a <;> cases b <;> decide

/-- The rules of the schema of tokens one by one. -/
private theorem token_violations_eq_nil_iff
    (kind_eq : Value.entry? entries "kind" = some kind)
    (position_eq : Value.entry? entries "position" = some position)
    (text_eq : Value.entry? entries "text" = some text) :
    violations tokenSchema (.object entries) = [] ↔
      hasOther tokenKeys (.object entries) = false ∧
      isAmong (Kind.all.map (·.name)) kind = true ∧
      TypeName.integer.holds position = true ∧ isBelow 0 position = false ∧
      TypeName.string.holds text = true ∧ isShorter 1 text = false ∧
      (∀ d, Value.entry? entries "quantity" = some d → accepts quantitySchema d = true) ∧
      (isAmong [Kind.quantity.name] kind = true ↔
        (Value.entry? entries "quantity").isSome = true) := by
  have object : TypeName.object.holds (.object entries) = true := rfl
  have nested (d : Value) : accepts quantitySchema d = true ↔
      listViolations (declared quantitySchema) quantitySchema d = [] := accepts_iff
  cases quantity_eq : Value.entry? entries "quantity" <;>
    by_cases quantity : isAmong [Kind.quantity.name] kind = true <;>
    simp [violations, tokenSchema, tokenKeys, declared, listViolations, Rule.violations,
      fieldViolations, Value.get?, Value.entries?, lacking, kind_eq, position_eq, text_eq,
      quantity_eq, quantity, object, nested]

/-- An object is accepted as a token if it has the three entries and no other but a quantity, the
kind is one of the kinds, the position is no negative integer, the text has a character, and a
quantity that keeps its own contract is there just for that kind. -/
theorem accepts_token_iff (kind_eq : Value.entry? entries "kind" = some kind)
    (position_eq : Value.entry? entries "position" = some position)
    (text_eq : Value.entry? entries "text" = some text) :
    accepts tokenSchema (.object entries) = true ↔
      hasOther tokenKeys (.object entries) = false ∧
      TypeName.integer.holds position = true ∧ isBelow 0 position = false ∧
      (∃ characters, text = .string characters ∧ characters ≠ "") ∧
      ∃ name : Kind, kind = .string name.name ∧
        match Value.entry? entries "quantity" with
        | some d => name = .quantity ∧ accepts quantitySchema d = true
        | none => name ≠ .quantity := by
  rw [accepts_iff, token_violations_eq_nil_iff kind_eq position_eq text_eq, isAmong_kinds_iff,
    string_holds_iff]
  have same (name : Kind) : isAmong [Kind.quantity.name] (.string name.name) = true ↔
      name = .quantity := by
    rw [isAmong_singleton_iff, Value.string.injEq, kind_name_inj]
  constructor
  · rintro ⟨closed, ⟨name, rfl⟩, integer, low, ⟨characters, rfl⟩, filled, kept, present⟩
    rw [same] at present
    refine ⟨closed, integer, low, ⟨characters, rfl, by simpa [isShorter] using filled⟩, name, rfl, ?_⟩
    cases quantity : Value.entry? entries "quantity" <;> simp_all
  · rintro ⟨closed, integer, low, ⟨characters, rfl, filled⟩, name, rfl, quantity⟩
    rw [same]
    refine ⟨closed, ⟨name, rfl⟩, integer, low, ⟨characters, rfl⟩, by simpa [isShorter] using filled, ?_⟩
    cases found : Value.entry? entries "quantity" <;> simp_all

end Token

end SignificantFigures.Contract
