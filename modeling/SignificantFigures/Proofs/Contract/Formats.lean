import Mathlib.Data.Rat.Lemmas
import Mathlib.Tactic.Push
import SignificantFigures.Proofs.Contract.Schema

/-!
The formats of the two documents without their schemas, and that a schema accepts a value of any
kind just when it has the format. The conditional rules hold of a value that is no object and of one
that lacks a key, so what keeps those out are the rules on the type and the required keys.
-/

set_option autoImplicit false

namespace SignificantFigures.Contract

open Expression (Kind)

section Types

variable {v : Value}

/-- A value as an integer: an integer itself, or a finite double that has its value. -/
inductive IsInteger : Value → Int → Prop
  | integer (n : Int) : IsInteger (.integer n) n
  | double {x : Double.Finite} {n : Int} (whole : x.value = n) : IsInteger (.double (.finite x)) n

theorem integer_holds_iff : TypeName.integer.holds v = true ↔ ∃ n, IsInteger v n := by
  constructor
  · intro holds
    cases v with
    | integer n => exact ⟨n, .integer n⟩
    | double x =>
      cases x with
      | finite x =>
        have whole : x.value.den = 1 := beq_iff_eq.mp holds
        exact ⟨x.value.num, .double (Rat.den_eq_one_iff _ |>.mp whole).symm⟩
      | _ => exact nomatch holds
    | _ => exact nomatch holds
  · rintro ⟨n, integer | @⟨x, n, whole⟩⟩
    · rfl
    · exact beq_iff_eq.mpr (by rw [whole, Rat.den_intCast])

theorem IsInteger.isBelow_iff {n bound : Int} (integer : IsInteger v n) :
    isBelow bound v = true ↔ n < bound := by
  cases integer with
  | integer => simp [isBelow]
  | double whole => rw [isBelow, decide_eq_true_iff, whole, Rat.intCast_lt_intCast]

end Types

section Entries

variable {entries fields : List (String × Value)} {names : List String} {key : String}

theorem entry?_cons {name : String} {v : Value} : Value.entry? ((name, v) :: entries) key =
    if name = key then some v else Value.entry? entries key := by
  by_cases equal : name = key <;> simp [Value.entry?, equal]

theorem entry?_eq_none_iff : Value.entry? entries key = none ↔ ∀ e ∈ entries, e.1 ≠ key := by
  simp [Value.entry?]

theorem hasOther_eq_false_iff : hasOther names (.object entries) = false ↔
    ∀ key, Value.entry? entries key ≠ none → key ∈ names := by
  simp only [hasOther, List.any_eq_false, ne_eq, entry?_eq_none_iff]
  constructor
  · intro closed key present
    push Not at present
    obtain ⟨e, he, rfl⟩ := present
    simpa using closed e he
  · intro closed e he
    have listed := closed e.1 fun absent => absent e he rfl
    simpa using listed

theorem lacking_eq_nil_iff : lacking names (.object entries) = [] ↔
    ∀ name ∈ names, ∃ v, Value.entry? entries name = some v := by
  simp [lacking, Option.ne_none_iff_exists']

/-- Values under the same keys, whatever the order of the entries. -/
def SameEntries (entries fields : List (String × Value)) : Prop :=
  ∀ key, Value.entry? entries key = Value.entry? fields key

theorem SameEntries.closed (same : SameEntries entries fields)
    (listed : ∀ e ∈ fields, e.1 ∈ names) : hasOther names (.object entries) = false := by
  rw [hasOther_eq_false_iff]
  intro key present
  rw [same key, ne_eq, entry?_eq_none_iff] at present
  push Not at present
  obtain ⟨e, he, rfl⟩ := present
  exact listed e he

/-- An object has the same entries as a list if it has those of the list, and the list every one of
the keys that the object may have. -/
theorem sameEntries_of_closed
    (present : ∀ e ∈ fields, Value.entry? entries e.1 = Value.entry? fields e.1)
    (closed : hasOther names (.object entries) = false)
    (complete : ∀ name ∈ names, (∃ e ∈ fields, e.1 = name) ∨ Value.entry? entries name = none) :
    SameEntries entries fields := by
  intro key
  by_cases listed : ∃ e ∈ fields, e.1 = key
  · obtain ⟨e, he, rfl⟩ := listed
    exact present e he
  · have absent : Value.entry? fields key = none :=
      entry?_eq_none_iff.mpr fun e he equal => listed ⟨e, he, equal⟩
    rw [absent]
    by_contra other
    have named := hasOther_eq_false_iff.mp closed key other
    exact (complete key named).elim listed other

/-- A schema that asks for an object and for some of its keys accepts nothing else. -/
theorem exists_entries_of_accepts {schema : Schema} {v : Value} (names : List String)
    (object : .type [.object] ∈ schema) (required : .required names ∈ schema)
    (accepted : accepts schema v = true) :
    ∃ entries, v = .object entries ∧ ∀ name ∈ names, ∃ w, Value.entry? entries name = some w := by
  have kept := listViolations_eq_nil_iff.mp (accepts_iff.mp accepted)
  have holds : TypeName.object.holds v = true := by simpa [Rule.violations] using kept _ object
  obtain ⟨entries, rfl⟩ := object_holds_iff.mp holds
  refine ⟨entries, rfl, lacking_eq_nil_iff.mp ?_⟩
  simpa [Rule.violations] using kept _ required

end Entries

/-- A text that ends in the mark of exact numbers, or in the mark and one line feed. -/
def EndsInMark (text : String) : Prop :=
  ∃ front : List Char, text.toList = front ++ ['c'] ∨ text.toList = front ++ ['c', '\n']

section Formats

/-- The document of a quantity: a number, a displayed text, and either the word for exact numbers,
no last place and a marked text, or two integers. -/
def QuantityFormat (v : Value) : Prop :=
  ∃ (entries : List (String × Value)) (magnitude precision place : Value) (display : String),
    v = .object entries ∧
    SameEntries entries [("magnitude", magnitude), ("precision", precision),
      ("last_sig_place", place), ("display", .string display)] ∧
    magnitude.isNumber = true ∧ display ≠ "" ∧
    ((precision = .string "exact" ∧ place = .null ∧ EndsInMark display) ∨
      ((∃ count, IsInteger precision count) ∧ ∃ exponent, IsInteger place exponent))

/-- The document of a token: one of the kinds, a position that is no negative number, a text, and
just for the kind of quantities the document of a quantity. -/
def TokenFormat (v : Value) : Prop :=
  ∃ (entries : List (String × Value)) (kind : Kind) (position : Value) (text : String)
      (quantity : Option Value),
    v = .object entries ∧
    SameEntries entries ([("kind", .string kind.name), ("position", position),
      ("text", .string text)] ++ (quantity.map fun d => ("quantity", d)).toList) ∧
    (∃ start : Int, IsInteger position start ∧ 0 ≤ start) ∧ text ≠ "" ∧
    (quantity.isSome = true ↔ kind = .quantity) ∧ ∀ d, quantity = some d → QuantityFormat d

variable {v : Value}

theorem agrees_iff {precision place : Value} {display : String} :
    Agrees precision place display ↔
      (precision = .string "exact" ∧ place = .null ∧ EndsInMark display) ∨
        ((∃ count, IsInteger precision count) ∧ ∃ exponent, IsInteger place exponent) := by
  rw [Agrees, textEndsIn_iff, integer_holds_iff, integer_holds_iff]
  rfl

theorem accepts_quantity_iff : accepts quantitySchema v = true ↔ QuantityFormat v := by
  constructor
  · intro accepted
    obtain ⟨entries, rfl, present⟩ := exists_entries_of_accepts quantityKeys
      List.mem_cons_self (by simp [quantityKeys]) accepted
    obtain ⟨magnitude, magnitude_eq⟩ := present "magnitude" (by decide)
    obtain ⟨precision, precision_eq⟩ := present "precision" (by decide)
    obtain ⟨place, place_eq⟩ := present "last_sig_place" (by decide)
    obtain ⟨shown, display_eq⟩ := present "display" (by decide)
    obtain ⟨closed, number, display, rfl, filled, agrees⟩ :=
      (accepts_object_iff magnitude_eq precision_eq place_eq display_eq).mp accepted
    refine ⟨entries, magnitude, precision, place, display, rfl, ?_, number_holds _ ▸ number, filled,
      agrees_iff.mp agrees⟩
    refine sameEntries_of_closed ?_ closed ?_
    · simp [magnitude_eq, precision_eq, place_eq, display_eq, entry?_cons]
    · simp [quantityKeys]
  · rintro ⟨entries, magnitude, precision, place, display, rfl, same, number, filled, agrees⟩
    refine (accepts_object_iff (same "magnitude") (same "precision") (same "last_sig_place")
      (same "display")).mpr ⟨same.closed (by simp [quantityKeys]), ?_, display, rfl, filled,
        agrees_iff.mpr agrees⟩
    rw [number_holds, number]

theorem accepts_token_format_iff : accepts tokenSchema v = true ↔ TokenFormat v := by
  constructor
  · intro accepted
    obtain ⟨entries, rfl, present⟩ := exists_entries_of_accepts
      ["kind", "position", "text"] List.mem_cons_self (by simp) accepted
    obtain ⟨word, kind_eq⟩ := present "kind" (by decide)
    obtain ⟨position, position_eq⟩ := present "position" (by decide)
    obtain ⟨shown, text_eq⟩ := present "text" (by decide)
    obtain ⟨closed, integer, low, ⟨text, rfl, filled⟩, kind, rfl, quantity⟩ :=
      (accepts_token_iff kind_eq position_eq text_eq).mp accepted
    obtain ⟨start, isInteger⟩ := integer_holds_iff.mp integer
    have spot : ∃ start : Int, IsInteger position start ∧ 0 ≤ start := by
      refine ⟨start, isInteger, ?_⟩
      rw [← not_lt, ← isInteger.isBelow_iff, low]
      exact Bool.false_ne_true
    cases found : Value.entry? entries "quantity" with
    | none =>
      rw [found] at quantity
      refine ⟨entries, kind, position, text, none, rfl, ?_, spot, filled, by simpa using quantity,
        fun d nothing => nomatch nothing⟩
      refine sameEntries_of_closed ?_ closed ?_
      · simp [kind_eq, position_eq, text_eq, entry?_cons]
      · simp [tokenKeys, found]
    | some d =>
      rw [found] at quantity
      refine ⟨entries, kind, position, text, some d, rfl, ?_, spot, filled, by simpa using quantity.1,
        fun d' equal => Option.some.inj equal ▸ accepts_quantity_iff.mp quantity.2⟩
      refine sameEntries_of_closed ?_ closed ?_
      · simp [kind_eq, position_eq, text_eq, found, entry?_cons]
      · simp [tokenKeys]
  · rintro ⟨entries, kind, position, text, quantity, rfl, same, ⟨start, isInteger, low⟩, filled,
      present, kept⟩
    have found : Value.entry? entries "quantity" = quantity := by
      rw [same "quantity"]
      cases quantity <;> rfl
    refine (accepts_token_iff (same "kind") (same "position") (same "text")).mpr
      ⟨same.closed ?_, integer_holds_iff.mpr ⟨start, isInteger⟩, ?_, ⟨text, rfl, filled⟩, kind, rfl,
        ?_⟩
    · cases quantity <;> simp [tokenKeys]
    · rw [← Bool.not_eq_true, isInteger.isBelow_iff, not_lt]
      exact low
    · rw [found]
      cases quantity with
      | none => simpa using present
      | some d => exact ⟨present.mp rfl, accepts_quantity_iff.mpr (kept d rfl)⟩

/-- The schemas accept exactly the two formats, whatever the value. That a value is accepted, that
it has no violation and that checking it does not fail is the same for every schema. -/
theorem accepted_formats (v : Value) :
    (validate quantitySchema v = .ok () ↔ QuantityFormat v) ∧
    (validate tokenSchema v = .ok () ↔ TokenFormat v) ∧
    ∀ schema, (accepts schema v = true ↔ violations schema v = []) ∧
      (violations schema v = [] ↔ validate schema v = .ok ()) :=
  ⟨validate_eq_ok_iff.trans accepts_quantity_iff, validate_eq_ok_iff.trans accepts_token_format_iff,
    fun _ => ⟨accepts_iff, accepts_iff.symm.trans validate_eq_ok_iff.symm⟩⟩

/-- A line feed behind the mark is let pass, and a position may be a double that is whole. A truth
value is no magnitude. -/
theorem accepted_formats_line_feed :
    let five (magnitude : Value) : Value := .object [("display", .string "5c\n"),
      ("precision", .string "exact"), ("last_sig_place", .null), ("magnitude", magnitude)]
    QuantityFormat (five (.integer 5)) ∧ ¬ QuantityFormat (five (.bool true)) ∧
      TokenFormat (.object [("kind", .string "quantity"), ("quantity", five (.integer 5)),
        ("position", .double (.finite (.zero true))), ("text", .string "5c")]) := by
  intro five
  refine ⟨(accepted_formats _).1.mp ?_, fun format => ?_, (accepted_formats _).2.1.mp ?_⟩
  · exact validate_eq_ok_iff.mpr (by decide +kernel)
  · have accepted := validate_eq_ok_iff.mp ((accepted_formats _).1.mpr format)
    exact absurd accepted (by decide +kernel)
  · exact validate_eq_ok_iff.mpr (by decide +kernel)

end Formats

end SignificantFigures.Contract
