import SignificantFigures.Proofs.Contract.Stream
import SignificantFigures.Proofs.Expression.Fields

/-!
A token built from untyped fields keeps the contract of tokens: the checks of its fields and the
schema of its document are written down apart from each other, and the first imply the second.
-/

set_option autoImplicit false

namespace SignificantFigures.Contract

open Expression

/-- Whatever fields a token is built from, its position is the integer that the field is read as and
is not negative, it has characters, and it carries a quantity if it is of that kind, and else a text.
Assigning to a field does not change it. Every document of it is accepted, and has a quantity just
for the kind of quantities. -/
theorem token_of_fields [PowersOfTen] (fields : List (String × Value)) (t : Token)
    (built : Token.ofFields fields = .ok t) :
    (∃ v n, Value.entry? fields "position" = some v ∧ Field.integerOf v = .ok n ∧ 0 ≤ n ∧
      n = (t.position : Int)) ∧
    t.text ≠ [] ∧
    ((∃ q, t.payload = .quantity q) ↔ t.kind = .quantity) ∧
    ((∃ text, t.payload = .text text) ↔ t.kind ≠ .quantity) ∧
    (∀ name, t.assign name = (⟨[name], .frozen⟩, t)) ∧
    ∀ v, t.document = .ok v → accepts tokenSchema v = true ∧
      ((v.get? "quantity").isSome = true ↔ t.kind = .quantity) := by
  have good := Token.ofFields_eq_ok_iff.mp built
  obtain ⟨position, given, read⟩ := good.position
  exact ⟨⟨position, t.position, given, read, Int.natCast_nonneg _, rfl⟩, good.nonempty,
    good.suits.quantity_iff, good.suits.text_iff, fun name => rfl,
    fun v documented => accepts_document_token good.nonempty good.suits documented⟩

/-- A position may be a truth value, and the characters need not be a literal of the quantity. -/
theorem token_of_fields_truth_value :
    let q : Quantity := ⟨.zero true, .place 2⟩
    let fields : List (String × Value) := [("text", .string "five"), ("payload", .quantity q),
      ("note", .null), ("position", .bool true), ("kind", .string "quantity")]
    let t : Token := ⟨.quantity, 1, "five".toList, .quantity q⟩
    Token.ofFields fields = .ok t ∧ ∃ v, t.document = .ok v ∧ accepts tokenSchema v = true ∧
      (v.get? "quantity").isSome = true := by
  intro q fields t
  have built : Token.ofFields fields = .ok t := by decide +kernel
  have shown : q.display .letter = .ok ['0'] := by decide +kernel
  obtain ⟨v, documented⟩ : ∃ v, t.document = .ok v :=
    ⟨_, by rw [Token.document, Token.payloadEntries, Quantity.document, shown]; rfl⟩
  obtain ⟨-, -, -, -, -, contract⟩ := token_of_fields fields t built
  obtain ⟨accepted, present⟩ := contract v documented
  exact ⟨built, v, documented, accepted, present.mpr rfl⟩

end SignificantFigures.Contract
