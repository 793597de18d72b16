import SignificantFigures.Expression.Fields
import SignificantFigures.Proofs.Expression.Scan
import SignificantFigures.Proofs.Quantity.Literal
import SignificantFigures.Quantity.Construction

/-!
The tokens that scanning takes stand for what they are: a payload of the sort that the kind carries,
and a quantity that its magnitude and its precision give back.
-/

set_option autoImplicit false

namespace SignificantFigures

/-- A precision as an untyped value. -/
def Precision.value : Precision → Value
  | exact => .double (.infinite false)
  | figures count => .integer count

/-- A quantity is built again from its magnitude and its precision. -/
theorem Quantity.build_eq_ok [PowersOfTen] {q : Quantity}
    (precision : q.precision = .exact ∨ ∃ count : Nat, 1 ≤ count ∧ q.precision = .figures count) :
    build (.double (.finite q.magnitude)) q.precision.value = .ok q := by
  have checked : precisionOf q.precision.value = .ok q.precision := by
    rcases precision with exact | ⟨count, positive, figures⟩
    · rw [exact]
      rfl
    · rw [figures]
      exact if_neg (by omega)
  show (precisionOf q.precision.value >>= _) = _
  rw [checked]
  exact congrArg Except.ok (ofPrecision_precision q)

namespace Expression

variable {t : Token}

/-- A payload as an untyped value. -/
def Payload.value : Payload → Value
  | quantity q => .quantity q
  | text characters => .string (String.ofList characters)

/-- The fields of a token. -/
def Token.fields (t : Token) : List (String × Value) :=
  [("kind", .string t.kind.name), ("position", .integer t.position),
    ("text", .string (String.ofList t.text)), ("payload", t.payload.value)]

/-- A quantity stands for a quantity, and every other kind for its characters. -/
def Token.Fits [PowersOfTen] (t : Token) : Prop :=
  match t.payload with
  | .quantity q => t.kind = .quantity ∧ Quantity.ofLiteral? t.text = some q
  | .text characters => t.kind ≠ .quantity ∧ characters = t.text

/-- Whether a payload is of the sort that a kind carries: a quantity, or else a text. -/
def Payload.Suits (kind : Kind) : Payload → Prop
  | quantity _ => kind = .quantity
  | text _ => kind ≠ .quantity

theorem Payload.Suits.quantity_iff {kind : Kind} {payload : Payload} (suits : payload.Suits kind) :
    (∃ q, payload = .quantity q) ↔ kind = .quantity := by
  cases payload with
  | quantity q => exact iff_of_true ⟨q, rfl⟩ suits
  | text text => exact iff_of_false (fun ⟨_, other⟩ => nomatch other) suits

theorem Payload.Suits.text_iff {kind : Kind} {payload : Payload} (suits : payload.Suits kind) :
    (∃ text, payload = .text text) ↔ kind ≠ .quantity := by
  cases payload with
  | quantity q => exact iff_of_false (fun ⟨_, other⟩ => nomatch other) (not_not_intro suits)
  | text text => exact iff_of_true ⟨text, rfl⟩ suits

theorem Token.Fits.suits [PowersOfTen] (fits : t.Fits) : t.payload.Suits t.kind := by
  unfold Token.Fits at fits
  cases payload : t.payload <;> rw [payload] at fits <;> exact fits.1

theorem Token.fits_of_payload? [PowersOfTen]
    (stands : payload? t.kind t.text = some t.payload) : t.Fits := by
  unfold payload? at stands
  unfold Token.Fits
  by_cases quantity : t.kind = .quantity
  · rw [if_pos quantity] at stands
    obtain ⟨q, read, payload⟩ := Option.map_eq_some_iff.mp stands
    rw [← payload]
    exact ⟨quantity, read⟩
  · rw [if_neg quantity] at stands
    rw [← Option.some.inj stands]
    exact ⟨quantity, rfl⟩

end Expression

end SignificantFigures
