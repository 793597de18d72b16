import SignificantFigures.Contract.Restore
import SignificantFigures.Proofs.Contract.Schema
import SignificantFigures.Proofs.Quantity.Display

/-!
A quantity's document keeps the contract and gives the quantity back.
-/

set_option autoImplicit false

namespace SignificantFigures.Contract

open Quantity

theorem ofList_ne_empty {text : List Char} (nonempty : text ≠ []) : String.ofList text ≠ "" := by
  simpa using nonempty

/-- The precision, the last place and the text that a quantity is documented with agree. -/
theorem agrees_document [PowersOfTen] {q : Quantity} {text : List Char} (shown : q.display .letter = .ok text) :
    Agrees q.precision.document q.lastPlace.document (String.ofList text) := by
  obtain ⟨magnitude, lastPlace⟩ := q
  cases lastPlace with
  | exact =>
    rw [display_exact] at shown
    obtain rfl := Except.ok.inj shown
    refine Or.inl ⟨rfl, rfl, ?_⟩
    rw [String.toList_ofList]
    exact textEndsIn_iff.mpr ⟨_, Or.inl rfl⟩
  | place place => exact Or.inr ⟨rfl, rfl⟩

theorem accepts_document [PowersOfTen] {q : Quantity} {v : Value} (written : q.document = .ok v) :
    accepts quantitySchema v = true := by
  obtain ⟨text, shown, rfl⟩ := Except.map_eq_ok_iff.mp written
  exact (accepts_object_iff rfl rfl rfl rfl).mpr ⟨rfl, rfl, _, rfl,
    ofList_ne_empty (display_ne_nil shown), agrees_document shown⟩

/-- Every document of a quantity is accepted and restored to that quantity. -/
theorem restore_document [PowersOfTen] (q : Quantity) (v : Value) (written : q.document = .ok v) :
    accepts quantitySchema v = true ∧ restore v = .ok q := by
  obtain ⟨text, shown, rfl⟩ := Except.map_eq_ok_iff.mp written
  have accepted : accepts quantitySchema (.object
      [("magnitude", .double (.finite q.magnitude)), ("precision", q.precision.document),
        ("last_sig_place", q.lastPlace.document), ("display", .string (String.ofList text))]) =
      true :=
    (accepts_object_iff rfl rfl rfl rfl).mpr ⟨rfl, rfl, _, rfl,
      ofList_ne_empty (display_ne_nil shown), agrees_document shown⟩
  refine ⟨accepted, ?_⟩
  rw [restore, validate_eq_ok_iff.mpr accepted]
  obtain ⟨magnitude, lastPlace⟩ := q
  cases lastPlace with
  | exact => rfl
  | place place => rfl

/-- A negative zero whose last place is that of the hundreds has no figure, and is restored too. -/
theorem restore_document_zero :
    let q : Quantity := ⟨Double.Finite.zero true, .place 2⟩
    let v : Value := .object [("magnitude", .double (.finite q.magnitude)),
      ("precision", .integer (-1)), ("last_sig_place", .integer 2), ("display", .string "0")]
    q.document = .ok v ∧ accepts quantitySchema v = true ∧ restore v = .ok q := by
  intro q v
  have shown : q.display .letter = .ok ['0'] := by decide +kernel
  have written : q.document = .ok v := by
    rw [Quantity.document, shown]
    rfl
  exact ⟨written, restore_document q v written⟩

end SignificantFigures.Contract
