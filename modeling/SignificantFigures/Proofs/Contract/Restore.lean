import SignificantFigures.Contract.Restore
import SignificantFigures.Proofs.Contract.Formats

/-!
What is restored from a value that need not be the document of a quantity. The schema and the place of
a quantity disagree on what an integer is: a whole double is one to the schema, and none to the place.
-/

set_option autoImplicit false

namespace SignificantFigures.Contract

/-- The double of a number: a finite double itself, or the one nearest to an integer. -/
inductive HasDouble : Value → Double.Finite → Prop
  | double (x : Double.Finite) : HasDouble (.double (.finite x)) x
  | integer {n : Int} {x : Double.Finite} (nearest : Double.nearest n = .finite x) :
    HasDouble (.integer n) x

section Restored

variable [PowersOfTen] {v m place : Value} {x : Double.Finite} {exponent : Int}

theorem HasDouble.magnitudeOf (double : HasDouble m x) : Quantity.magnitudeOf m = .ok x := by
  cases double with
  | double => rfl
  | integer nearest =>
    rw [Quantity.magnitudeOf, Double.ofInteger, nearest]

/-- Of the values that are integers to the schema, the doubles are refused as a last place. -/
theorem IsInteger.lastPlaceOf (integer : IsInteger place exponent) : Quantity.lastPlaceOf place =
    if place.isInteger then .ok (.place exponent) else .error (.badPlace place) := by
  cases integer <;> rfl

theorem restore_of_rejected (rejected : accepts quantitySchema v = false) :
    ∃ violation, (violations quantitySchema v).head? = some violation ∧
      restore v = .error (.broken violation) := by
  cases broken : violations quantitySchema v with
  | nil => exact absurd (accepts_iff.mpr broken) (by simp [rejected])
  | cons violation rest =>
    refine ⟨violation, rfl, ?_⟩
    rw [restore, validate, broken]

/-- The entries of an accepted value that a quantity is restored from: with the word for exact numbers
the magnitude alone, else the magnitude and an integer place. -/
theorem quantityOfEntries_of_accepted (accepted : accepts quantitySchema v = true)
    (number : v.get? "magnitude" = some m) :
    (v.get? "precision" = some (.string exactWord) ∧ quantityOfEntries v = Quantity.buildExact m) ∨
    (v.get? "precision" ≠ some (.string exactWord) ∧
      ∃ place exponent, v.get? "last_sig_place" = some place ∧ IsInteger place exponent ∧
        quantityOfEntries v = Quantity.buildAtPlace m place) := by
  obtain ⟨entries, magnitude, precision, place, display, rfl, same, -, -, agrees⟩ :=
    accepts_quantity_iff.mp accepted
  have precision_eq : Value.get? (.object entries) "precision" = some precision := same "precision"
  have place_eq : Value.get? (.object entries) "last_sig_place" = some place :=
    same "last_sig_place"
  rcases agrees with ⟨rfl, -, -⟩ | ⟨⟨count, integer⟩, exponent, whole⟩
  · refine Or.inl ⟨precision_eq, ?_⟩
    rw [quantityOfEntries, precision_eq, number]
    rfl
  · have other : precision ≠ .string exactWord := by
      rintro rfl
      cases integer
    have branch : ¬ isAmong [exactWord] precision = true := isAmong_singleton_iff.not.mpr other
    refine Or.inr ⟨?_, place, exponent, place_eq, whole, ?_⟩
    · rwa [precision_eq, ne_eq, Option.some.injEq]
    · rw [quantityOfEntries, precision_eq, place_eq, number]
      exact if_neg branch

/-- A value that the schema does not accept gives its first violation. An accepted one whose magnitude
fits a double gives a quantity of that magnitude: an exact one with the word for exact numbers, else
one with the last place of the entry. Where that place is a whole double it is refused instead. -/
theorem restored_value (v : Value) :
    (accepts quantitySchema v = false →
      ∃ violation, (violations quantitySchema v).head? = some violation ∧
        restore v = .error (.broken violation)) ∧
    ∀ m x, accepts quantitySchema v = true → v.get? "magnitude" = some m → HasDouble m x →
      (v.get? "precision" = some (.string exactWord) → restore v = .ok ⟨x, .exact⟩) ∧
      (v.get? "precision" ≠ some (.string exactWord) →
        ∃ place exponent, v.get? "last_sig_place" = some place ∧ IsInteger place exponent ∧
          restore v = if place.isInteger then .ok ⟨x, .place exponent⟩
            else .error (.refused (.badPlace place))) := by
  refine ⟨restore_of_rejected, ?_⟩
  intro m x accepted number double
  have kept : restore v = (quantityOfEntries v).mapError .refused := by
    rw [restore, validate_eq_ok_iff.mpr accepted]
  rcases quantityOfEntries_of_accepted accepted number with
    ⟨exact, built⟩ | ⟨other, place, exponent, place_eq, whole, built⟩
  · refine ⟨fun _ => ?_, fun other => absurd exact other⟩
    rw [kept, built, Quantity.buildExact, double.magnitudeOf]
    rfl
  · refine ⟨fun exact => absurd exact other, fun _ => ⟨place, exponent, place_eq, whole, ?_⟩⟩
    rw [kept, built, Quantity.buildAtPlace, double.magnitudeOf]
    show (Quantity.lastPlaceOf place >>= _).mapError _ = _
    rw [whole.lastPlaceOf]
    split <;> rfl

end Restored

/-- 1200 as an integer, with its last figure at the tens. -/
theorem restored_value_of_integers :
    let v : Value := .object [("magnitude", .integer 1200), ("precision", .integer 3),
      ("last_sig_place", .integer 1), ("display", .string "1.20e3")]
    restore v = .ok ⟨⟨false, 5277655813324800, -42, by decide⟩, .place 1⟩ := by
  intro v
  have double : HasDouble (.integer 1200) ⟨false, 5277655813324800, -42, by decide⟩ :=
    .integer (by decide +kernel)
  obtain ⟨-, restored⟩ := restored_value v
  have accepted : accepts quantitySchema v = true := by decide +kernel
  obtain ⟨place, exponent, place_eq, whole, result⟩ :=
    (restored _ _ accepted rfl double).2 (by simp [v, Value.get?, Value.entries?, Value.entry?])
  obtain rfl := Option.some.inj place_eq
  cases whole
  exact result

/-- The document of 1200 with two figures, its last place written as `2.0`, is accepted and then refused
for the place. -/
theorem restored_value_whole_double :
    let place : Value := .double (.finite ⟨false, 4503599627370496, -51, by decide⟩)
    let v : Value := .object
      [("magnitude", .double (.finite ⟨false, 5277655813324800, -42, by decide⟩)),
        ("precision", .integer 2), ("last_sig_place", place), ("display", .string "1200")]
    accepts quantitySchema v = true ∧ IsInteger place 2 ∧
      restore v = .error (.refused (.badPlace place)) := by
  intro place v
  have accepted : accepts quantitySchema v = true := by decide +kernel
  refine ⟨accepted, .double (by decide +kernel), ?_⟩
  rw [restore, validate_eq_ok_iff.mpr accepted]
  rfl

end SignificantFigures.Contract
