import SignificantFigures.Proofs.Decimal.Text
import SignificantFigures.Proofs.Quantity.Arithmetic
import SignificantFigures.Proofs.Quantity.Display

/-!
Equality of quantities. Equal quantities are one quantity, or two zeros of different sign with one
last place; nothing that is shown of them tells them apart, and no operation does. Only what names a
magnitude, the description of a quantity and the message of an error, shows the sign of a zero.
-/

set_option autoImplicit false

namespace SignificantFigures

open Double (Equal)
open Double.Finite

theorem Double.Finite.plainText_congr {x y : Double.Finite} (same : x.same y = true) :
    (Double.finite x).plainText = (Double.finite y).plainText := by
  have plain {z : Double.Finite} (zero : z.isZero = true) : (Double.finite z).plainText = ['0'] := by
    rw [Double.plainText, Decimal.shortest_of_size_eq_zero (isZero_iff.mp zero)]
    cases z.negative <;> decide
  rcases eq_or_isZero_of_same same with rfl | ⟨left, right⟩
  · rfl
  · rw [plain left, plain right]

namespace Quantity

/-- What an error is about, whatever values it names. -/
inductive Error.Kind where
  | refused
  | tooGreat
  | divisionByZero
  | unreadable
  | decimal (fault : Decimal.Fault)
  | unwritable
  deriving DecidableEq

def Error.kind : Error → Error.Kind
  | notANumber _ | notFinite _ | badPrecision _ | badPlace _ => .refused
  | tooGreat => .tooGreat
  | divisionByZero _ => .divisionByZero
  | unreadable _ => .unreadable
  | decimal fault => .decimal fault
  | unwritable => .unwritable

/-- Operations that give equal quantities or fail with errors of one kind. -/
abbrev EndsAlike : Except Error Quantity → Except Error Quantity → Prop :=
  Except.Alike (fun e f => e.kind = f.kind) fun a b => a.same b = true

section Views

variable {a b : Quantity}

theorem same_iff :
    a.same b = true ↔ a.magnitude.same b.magnitude = true ∧ a.lastPlace = b.lastPlace := by
  rw [same, Bool.and_eq_true, beq_iff_eq]

theorem same_refl (a : Quantity) : a.same a = true :=
  same_iff.mpr ⟨a.magnitude.same_refl, rfl⟩

theorem endsAlike_refl (x : Except Error Quantity) : EndsAlike x x := by
  apply Except.Alike.refl
  · exact fun _ => rfl
  · exact same_refl

/-- Equal quantities are one, or zeros with one last place. -/
theorem eq_or_isZero_of_same (same : a.same b = true) :
    a = b ∨ (a.magnitude.isZero = true ∧ b.magnitude.isZero = true ∧ a.lastPlace = b.lastPlace) := by
  obtain ⟨magnitude, lastPlace⟩ := same_iff.mp same
  rcases Double.Finite.eq_or_isZero_of_same magnitude with equal | ⟨left, right⟩
  · left
    cases a
    cases b
    cases equal
    cases lastPlace
    rfl
  · exact Or.inr ⟨left, right, lastPlace⟩

variable [PowersOfTen]

theorem precision_congr (same : a.same b = true) : a.precision = b.precision := by
  obtain ⟨magnitude, lastPlace⟩ := same_iff.mp same
  rw [precision, precision, lastPlace, decade_congr (size_eq_of_same magnitude)]

theorem placeFor_congr {x y : Double.Finite} (same : x.same y = true) (precision : Precision) :
    placeFor x precision = placeFor y precision := by
  cases precision with
  | exact => rfl
  | figures count => rw [placeFor, placeFor, decade_congr (size_eq_of_same same)]

/-- Where there is a last place, equal quantities are rounded to one quantity. -/
theorem rounded_congr (same : a.same b = true) (inexact : a.lastPlace ≠ .exact) :
    a.rounded = b.rounded := by
  rcases eq_or_isZero_of_same same with rfl | ⟨left, right, lastPlace⟩
  · rfl
  · cases place : b.lastPlace with
    | exact => exact absurd (lastPlace.trans place) inexact
    | place place =>
      rw [place] at lastPlace
      rw [isZero_iff] at left right
      rw [rounded, rounded, lastPlace, place]
      simp only [roundedMagnitude, roundedTo_of_size_eq_zero left, roundedTo_of_size_eq_zero right,
        decade_of_size_eq_zero left, decade_of_size_eq_zero right]

theorem rounded_alike (same : a.same b = true) :
    Except.Alike Eq (fun r s => r.same s = true) a.rounded b.rounded := by
  by_cases exact : a.lastPlace = .exact
  · rw [rounded, rounded, ← (same_iff.mp same).2, exact]
    exact .ok same
  · rw [rounded_congr same exact]
    exact .refl (fun _ => rfl) same_refl _

theorem positional_congr (same : a.same b = true) : a.positional = b.positional := by
  obtain ⟨magnitude, lastPlace⟩ := same_iff.mp same
  rw [positional, positional, ← lastPlace]
  cases place : a.lastPlace with
  | exact => exact congrArg Except.ok (plainText_congr magnitude)
  | place place => rw [rounded_congr same (by rw [place]; exact nofun)]

theorem scientific_congr (same : a.same b = true) (style : ExponentStyle) :
    a.scientific style = b.scientific style := by
  rcases eq_or_isZero_of_same same with rfl | ⟨left, right, -⟩
  · rfl
  · rw [scientific, scientific, if_pos left, if_pos right]

theorem display_congr (same : a.same b = true) (style : ExponentStyle) :
    a.display style = b.display style := by
  obtain ⟨magnitude, lastPlace⟩ := same_iff.mp same
  by_cases exact : a.lastPlace = .exact
  · obtain ⟨x, place⟩ := a
    obtain ⟨y, place'⟩ := b
    obtain rfl : place = .exact := exact
    obtain rfl : LastPlace.exact = place' := lastPlace
    rw [display_exact, display_exact, plainText_congr magnitude]
  · -- all that is displayed is taken from the rounded quantity
    simp only [display, layout, rounded_congr same exact]

end Views

section Operations

theorem atPlace_alike {z w : Double} (equal : Equal z w) (place : LastPlace) :
    EndsAlike (atPlace z place) (atPlace w place) := by
  cases equal with
  | values same => exact .ok (same_iff.mpr ⟨same, rfl⟩)
  | infinite negative => exact .error rfl

variable [PowersOfTen] {a b c d : Quantity} {operation : Operation}

/-- Whether the message of a division by zero can be written depends on the precision alone. -/
theorem kind_raised_divisionByZero (precision : a.precision = b.precision) :
    (Error.divisionByZero a).raised.kind = (Error.divisionByZero b).raised.kind := by
  have writable : (Error.divisionByZero a).Writable ↔ (Error.divisionByZero b).Writable := by
    simp only [Error.writable_divisionByZero_iff, Writable, precision]
  by_cases left : (Error.divisionByZero a).Writable
  · rw [Error.raised_of_writable left, Error.raised_of_writable (writable.mp left)]
    rfl
  · rw [Error.raised_of_not_writable left, Error.raised_of_not_writable (mt writable.mpr left)]

theorem atPrecision_alike {z w : Double} (equal : Equal z w) (precision : Precision) :
    EndsAlike (atPrecision z precision) (atPrecision w precision) := by
  cases equal with
  | values same => exact .ok (same_iff.mpr ⟨same, placeFor_congr same precision⟩)
  | infinite negative => exact endsAlike_refl _

/-- An operation on equal quantities ends alike. -/
theorem apply_alike (left : a.same b = true) (right : c.same d = true) (operation : Operation) :
    EndsAlike (operation.apply a c) (operation.apply b d) := by
  obtain ⟨first, place⟩ := same_iff.mp left
  obtain ⟨second, place'⟩ := same_iff.mp right
  rw [Double.Finite.same_iff] at first second
  have divisor : operation.DividesByZero c ↔ operation.DividesByZero d := by
    rw [Operation.DividesByZero, Operation.DividesByZero, second]
  by_cases zero : operation.DividesByZero c
  · rw [apply_of_dividesByZero zero, apply_of_dividesByZero (divisor.mp zero)]
    exact .error (kind_raised_divisionByZero (precision_congr left))
  -- the exact results are one number, so the double results are equal
  have rounded := operation.isRounded_result a.magnitude c.magnitude
  rw [first, second] at rounded
  have equal := rounded.equal (operation.isRounded_result b.magnitude d.magnitude)
  rcases operation.isSum_or_isProduct with sum | product
  · rw [apply_of_isSum sum, apply_of_isSum sum, place, place']
    exact atPlace_alike equal _
  · rw [apply_of_isProduct product zero, apply_of_isProduct product (mt divisor.mpr zero),
      precision_congr left, precision_congr right]
    exact atPrecision_alike equal _

end Operations

/-- Equal quantities have the same precision and are shown in the same way, failures included; their
rounded quantities are equal, and every operation with a third quantity on either side gives equal
quantities or fails with one kind of error. -/
theorem same_congruence [PowersOfTen] (a b : Quantity) (same : a.same b = true) :
    a.precision = b.precision ∧ a.isExact = b.isExact ∧ a.positional = b.positional ∧
    (∀ style, a.scientific style = b.scientific style) ∧
    (∀ style, a.display style = b.display style) ∧
    Except.Alike Eq (fun r s => r.same s = true) a.rounded b.rounded ∧
    ∀ (operation : Operation) (c : Quantity),
      EndsAlike (operation.apply a c) (operation.apply b c) ∧
      EndsAlike (operation.apply c a) (operation.apply c b) := by
  refine ⟨precision_congr same, ?_, positional_congr same, scientific_congr same,
    display_congr same, rounded_alike same, ?_⟩
  · rw [isExact, isExact, (same_iff.mp same).2]
  · intro operation c
    exact ⟨apply_alike same (same_refl c) operation, apply_alike (same_refl c) same operation⟩

/-- The two zeros to the tenths are displayed as `0.0`, and division by either fails, although the
errors of dividing them show their signs. -/
theorem same_congruence_zeros :
    let a : Quantity := ⟨.zero true, .place (-1)⟩
    let b : Quantity := ⟨.zero false, .place (-1)⟩
    a ≠ b ∧ a.same b = true ∧ a.describe? ≠ b.describe? ∧ a.display .letter = .ok "0.0".toList ∧
      b.display .letter = .ok "0.0".toList ∧ EndsAlike (a.divide a) (b.divide a) := by
  intro a b
  have same : a.same b = true := by decide +kernel
  obtain ⟨-, -, -, -, display, -, apply⟩ := same_congruence a b same
  have shown : a.display .letter = .ok "0.0".toList := by decide +kernel
  exact ⟨by decide, same, by decide +kernel, shown, (display .letter).symm.trans shown,
    (apply .divide a).1⟩

end Quantity

end SignificantFigures
