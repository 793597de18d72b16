import SignificantFigures.Decade

/-!
Quantities: a magnitude and the decimal place of its last significant figure. The number of
significant figures is not kept beside it: it is the distance from the magnitude's decade down to
that place, so the two always agree. An exact quantity has no last place and no bound on its
figures.
-/

set_option autoImplicit false

namespace SignificantFigures

/-- The place of the last significant figure; an exact number has none. -/
inductive LastPlace where
  | exact
  | place (exponent : Int)
  deriving DecidableEq

/-- A number of significant figures; an exact number has no bound. -/
inductive Precision where
  | exact
  | figures (count : Int)
  deriving DecidableEq

/-- The coarser of two places. -/
def LastPlace.coarser : LastPlace → LastPlace → LastPlace
  | exact, other => other
  | other, exact => other
  | place a, place b => place (max a b)

/-- The lower of two precisions. -/
def Precision.lower : Precision → Precision → Precision
  | exact, other => other
  | other, exact => other
  | figures a, figures b => figures (min a b)

namespace LastPlace

theorem coarser_comm (a b : LastPlace) : a.coarser b = b.coarser a := by
  cases a <;> cases b <;> simp [coarser, Int.max_comm]

theorem coarser_eq_exact {a b : LastPlace} : a.coarser b = exact ↔ a = exact ∧ b = exact := by
  cases a <;> cases b <;> simp [coarser]

end LastPlace

namespace Precision

theorem lower_comm (a b : Precision) : a.lower b = b.lower a := by
  cases a <;> cases b <;> simp [lower, Int.min_comm]

theorem lower_eq_exact {a b : Precision} : a.lower b = exact ↔ a = exact ∧ b = exact := by
  cases a <;> cases b <;> simp [lower]

end Precision

/-- A finite magnitude with the place of its last significant figure. -/
structure Quantity where
  magnitude : Double.Finite
  lastPlace : LastPlace
  deriving DecidableEq

namespace Quantity

variable [PowersOfTen]

/-- The place at which a magnitude has the given precision. -/
def placeFor (magnitude : Double.Finite) : Precision → LastPlace
  | .exact => .exact
  | .figures count => .place (magnitude.decade - count + 1)

/-- The number of significant figures: from the decade of the magnitude down to the last place. -/
def precision (q : Quantity) : Precision :=
  match q.lastPlace with
  | .exact => .exact
  | .place exponent => .figures (q.magnitude.decade - exponent + 1)

/-- The quantity of a magnitude and a precision. -/
def ofPrecision (magnitude : Double.Finite) (precision : Precision) : Quantity :=
  ⟨magnitude, placeFor magnitude precision⟩

def ofExact (magnitude : Double.Finite) : Quantity :=
  ⟨magnitude, .exact⟩

theorem precision_eq_exact {q : Quantity} : q.precision = .exact ↔ q.lastPlace = .exact := by
  unfold precision
  cases q.lastPlace <;> simp

/-- A quantity built with a precision has it. -/
@[simp] theorem precision_ofPrecision (magnitude : Double.Finite) (p : Precision) :
    (ofPrecision magnitude p).precision = p := by
  cases p with
  | exact => rfl
  | figures count =>
    simp only [ofPrecision, placeFor, precision, Precision.figures.injEq]
    omega

/-- Magnitude and precision determine the last place. -/
@[simp] theorem ofPrecision_precision (q : Quantity) : ofPrecision q.magnitude q.precision = q := by
  obtain ⟨magnitude, lastPlace⟩ := q
  cases lastPlace with
  | exact => rfl
  | place exponent =>
    simp only [ofPrecision, placeFor, precision, Quantity.mk.injEq, LastPlace.place.injEq, true_and]
    omega

def isExact (q : Quantity) : Bool :=
  q.lastPlace == .exact

/-- Equality of value and last place; the two zeros are one. -/
def same (a b : Quantity) : Bool :=
  a.magnitude.same b.magnitude && a.lastPlace == b.lastPlace

end Quantity

end SignificantFigures
