import SignificantFigures.Quantity.Display
import SignificantFigures.Proofs.Decade
import SignificantFigures.Proofs.Except
import SignificantFigures.Proofs.Double.Places

/-!
Rounding a quantity settles it: the rounded quantity is rounded to itself, keeps the precision where
there was at least one figure and the last place elsewhere, and is displayed with the same text.
-/

set_option autoImplicit false

namespace SignificantFigures

theorem Decimal.checkPlace_eq_ok_iff {place : Int} :
    checkPlace place = .ok () ↔ place.natAbs ≤ shiftLimit ∧ place ≤ leadingLimit := by
  unfold checkPlace
  by_cases far : shiftLimit < place.natAbs
  · rw [if_pos far]
    exact ⟨fun h => (nomatch h), fun h => absurd far (by omega)⟩
  by_cases great : leadingLimit < place
  · rw [if_neg far, if_pos great]
    exact ⟨fun h => (nomatch h), fun h => absurd great (by omega)⟩
  · rw [if_neg far, if_neg great]
    exact ⟨fun _ => ⟨by omega, by omega⟩, fun _ => rfl⟩

theorem Double.exists_of_isFinite {d : Double} (finite : d.isFinite = true) :
    ∃ v, d = .finite v := by
  cases d with
  | finite v => exact ⟨v, rfl⟩
  | infinite negative => exact nomatch finite
  | nan => exact nomatch finite

namespace Double.Finite

variable [PowersOfTen] [PowersOfTen.Close] {x v : Finite} {place : Int}

/-- The result of rounding at a place within the figures ends at the place that has moved with the
decade. It moves down only where the place is above the last digit, since otherwise nothing is
rounded. -/
theorem le_exponent_of_roundedTo_of_le_decade (positive : 0 < x.size)
    (rounded : x.roundedTo place = .finite v) (inside : place ≤ x.decade) :
    0 < v.size ∧ place + (v.decade - x.decade) ≤ (Decimal.shortest v).exponent ∧
      (place ≤ place + (v.decade - x.decade) ∨ -324 ≤ place + (v.decade - x.decade)) := by
  rcases le_or_gt place (Decimal.shortest x).exponent with fine | coarse
  · rw [roundedTo_of_le_exponent positive fine] at rounded
    obtain rfl := Double.finite.inj rounded
    rw [sub_self, add_zero]
    exact ⟨positive, fine, Or.inl le_rfl⟩
  · have reached : ¬ x.Overshot := by
      intro overshot
      have ends := overshot.shortest_exponent
      have lower := overshot.decade_eq
      omega
    have same := decade_eq_leading reached
    obtain ⟨nonzero, low, high, ends⟩ :=
      le_exponent_of_roundedTo_of_le_leading positive rounded (by omega)
    have least := Decimal.neg_324_le_shortest_exponent positive
    have most := v.decade_le_leading
    have fewest := v.leading_sub_one_le_decade
    exact ⟨nonzero, by omega, Or.inr (by omega)⟩

end Double.Finite

namespace Quantity

open Double.Finite
open PowersOfTen (Close)

/-- A magnitude and a last place that rounding at the place does not change. -/
def Settled (magnitude : Double.Finite) (place : Int) : Prop :=
  magnitude = Double.Finite.zero false ∨
    (0 < magnitude.size ∧ place ≤ (Decimal.shortest magnitude).exponent)

section Rounded

variable [PowersOfTen] {q r : Quantity} {magnitude : Double.Finite} {place : Int}

omit [PowersOfTen] in
theorem Settled.roundedTo (settled : Settled magnitude place) :
    magnitude.roundedTo place = .finite magnitude := by
  rcases settled with rfl | ⟨positive, ends⟩
  · exact roundedTo_of_size_eq_zero (size_zero false) place
  · exact roundedTo_of_le_exponent positive ends

@[simp] theorem withFigures_self (magnitude : Double.Finite) (place : Int) :
    withFigures magnitude place (magnitude.decade - place + 1) = ⟨magnitude, .place place⟩ := by
  unfold withFigures
  split_ifs
  · rfl
  · simp only [ofPrecision, placeFor, Quantity.mk.injEq, LastPlace.place.injEq, true_and]
    omega

theorem rounded_place_eq_ok_iff :
    (⟨magnitude, .place place⟩ : Quantity).rounded = .ok r ↔
      Decimal.checkPlace place = .ok () ∧
      r = withFigures (roundedMagnitude magnitude place) place (magnitude.decade - place + 1) := by
  simp only [rounded, Except.map_eq_ok_iff]
  constructor
  · rintro ⟨_, range, rfl⟩
    exact ⟨range, rfl⟩
  · rintro ⟨range, rfl⟩
    exact ⟨(), range, rfl⟩

theorem eq_of_rounded_exact (exact : q.lastPlace = .exact) (rounded : q.rounded = .ok r) :
    r = q := by
  simp only [Quantity.rounded, exact, Except.ok.injEq] at rounded
  exact rounded.symm

theorem Settled.rounded (settled : Settled magnitude place)
    (range : Decimal.checkPlace place = .ok ()) :
    (⟨magnitude, .place place⟩ : Quantity).rounded = .ok ⟨magnitude, .place place⟩ := by
  rw [rounded_place_eq_ok_iff, roundedMagnitude, settled.roundedTo, withFigures_self]
  exact ⟨range, rfl⟩

omit [PowersOfTen] in
private theorem settled_of_roundedTo {v : Double.Finite} (positive : 0 < magnitude.size)
    (rounded : magnitude.roundedTo place = .finite v) : Settled v place := by
  rcases roundedTo_spec positive rounded with ⟨rfl, -⟩ | ⟨-, nonzero, -⟩
  · exact Or.inl rfl
  · exact Or.inr ⟨nonzero, le_exponent_of_roundedTo positive rounded nonzero⟩

/-- A rounded quantity is settled unless rounding left the range of doubles. -/
theorem settled_of_rounded [Close] (place_eq : q.lastPlace = .place place)
    (finite : (q.magnitude.roundedTo place).isFinite = true) (rounded : q.rounded = .ok r) :
    ∃ last, r = ⟨r.magnitude, .place last⟩ ∧ Decimal.checkPlace last = .ok () ∧
      Settled r.magnitude last := by
  obtain ⟨magnitude, lastPlace⟩ := q
  obtain rfl : lastPlace = .place place := place_eq
  obtain ⟨range, result⟩ := rounded_place_eq_ok_iff.mp rounded
  obtain ⟨v, found⟩ := Double.exists_of_isFinite finite
  rw [roundedMagnitude, found] at result
  dsimp only at result
  rcases magnitude.size_nonneg.eq_or_lt with zero | positive
  · -- a zero is rounded to zero, and its decade is that of zero
    rw [roundedTo_of_size_eq_zero zero.symm] at found
    obtain rfl := Double.finite.inj found
    rw [decade_of_size_eq_zero zero.symm, ← decade_of_size_eq_zero (size_zero false),
      withFigures_self] at result
    subst result
    exact ⟨place, rfl, range, Or.inl rfl⟩
  · by_cases figures : magnitude.decade - place + 1 < 1
    · rw [withFigures, if_pos figures] at result
      subst result
      exact ⟨place, rfl, range, settled_of_roundedTo positive found⟩
    · obtain ⟨nonzero, ends, low⟩ :=
        le_exponent_of_roundedTo_of_le_decade positive found (by omega)
      rw [withFigures, if_neg figures, ofPrecision, placeFor] at result
      subst result
      have greatest := v.leading_le
      have inside := exponent_le_leading v
      have moved : v.decade - (magnitude.decade - place + 1) + 1 =
          place + (v.decade - magnitude.decade) := by ring
      refine ⟨_, rfl, ?_, Or.inr ⟨nonzero, moved ▸ ends⟩⟩
      rw [Decimal.checkPlace_eq_ok_iff] at range ⊢
      simp only [Decimal.shiftLimit, Decimal.leadingLimit, Decimal.digitLimit] at range ⊢
      omega

@[simp] theorem withFigures_magnitude (rounded : Double.Finite) (place count : Int) :
    (withFigures rounded place count).magnitude = rounded := by
  unfold withFigures
  split_ifs <;> rfl

theorem roundedTo_of_rounded (place_eq : q.lastPlace = .place place)
    (finite : (q.magnitude.roundedTo place).isFinite = true) (rounded : q.rounded = .ok r) :
    q.magnitude.roundedTo place = .finite r.magnitude := by
  obtain ⟨magnitude, lastPlace⟩ := q
  obtain rfl : lastPlace = .place place := place_eq
  obtain ⟨-, result⟩ := rounded_place_eq_ok_iff.mp rounded
  obtain ⟨v, found⟩ := Double.exists_of_isFinite finite
  rw [result, withFigures_magnitude, roundedMagnitude, found]

/-- The magnitude of a rounded quantity that is not zero has the sign it had before, and was not
zero before. -/
theorem negative_of_rounded (place_eq : q.lastPlace = .place place)
    (finite : (q.magnitude.roundedTo place).isFinite = true) (rounded : q.rounded = .ok r)
    (nonzero : 0 < r.magnitude.size) :
    0 < q.magnitude.size ∧ r.magnitude.negative = q.magnitude.negative := by
  have found := roundedTo_of_rounded place_eq finite rounded
  rcases q.magnitude.size_nonneg.eq_or_lt with zero | positive
  · rw [roundedTo_of_size_eq_zero zero.symm] at found
    rw [← Double.finite.inj found, size_zero] at nonzero
    exact absurd nonzero (lt_irrefl _)
  · rcases roundedTo_spec positive found with ⟨none, -⟩ | ⟨sign, -, -⟩
    · rw [none, size_zero] at nonzero
      exact absurd nonzero (lt_irrefl _)
    · exact ⟨positive, sign⟩

/-- A magnitude with a figure is not rounded to zero, and the result ends at its last place. -/
theorem settled_of_figures [Close] {count : Int} (precision_eq : q.precision = .figures count)
    (figures : 1 ≤ count) (place_eq : q.lastPlace = .place place) (positive : 0 < q.magnitude.size)
    (finite : (q.magnitude.roundedTo place).isFinite = true) (rounded : q.rounded = .ok r) :
    ∃ last, r = ⟨r.magnitude, .place last⟩ ∧ 0 < r.magnitude.size ∧
      last ≤ (Decimal.shortest r.magnitude).exponent := by
  have inside : place ≤ q.magnitude.decade := by
    rw [precision, place_eq] at precision_eq
    have := Precision.figures.inj precision_eq
    omega
  obtain ⟨nonzero, -⟩ := le_exponent_of_roundedTo_of_le_decade positive
    (roundedTo_of_rounded place_eq finite rounded) inside
  obtain ⟨last, form, -, zero | ⟨-, ends⟩⟩ := settled_of_rounded place_eq finite rounded
  · rw [zero, size_zero] at nonzero
    exact absurd nonzero (lt_irrefl _)
  · exact ⟨last, form, nonzero, ends⟩

/-- Where rounding leaves the range of doubles the quantity stays as it is. -/
theorem eq_of_roundedTo_not_finite (place_eq : q.lastPlace = .place place)
    (infinite : (q.magnitude.roundedTo place).isFinite = false) (rounded : q.rounded = .ok r) :
    r = q := by
  obtain ⟨magnitude, lastPlace⟩ := q
  obtain rfl : lastPlace = .place place := place_eq
  obtain ⟨-, result⟩ := rounded_place_eq_ok_iff.mp rounded
  have kept : roundedMagnitude magnitude place = magnitude := by
    unfold roundedMagnitude
    cases h : magnitude.roundedTo place <;> simp_all [Double.isFinite]
  rwa [kept, withFigures_self] at result

theorem rounded_rounded [Close] (rounded : q.rounded = .ok r) : r.rounded = .ok r := by
  cases place_eq : q.lastPlace with
  | exact =>
    have same := eq_of_rounded_exact place_eq rounded
    rwa [same] at rounded ⊢
  | place place =>
    cases finite : (q.magnitude.roundedTo place).isFinite with
    | false =>
      have same := eq_of_roundedTo_not_finite place_eq finite rounded
      rwa [same] at rounded ⊢
    | true =>
      obtain ⟨last, form, range, settled⟩ := settled_of_rounded place_eq finite rounded
      rw [form]
      exact settled.rounded range

/-- A quantity and its rounding are displayed alike. -/
theorem display_rounded [Close] (rounded : q.rounded = .ok r) (style : ExponentStyle) :
    r.display style = q.display style := by
  simp only [display, layout, rounded, rounded_rounded rounded]

/-- Rounding keeps the precision where there is a figure. -/
theorem precision_rounded {count : Int} (precision_eq : q.precision = .figures count)
    (figures : 1 ≤ count) (rounded : q.rounded = .ok r) : r.precision = q.precision := by
  obtain ⟨magnitude, lastPlace⟩ := q
  cases lastPlace with
  | exact => exact nomatch precision_eq
  | place place =>
    obtain ⟨-, result⟩ := rounded_place_eq_ok_iff.mp rounded
    have count_eq := Precision.figures.inj precision_eq
    dsimp only at count_eq
    rw [withFigures, if_neg (by omega)] at result
    rw [result, precision_ofPrecision]
    rfl

private theorem lastPlace_rounded {count : Int} (precision_eq : q.precision = .figures count)
    (figures : count < 1) (rounded : q.rounded = .ok r) : r.lastPlace = q.lastPlace := by
  obtain ⟨magnitude, lastPlace⟩ := q
  cases lastPlace with
  | exact => exact nomatch precision_eq
  | place place =>
    obtain ⟨-, result⟩ := rounded_place_eq_ok_iff.mp rounded
    have count_eq := Precision.figures.inj precision_eq
    dsimp only at count_eq
    rw [withFigures, if_pos (by omega)] at result
    rw [result]

/-- Rounding settles a quantity: it is rounded to itself afterwards, an exact one is not changed,
the precision is kept where there is a figure and the last place where there is none, and the
display is that of the quantity before. -/
theorem rounded_settles [Close] (q r : Quantity) (rounded : q.rounded = .ok r) :
    r.rounded = .ok r ∧
    (q.lastPlace = .exact → r = q) ∧
    (∀ count, q.precision = .figures count → 1 ≤ count → r.precision = q.precision) ∧
    (∀ count, q.precision = .figures count → count < 1 → r.lastPlace = q.lastPlace) ∧
    ∀ style, r.display style = q.display style := by
  refine ⟨rounded_rounded rounded, ?_, ?_, ?_, display_rounded rounded⟩
  · intro exact
    exact eq_of_rounded_exact exact rounded
  · intro count precision_eq figures
    exact precision_rounded precision_eq figures rounded
  · intro count precision_eq figures
    exact lastPlace_rounded precision_eq figures rounded

end Rounded

/-- The double nearest to 9.96 with two figures carries into the next decade: it is rounded to ten,
whose last figure is the unit. -/
theorem rounded_settles_carry :
    let q : Quantity := ⟨⟨false, 5606981536076268, -49, by decide⟩, .place (-1)⟩
    let r : Quantity := ⟨⟨false, 5629499534213120, -49, by decide⟩, .place 0⟩
    q.rounded = .ok r ∧ r.rounded = .ok r ∧ r.precision = q.precision ∧
      r.display .letter = q.display .letter := by
  intro q r
  have rounded : q.rounded = .ok r := by decide +kernel
  have figures : q.precision = .figures 2 := by decide +kernel
  obtain ⟨again, -, kept, -, shown⟩ := rounded_settles q r rounded
  exact ⟨rounded, again, kept 2 figures (by decide), shown .letter⟩

end Quantity

end SignificantFigures
