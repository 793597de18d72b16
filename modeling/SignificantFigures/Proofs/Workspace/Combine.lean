import SignificantFigures.Proofs.Quantity.Arithmetic
import SignificantFigures.Proofs.Workspace.Step

/-!
How a step ends that combines two quantities of a workspace, and what it leaves.
-/

set_option autoImplicit false

namespace SignificantFigures.Workspace

open Double (rangeEnd)
open Quantity (Operation apply_of_infinite buildAtPlace ofExact ofPrecision)

/-- A step that combines two quantities fails with a zero divisor and with a result past the end of the
range of doubles, and with nothing else. How it fails with a zero divisor depends on whether the
dividend can be named, and past the end of the range on whether the result has figures. Otherwise the
step adds the double nearest to the result. No quantity of the workspace changes. -/
theorem combine_ends [PowersOfTen] {w : Workspace} {x y : String} {a b : Quantity}
    (operation : Operation) (target : String) (left : w.quantity? x = some a)
    (right : w.quantity? y = some b) :
    let ends := w.perform (.combine operation (.name x) (.name y) target)
    let unrounded := operation.unrounded a.magnitude.value b.magnitude.value
    let result := operation.result a.magnitude b.magnitude
    (ends = (.error (.quantity (.divisionByZero a)), w) ↔
      operation.DividesByZero b ∧ a.Writable) ∧
    (ends = (.error (.quantity .unwritable), w) ↔ operation.DividesByZero b ∧ ¬ a.Writable) ∧
    (ends = (.error (.quantity (.notFinite result)), w) ↔
      ¬ operation.DividesByZero b ∧ rangeEnd ≤ |unrounded| ∧ ¬ operation.LacksFigures a b) ∧
    (ends = (.error (.quantity .tooGreat), w) ↔
      ¬ operation.DividesByZero b ∧ rangeEnd ≤ |unrounded| ∧ operation.LacksFigures a b) ∧
    ((∃ r n, ends = (.ok (.state r), w.add target r) ∧ result = .finite r.magnitude ∧
        Double.nearest unrounded = .finite n ∧ r.magnitude.same n = true) ↔
      ¬ operation.DividesByZero b ∧ |unrounded| < rangeEnd) ∧
    ∀ (i : Nat) (q : Quantity), w.quantities[i]? = some q → ends.2.quantities[i]? = some q := by
  intro ends unrounded result
  have performed : ends = _ := perform_combine operation target left right
  have ended := Quantity.ends_apply operation a b
  generalize operation.apply a b = applied at performed ended
  -- The conditions of the five ways exclude each other, so each way makes one equivalence true.
  cases ended with
  | divided zero writable => simp [performed, zero, writable]
  | unwritable zero long => simp [performed, zero, long]
  | overflowed nonzero past figures =>
    have outside : rangeEnd ≤ |unrounded| := past
    simp [performed, nonzero, outside, not_lt.mpr outside, figures, result]
  | undecided nonzero past lacks =>
    have outside : rangeEnd ≤ |unrounded| := past
    simp [performed, nonzero, outside, not_lt.mpr outside, lacks]
  | @finished nonzero inside r finite nearest =>
    have below : |unrounded| < rangeEnd := inside
    obtain ⟨n, nearest, same⟩ := nearest
    have added : ∃ r n, ends = (.ok (.state r), w.add target r) ∧ result = .finite r.magnitude ∧
        Double.nearest unrounded = .finite n ∧ r.magnitude.same n = true :=
      ⟨r, n, performed, finite, nearest, same⟩
    have kept (i : Nat) (q : Quantity) (stands : w.quantities[i]? = some q) :
        (w.add target r).quantities[i]? = some q :=
      (List.getElem?_append_left (List.getElem?_eq_some_iff.mp stands).1).trans stands
    refine ⟨?_, ?_, ?_, ?_, iff_of_true added ⟨nonzero, below⟩, performed ▸ kept⟩
    · simp [performed, nonzero]
    · simp [performed, nonzero]
    · simp [performed, not_le.mpr below]
    · simp [performed, not_le.mpr below]

/-- `1e200` with three figures, divided by `1e-200`. -/
theorem combine_ends_overflow :
    let great : Quantity := ofPrecision ⟨false, 5883593420661338, 612, by decide⟩ (.figures 3)
    let small : Quantity := ofExact ⟨false, 6894565328877484, -717, by decide⟩
    let w := (empty.add "x" great).add "y" small
    w.quantity? "x" = some great ∧ w.quantity? "y" = some small ∧
      w.perform (.combine .divide (.name "x") (.name "y") "z") =
        (.error (.quantity (.notFinite (.infinite false))), w) := by
  intro great small w
  have left : w.quantity? "x" = some great := by decide +kernel
  have right : w.quantity? "y" = some small := by decide +kernel
  have nonzero : ¬ Operation.divide.DividesByZero small := by
    rintro ⟨-, zero⟩
    exact absurd zero (by decide +kernel)
  have figures : ¬ Operation.divide.LacksFigures great small := by
    rintro ⟨-, count, below, lowest⟩
    have three : great.precision.lower small.precision = .figures 3 := by decide +kernel
    obtain rfl := Precision.figures.inj (three.symm.trans lowest)
    exact absurd below (by decide)
  have past : rangeEnd ≤ |Operation.divide.unrounded great.magnitude.value small.magnitude.value| := by
    decide +kernel
  have infinite : Operation.divide.result great.magnitude small.magnitude = .infinite false := by
    decide +kernel
  obtain ⟨-, -, overflows, -⟩ := combine_ends .divide "z" left right
  exact ⟨left, right, infinite ▸ overflows.mpr ⟨nonzero, past, figures⟩⟩

/-- The square of `1e200` to a place above its decade is infinite, but the step does not fail for
that: it asks for the decade of the result first. -/
theorem combine_ends_undecided :
    let x : Quantity := ⟨⟨false, 5883593420661338, 612, by decide⟩, .place 201⟩
    let w := empty.add "x" x
    buildAtPlace (.double (.finite x.magnitude)) (.integer 201) = .ok x ∧
      x.precision = .figures 0 ∧ w.quantity? "x" = some x ∧
      Operation.multiply.result x.magnitude x.magnitude = .infinite false ∧
      w.perform (.combine .multiply (.name "x") (.name "x") "y") =
        (.error (.quantity .tooGreat), w) := by
  intro x w
  have found : w.quantity? "x" = some x := by decide +kernel
  have none : x.precision = .figures 0 := by decide +kernel
  have infinite : Operation.multiply.result x.magnitude x.magnitude = .infinite false := by
    decide +kernel
  have nonzero : ¬ Operation.multiply.DividesByZero x := by
    rintro ⟨same, -⟩
    exact absurd same (by decide)
  have lacks : Operation.multiply.LacksFigures x x := by
    refine ⟨Or.inl rfl, 0, by decide, ?_⟩
    rw [none]
    rfl
  have applied : Operation.multiply.apply x x = .error .tooGreat :=
    (apply_of_infinite nonzero infinite).1 lacks
  refine ⟨rfl, none, found, infinite, ?_⟩
  rw [perform_combine .multiply "y" found found, applied]

end SignificantFigures.Workspace
