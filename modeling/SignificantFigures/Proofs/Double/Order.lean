import SignificantFigures.Proofs.Double.Nearest

/-!
Doubles in the order of their values, between the two infinities. The nearest double keeps the order
of the rationals and changes sign with them, and where it is finite no finite double is closer.
-/

set_option autoImplicit false

namespace SignificantFigures.Double

/-- The opposite, of an infinity too. -/
def neg : Double → Double
  | finite x => .finite x.neg
  | infinite negative => .infinite (!negative)
  | nan => .nan

/-- Order by value, with the infinities at the ends. What is not a number is not in the order. -/
inductive AtMost : Double → Double → Prop
  | least {y : Double} (number : y ≠ .nan) : AtMost (.infinite true) y
  | greatest {x : Double} (number : x ≠ .nan) : AtMost x (.infinite false)
  | values {x y : Finite} (ordered : x.value ≤ y.value) : AtMost (.finite x) (.finite y)

namespace Finite

@[simp] theorem neg_value (x : Finite) : x.neg.value = -x.value := by
  cases sign : x.negative <;> simp [value, neg, size, sign]

theorem value_of_negative {x : Finite} (negative : x.negative = true) : x.value = -x.size :=
  if_pos negative

theorem value_of_nonneg {x : Finite} (nonneg : x.negative = false) : x.value = x.size :=
  if_neg (by simp [nonneg])

theorem abs_value (x : Finite) : |x.value| = x.size := by
  unfold value
  split_ifs
  · rw [abs_neg, abs_of_nonneg x.size_nonneg]
  · exact abs_of_nonneg x.size_nonneg

section Same

variable {x y : Finite}

theorem same_iff : x.same y = true ↔ x.value = y.value :=
  beq_iff_eq

theorem same_refl (x : Finite) : x.same x = true :=
  same_iff.mpr rfl

theorem value_of_isZero (zero : x.isZero = true) : x.value = 0 := by
  rw [value, isZero_iff.mp zero, neg_zero, ite_self]

theorem same_of_isZero (left : x.isZero = true) (right : y.isZero = true) : x.same y = true := by
  rw [same_iff, value_of_isZero left, value_of_isZero right]

theorem size_eq_of_same (same : x.same y = true) : x.size = y.size := by
  rw [← abs_value, ← abs_value, same_iff.mp same]

/-- Doubles of one value are one double or two zeros. -/
theorem eq_or_isZero_of_same (same : x.same y = true) :
    x = y ∨ (x.isZero = true ∧ y.isZero = true) := by
  have size := size_eq_of_same same
  rcases x.size_nonneg.eq_or_lt with zero | positive
  · exact Or.inr ⟨isZero_iff.mpr zero.symm, isZero_iff.mpr (size.symm.trans zero.symm)⟩
  · have value := same_iff.mp same
    refine Or.inl (eq_of_size ?_ size)
    cases left : x.negative <;> cases right : y.negative
    · rfl
    · rw [value_of_nonneg left, value_of_negative right] at value
      linarith
    · rw [value_of_negative left, value_of_nonneg right] at value
      linarith
    · rfl

end Same

end Finite

theorem neg_ne_nan {z : Double} (number : z ≠ .nan) : z.neg ≠ .nan := by
  cases z with
  | finite x => exact fun h => nomatch h
  | infinite negative => exact fun h => nomatch h
  | nan => exact absurd rfl number

theorem AtMost.neg {x y : Double} (ordered : x.AtMost y) : y.neg.AtMost x.neg := by
  cases ordered with
  | least number => exact .greatest (neg_ne_nan number)
  | greatest number => exact .least (neg_ne_nan number)
  | values ordered => exact .values (by simpa using ordered)

theorem ofSize_not (negative : Bool) (size : Rat) :
    ofSize (!negative) size = (ofSize negative size).neg := by
  have pack_not (significand : Nat) (exponent : Int) :
      pack (!negative) significand exponent = (pack negative significand exponent).neg := by
    unfold pack
    split <;> rfl
  unfold ofSize
  dsimp only
  split <;> exact pack_not _ _

theorem ofSize_ne_nan (negative : Bool) {size : Rat} (nonneg : 0 ≤ size) :
    ofSize negative size ≠ .nan := by
  rcases ofSize_spec negative nonneg with ⟨x, found, -⟩ | ⟨found, -⟩ <;>
    · rw [found]
      exact fun h => nomatch h

section Nearest

variable {p q : Rat}

theorem nearest_of_nonneg (nonneg : 0 ≤ q) : nearest q = ofSize false q :=
  if_neg (not_lt.mpr nonneg)

theorem nearest_of_neg (below : q < 0) : nearest q = ofSize true (-q) :=
  if_pos below

theorem nearest_zero : nearest 0 = .finite (.zero false) := by
  rw [nearest_of_nonneg le_rfl, ofSize_eq_finite_iff le_rfl, roundedSize_zero, Finite.size_zero]
  exact ⟨rfl, rfl⟩

/-- Both zeros are opposite, but only one is the nearest double to zero. -/
theorem nearest_neg (nonzero : q ≠ 0) : nearest (-q) = (nearest q).neg := by
  rcases lt_or_gt_of_ne nonzero with below | above
  · rw [nearest_of_nonneg (by linarith), nearest_of_neg below, ← ofSize_not]
    rfl
  · rw [nearest_of_neg (by linarith), nearest_of_nonneg above.le, ← ofSize_not, neg_neg]
    rfl

private theorem ofSize_atMost (nonneg : 0 ≤ p) (ordered : p ≤ q) :
    (ofSize false p).AtMost (ofSize false q) := by
  rcases ofSize_spec false (nonneg.trans ordered) with ⟨y, foundY, signY, sizeY⟩ | ⟨foundY, -⟩
  · have rounded := roundedSize_mono nonneg ordered
    rcases ofSize_spec false nonneg with ⟨x, foundX, signX, sizeX⟩ | ⟨-, limit⟩
    · rw [foundX, foundY]
      refine .values ?_
      rwa [Finite.value_of_nonneg signX, Finite.value_of_nonneg signY, sizeX, sizeY]
    · exact absurd (y.size_lt_sizeLimit.trans_le limit) (by rw [sizeY]; exact not_lt.mpr rounded)
  · rw [foundY]
    exact .greatest (ofSize_ne_nan false nonneg)

private theorem zero_atMost_ofSize (nonneg : 0 ≤ q) (x : Finite) (below : x.value ≤ 0) :
    (Double.finite x).AtMost (ofSize false q) := by
  rcases ofSize_spec false nonneg with ⟨y, found, sign, -⟩ | ⟨found, -⟩
  · rw [found]
    refine .values (below.trans ?_)
    rw [Finite.value_of_nonneg sign]
    exact y.size_nonneg
  · rw [found]
    exact .greatest (fun h => nomatch h)

/-- The nearest double keeps the order. -/
theorem nearest_mono (ordered : p ≤ q) : (nearest p).AtMost (nearest q) := by
  rcases lt_or_ge p 0 with below | above
  · rcases lt_or_ge q 0 with below' | above'
    · -- both lie below zero: the order of their opposites
      have reversed := (ofSize_atMost (neg_pos.mpr below').le (neg_le_neg ordered)).neg
      rwa [← ofSize_not, ← ofSize_not, Bool.not_false, ← nearest_of_neg below,
        ← nearest_of_neg below'] at reversed
    · rw [nearest_of_neg below, nearest_of_nonneg above']
      rcases ofSize_spec true (neg_pos.mpr below).le with ⟨x, found, sign, -⟩ | ⟨found, -⟩
      · rw [found]
        refine zero_atMost_ofSize above' x ?_
        rw [Finite.value_of_negative sign]
        exact neg_nonpos.mpr x.size_nonneg
      · rw [found]
        exact .least (ofSize_ne_nan false above')
  · rw [nearest_of_nonneg above, nearest_of_nonneg (above.trans ordered)]
    exact ofSize_atMost above ordered

private theorem abs_sub_le_of_ofSize {v : Finite} (nonneg : 0 ≤ q) (found : ofSize false q = .finite v)
    (z : Finite) : |v.value - q| ≤ |z.value - q| := by
  obtain ⟨sign, size⟩ := (ofSize_eq_finite_iff nonneg).mp found
  rw [Finite.value_of_nonneg sign, size]
  calc |roundedSize q - q| ≤ |z.size - q| := abs_roundedSize_sub_le nonneg (representable_size z)
    _ = |(|z.value| - |q|)| := by rw [Finite.abs_value, abs_of_nonneg nonneg]
    _ ≤ |z.value - q| := abs_abs_sub_abs_le z.value q

/-- No finite double is closer than the nearest one. -/
theorem abs_sub_le_of_nearest {v : Finite} (found : nearest q = .finite v) (z : Finite) :
    |v.value - q| ≤ |z.value - q| := by
  rcases lt_or_ge q 0 with below | above
  · have found' : ofSize false (-q) = .finite v.neg := by
      rw [nearest_of_neg below] at found
      rw [← Bool.not_true, ofSize_not, found]
      rfl
    have closer := abs_sub_le_of_ofSize (neg_pos.mpr below).le found' z.neg
    rwa [Finite.neg_value, Finite.neg_value, ← neg_sub', ← neg_sub', abs_neg, abs_neg] at closer
  · rw [nearest_of_nonneg above] at found
    exact abs_sub_le_of_ofSize above found z

end Nearest

end SignificantFigures.Double
