import SignificantFigures.Proofs.Quantity.Literal
import SignificantFigures.Proofs.Quantity.Shown

/-!
The precision that displayed text is read with. It is the precision of the quantity, except where
the digits are those of a size that falls short of its leading digit: the leading digit is that of
the shortest decimal, the digits are those of the exact size, and only the text of an integer with a
last place above the units is read again before it is chosen. An overshot magnitude has a precision
of one figure less, and may be read with it or with all its digits.
-/

set_option autoImplicit false

namespace SignificantFigures.Quantity

open Double Double.Finite Numeral Rational

/-- A quantity whose digits are written down to its last place and fall short of its leading digit.
-/
def FallsShort (q : Quantity) : Prop :=
  match q.lastPlace with
  | .exact => False
  | .place place => place ≤ 0 ∧ q.magnitude.FallsShort place

instance (q : Quantity) : Decidable q.FallsShort :=
  match q with
  | ⟨_, .exact⟩ => isFalse not_false
  | ⟨magnitude, .place place⟩ =>
    inferInstanceAs (Decidable (place ≤ 0 ∧ magnitude.FallsShort place))

section Read

variable [PowersOfTen]

/-- A numeral that is read with a number of figures. -/
private def ReadsWith (n : Numeral) (count : Int) : Prop :=
  ∃ q, ofLiteral? n.text = some q ∧ q.precision = .figures count

/-- Digits that stay in the range of doubles are all read. -/
private theorem readsWith_placed {negative : Bool} {units places : Nat} {exponent : Option Nat}
    (nonzero : units ≠ 0) (last : places = 0 → units % 10 ≠ 0)
    (inside : roundedSize ((units : Rat) * (10 : Rat) ^ ((exponent.getD 0 : Int) - places)) <
      sizeLimit) :
    ReadsWith (placed negative units places exponent) (digitCount units) := by
  have wf := placed_wellFormed negative units places exponent
  obtain ⟨q, read, precision⟩ :=
    exists_ofLiteral? wf rfl (dropZeros_placed_ne_nil nonzero) (by rwa [placed_value])
  refine ⟨q, read, ?_⟩
  rw [precision, placed, Mantissa.figures_placed places units nonzero last]
  rfl

section Cases

variable {v : Double.Finite} {place : Int} (positive : 0 < v.size)

include positive

/-- Up to the units the shown units are read with all their digits. -/
private theorem readsWith_fraction {places : Nat}
    (ends : -(places : Int) ≤ (Decimal.shortest v).exponent)
    (units : places = 0 → v.isMultipleOfTen = false) :
    ReadsWith (placed v.negative (v.shownUnits places) places none)
      (digitCount (v.shownUnits places)) := by
  have nonzero := shownUnits_ne_zero positive (ends.trans (exponent_le_leading _))
  refine readsWith_placed nonzero ?_ ?_
  · -- an integer that is no multiple of ten
    rintro rfl multiple
    obtain ⟨n, size⟩ := exists_size_eq_natCast positive ends (by simp)
    rw [shownUnits_of_size_eq size] at multiple
    rw [isMultipleOfTen_of_size_eq size multiple] at units
    exact nomatch units rfl
  · rw [Option.getD_none, Nat.cast_zero, zero_sub]
    refine roundedSize_lt_sizeLimit ?_ (shownUnits_lt_rangeEnd v places)
    exact mul_nonneg (Nat.cast_nonneg _) (ten_zpow_pos _).le

/-- With a point behind them the units are read with all their digits. -/
private theorem readsWith_withPoint (ends : 0 ≤ (Decimal.shortest v).exponent) :
    ReadsWith (withPoint v.negative (v.shownUnits 0)) (digitCount (v.shownUnits 0)) := by
  have nonzero : v.shownUnits 0 ≠ 0 :=
    shownUnits_ne_zero positive (by simpa using ends.trans (exponent_le_leading _))
  have inside : roundedSize (withPoint v.negative (v.shownUnits 0)).value.size < sizeLimit := by
    refine roundedSize_lt_sizeLimit (Decimal.size_nonneg _) ?_
    rw [withPoint_value]
    exact shownUnits_lt_rangeEnd v 0
  obtain ⟨q, read, precision⟩ := exists_ofLiteral? (withPoint_wellFormed ..) rfl
    (dropZeros_withPoint_ne_nil _ nonzero) inside
  refine ⟨q, read, ?_⟩
  rw [precision, figures_withPoint _ nonzero]
  rfl

omit positive in
/-- The text of an integer is chosen where it is read with the precision. -/
private theorem readsWith_whole {n : Numeral}
    (agrees : readsWithPrecision ⟨v, .place place⟩ n.text = true) :
    ReadsWith n (v.decade - place + 1) := by
  rw [readsWithPrecision, beq_iff_eq, Option.map_eq_some_iff] at agrees
  exact agrees

private theorem readsWith_scientific {m : Double.Finite} {places exponent : Nat}
    (mantissa : m.IsMantissaOf v) (ends : place ≤ (Decimal.shortest v).exponent)
    (places_eq : (places : Int) = v.leading - place) (exponent_eq : (exponent : Int) = v.leading) :
    ReadsWith (placed v.negative (m.shownUnits places) places (some exponent))
      (v.leading - place + 1) := by
  have count := mantissa.digitCount_shownUnits ends places_eq
  have count_eq : v.leading - place + 1 = (digitCount (m.shownUnits places) : Int) := by omega
  have nonzero : m.shownUnits places ≠ 0 := mantissa.shownUnits_ne_zero
  rw [count_eq]
  refine readsWith_placed nonzero ?_ ?_
  · -- a single digit that is not zero
    intro single
    have digit : m.shownUnits places < 10 ^ 1 := (digitCount_le_iff (by decide)).mp (by omega)
    omega
  · rw [Option.getD_some, exponent_eq]
    exact mantissa.roundedSize_scientific_lt positive ends places_eq

end Cases

namespace Shows

variable {v : Double.Finite} {place : Int} {n : Numeral} (shown : Shows v place n)
  (positive : 0 < v.size) (ends : place ≤ (Decimal.shortest v).exponent)

include shown positive ends

/-- Up to the units the text is read with the digits that it shows. -/
private theorem readsWith_shownUnits {places : Nat} (below : place = -(places : Int)) :
    ReadsWith n (digitCount (v.shownUnits places)) := by
  cases shown with
  | fraction places' below' units =>
    obtain rfl : places = places' := by omega
    exact readsWith_fraction positive (by omega) units
  | withPoint units =>
    obtain rfl : places = 0 := by omega
    exact readsWith_withPoint positive (by omega)
  | whole above | scientific above => omega

private theorem readsWith_of_reached (below : place ≤ 0) (reached : ¬ v.FallsShort place) :
    ReadsWith n (v.leading - place + 1) := by
  obtain ⟨places, places_eq⟩ := Int.eq_ofNat_of_zero_le (neg_nonneg.mpr below)
  obtain rfl : place = -(places : Int) := by omega
  have read := shown.readsWith_shownUnits positive ends rfl
  rwa [digitCount_shownUnits positive ends reached, ← sub_neg_eq_add v.leading] at read

private theorem readsWith_of_fallsShort (below : place ≤ 0) (short : v.FallsShort place) :
    ReadsWith n (v.leading - place) := by
  obtain ⟨places, places_eq⟩ := Int.eq_ofNat_of_zero_le (neg_nonneg.mpr below)
  obtain rfl : place = -(places : Int) := by omega
  have read := shown.readsWith_shownUnits positive ends rfl
  rwa [digitCount_shownUnits_of_fallsShort positive ends short, ← sub_neg_eq_add] at read

/-- Above the units the text is read with the precision, or it is ten with the decade. -/
private theorem readsWith_of_above [PowersOfTen.Close] (above : 0 < place) :
    ReadsWith n (v.decade - place + 1) ∨
      (v.Overshot ∧ ReadsWith n (v.decade - place + 2)) := by
  cases shown with
  | fraction | withPoint => omega
  | whole _ agrees => exact Or.inl (readsWith_whole agrees)
  | @scientific m places exponent _ found places_eq exponent_eq =>
    by_cases overshot : v.Overshot
    · have read : ofLiteral? (placed v.negative (10 ^ (places + 1)) places (some exponent)).text =
          _ := ofLiteral?_ten overshot exponent_eq
      rw [eq_ten_of_overshot found overshot, shownUnits_ten]
      rcases Nat.eq_zero_or_pos places with rfl | some
      · refine Or.inl ⟨_, read, ?_⟩
        rw [precision_ofPrecision, if_pos rfl, ← places_eq]
        rfl
      · refine Or.inr ⟨overshot, _, read, ?_⟩
        rw [precision_ofPrecision, if_neg some.ne', ← places_eq]
        rfl
    · have mantissa := isMantissaOf_of_reached found positive overshot
      rw [decade_eq_leading overshot] at places_eq exponent_eq ⊢
      exact Or.inl (readsWith_scientific positive mantissa ends places_eq exponent_eq)

/-- The precision that the text is read with, in the cases that there are. -/
private theorem exists_precision [PowersOfTen.Close] :
    ∃ q, ofLiteral? n.text = some q ∧
      (¬ v.Overshot →
        (¬ FallsShort ⟨v, .place place⟩ → q.precision = .figures (v.decade - place + 1)) ∧
        (FallsShort ⟨v, .place place⟩ → q.precision = .figures (v.decade - place))) ∧
      (v.Overshot →
        (FallsShort ⟨v, .place place⟩ → q.precision = .figures (v.decade - place + 1)) ∧
        (¬ FallsShort ⟨v, .place place⟩ → q.precision = .figures (v.decade - place + 1) ∨
          q.precision = .figures (v.decade - place + 2))) := by
  have leading_of_overshot (overshot : v.Overshot) : v.leading = v.decade + 1 := by
    rw [overshot.decade_eq, sub_add_cancel]
  rcases le_or_gt place 0 with below | above
  · by_cases short : v.FallsShort place
    · obtain ⟨q, read, precision⟩ := shown.readsWith_of_fallsShort positive ends below short
      have falls : FallsShort ⟨v, .place place⟩ := ⟨below, short⟩
      refine ⟨q, read, fun reached => ⟨fun full => absurd falls full, fun _ => ?_⟩,
        fun overshot => ⟨fun _ => ?_, fun full => absurd falls full⟩⟩
      · rw [precision, decade_eq_leading reached]
      · rw [precision, leading_of_overshot overshot, sub_add_eq_add_sub]
    · obtain ⟨q, read, precision⟩ := shown.readsWith_of_reached positive ends below short
      have full : ¬ FallsShort ⟨v, .place place⟩ := fun falls => short falls.2
      refine ⟨q, read, fun reached => ⟨fun _ => ?_, fun falls => absurd falls full⟩,
        fun overshot => ⟨fun falls => absurd falls full, fun _ => Or.inr ?_⟩⟩
      · rw [precision, decade_eq_leading reached]
      · rw [precision, leading_of_overshot overshot, ← sub_add_eq_add_sub, add_assoc]
        rfl
  · have full : ¬ FallsShort ⟨v, .place place⟩ := fun falls => absurd falls.1 (not_le.mpr above)
    rcases shown.readsWith_of_above positive ends above with
      ⟨q, read, precision⟩ | ⟨overshot, q, read, precision⟩
    · exact ⟨q, read, fun _ => ⟨fun _ => precision, fun falls => absurd falls full⟩,
        fun _ => ⟨fun _ => precision, fun _ => Or.inl precision⟩⟩
    · exact ⟨q, read, fun reached => absurd overshot reached,
        fun _ => ⟨fun falls => absurd falls full, fun _ => Or.inr precision⟩⟩

end Shows

/-- Displayed text is read as a quantity with the precision that the displayed one has, unless the
rounded magnitude falls short of its leading digit, and then with one figure less: for every magnitude
but zero and any number of figures, unless rounding left the range of doubles. Where the rounded
magnitude is overshot, the text is read with the precision if the magnitude falls short, and
otherwise with the precision or one figure more. -/
theorem display_precision [PowersOfTen.Close] (x : Quantity) (count : Int) (text : List Char)
    (figures : x.precision = .figures count) (least : 1 ≤ count)
    (nonzero : x.magnitude.isZero = false)
    (finite : ∀ place, x.lastPlace = .place place → (x.magnitude.roundedTo place).isFinite = true)
    (shown : x.display .letter = .ok text) :
    ∃ r q, x.rounded = .ok r ∧ ofLiteral? text = some q ∧
      (¬ r.magnitude.Overshot →
        (¬ r.FallsShort → q.precision = x.precision) ∧
        (r.FallsShort → q.precision = .figures (count - 1))) ∧
      (r.magnitude.Overshot →
        (r.FallsShort → q.precision = x.precision) ∧
        (¬ r.FallsShort → q.precision = x.precision ∨ q.precision = .figures (count + 1))) := by
  obtain ⟨form, laid, -⟩ := Except.bind_eq_ok_iff.mp shown
  obtain ⟨r, rounded, -⟩ := Except.bind_eq_ok_iff.mp laid
  cases place_eq : x.lastPlace with
  | exact =>
    simp only [precision, place_eq, reduceCtorEq] at figures
  | place place =>
    obtain ⟨last, form, positive, ends⟩ := settled_of_figures figures least place_eq
      (isZero_eq_false_iff.mp nonzero) (finite place place_eq) rounded
    obtain ⟨v, lastPlace⟩ := r
    obtain rfl : lastPlace = .place last := congrArg Quantity.lastPlace form
    have count_eq : v.decade - last + 1 = count :=
      Precision.figures.inj ((precision_rounded figures least rounded).trans figures)
    obtain ⟨n, shows, shown'⟩ := exists_shows (rounded_rounded rounded) positive
      fun _ => by omega
    rw [display_rounded rounded] at shown'
    obtain rfl := Except.ok.inj (shown'.symm.trans shown)
    obtain ⟨q, read, same, other⟩ := shows.exists_precision positive ends
    refine ⟨_, q, rounded, read, fun reached => ?_, fun overshot => ?_⟩
    · rw [figures, ← count_eq, add_sub_cancel_right]
      exact same reached
    · rw [figures, ← count_eq, add_assoc]
      exact other overshot

end Read

/-- The double nearest to 1204 to the tens is displayed as 1.20e3, which is read with three figures.
-/
theorem display_precision_scientific :
    let x : Quantity := ⟨⟨false, 5295247999369216, -42, by decide⟩, .place 1⟩
    x.precision = .figures 3 ∧ x.display .letter = .ok "1.20e3".toList ∧
      ∃ q, ofLiteral? "1.20e3".toList = some q ∧ q.precision = x.precision := by
  intro x
  have figures : x.precision = .figures 3 := by decide +kernel
  have shown : x.display .letter = .ok "1.20e3".toList := by decide +kernel
  have finite : ∀ place, x.lastPlace = .place place →
      (x.magnitude.roundedTo place).isFinite = true := by
    intro place place_eq
    obtain rfl := LastPlace.place.inj place_eq
    decide +kernel
  have computed : x.rounded = .ok ⟨⟨false, 5277655813324800, -42, by decide⟩, .place 1⟩ := by
    decide +kernel
  obtain ⟨r, q, rounded, read, same, -⟩ :=
    display_precision x 3 _ figures (by decide) (by decide) finite shown
  obtain rfl := Except.ok.inj (computed.symm.trans rounded)
  have reached : ¬ Overshot ⟨false, 5277655813324800, -42, by decide⟩ := by decide +kernel
  exact ⟨figures, shown, q, read, (same reached).1 fun short => absurd short.1 (by decide)⟩

/-- The double nearest to `10 ^ 24` is 16777216 less and falls short. With 26 figures it has 24
digits in front of the point and one behind in its text, and these are read as 25 figures. -/
theorem display_precision_lost :
    let x : Quantity := ⟨⟨false, 7450580596923828, 27, by decide⟩, .place (-1)⟩
    x.precision = .figures 26 ∧ x.magnitude.isZero = false ∧
      (x.magnitude.roundedTo (-1)).isFinite = true ∧ x.rounded = .ok x ∧ x.FallsShort ∧
      x.display .letter = .ok "999999999999999983222784.0".toList ∧
      (ofLiteral? "999999999999999983222784.0".toList).map precision = some (.figures 25) := by
  intro x
  refine ⟨?_, ?_, ?_, ?_, ?_, ?_, ?_⟩ <;> decide +kernel

end SignificantFigures.Quantity
