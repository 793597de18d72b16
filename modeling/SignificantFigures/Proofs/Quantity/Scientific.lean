import SignificantFigures.Proofs.Double.Mantissa
import SignificantFigures.Proofs.Numeral.Scientific
import SignificantFigures.Proofs.Quantity.Display

/-!
The scientific text of a quantity with figures. In front of the exponent stand as many figures as
the quantity has, however many these are: the mantissa that is written falls neither below one nor
reaches ten, also where rounding carries into the next decade or would leave the range of doubles.
Only where the rounded magnitude is overshot does it reach ten, and it is written with a digit more.
-/

set_option autoImplicit false

namespace SignificantFigures.Quantity

open Double.Finite Numeral Rational

theorem ExponentStyle.render_letter (exponent : Int) :
    letter.render exponent = exponentMark :: integerText exponent :=
  rfl

theorem ExponentStyle.render_superscript (exponent : Int) :
    superscript.render exponent = "<sup>".toList ++ integerText exponent ++ "</sup>".toList :=
  rfl

section Figures

variable [PowersOfTen] [PowersOfTen.Close] {q r : Quantity} {count : Int} {places : Nat}
  (figures : q.precision = .figures count) (least : 1 ≤ count)
  (nonzero : q.magnitude.isZero = false)

include figures least

omit [PowersOfTen.Close] in
theorem exists_lastPlace_of_figures :
    ∃ place, q.lastPlace = .place place ∧ place ≤ q.magnitude.decade := by
  cases place_eq : q.lastPlace with
  | exact => simp only [precision, place_eq, reduceCtorEq] at figures
  | place place =>
    rw [precision, place_eq] at figures
    have := Precision.figures.inj figures
    exact ⟨place, rfl, by omega⟩

include nonzero

/-- Where rounding does not leave the range of doubles, the shortest decimal of the rounded
magnitude ends at the last figure. -/
theorem ends_of_figures (rounded : q.rounded = .ok r)
    (finite : ∀ place, q.lastPlace = .place place → (q.magnitude.roundedTo place).isFinite = true) :
    0 < r.magnitude.size ∧ r.magnitude.negative = q.magnitude.negative ∧
      r.magnitude.decade - count + 1 ≤ (Decimal.shortest r.magnitude).exponent := by
  obtain ⟨place, place_eq, -⟩ := exists_lastPlace_of_figures figures least
  obtain ⟨last, form, positive, ends⟩ := settled_of_figures figures least place_eq
    (isZero_eq_false_iff.mp nonzero) (finite place place_eq) rounded
  have sign := (negative_of_rounded place_eq (finite place place_eq) rounded positive).2
  have kept := (precision_rounded figures least rounded).trans figures
  rw [form, precision] at kept
  have count_eq : r.magnitude.decade - last + 1 = count := Precision.figures.inj kept
  exact ⟨positive, sign, by omega⟩

theorem positive_of_figures (rounded : q.rounded = .ok r) :
    0 < r.magnitude.size ∧ r.magnitude.negative = q.magnitude.negative := by
  obtain ⟨place, place_eq, -⟩ := exists_lastPlace_of_figures figures least
  cases finite : (q.magnitude.roundedTo place).isFinite with
  | true =>
    obtain ⟨positive, sign, -⟩ := ends_of_figures figures least nonzero rounded
      fun place' place_eq' => by
        obtain rfl := LastPlace.place.inj (place_eq.symm.trans place_eq')
        exact finite
    exact ⟨positive, sign⟩
  | false =>
    obtain rfl := eq_of_roundedTo_not_finite place_eq finite rounded
    exact ⟨isZero_eq_false_iff.mp nonzero, rfl⟩

/-- Unless it is ten, the mantissa of the rounded magnitude is written with all figures and no more.
-/
theorem digitCount_mantissa {m : Double.Finite} (rounded : q.rounded = .ok r)
    (found : r.magnitude.mantissa r.magnitude.decade = .ok (.finite m))
    (reached : ¬ r.magnitude.Overshot) (places_eq : (places : Int) = count - 1) :
    digitCount (m.shownUnits places) = places + 1 := by
  obtain ⟨positive, -⟩ := positive_of_figures figures least nonzero rounded
  have mantissa := isMantissaOf_of_reached found positive reached
  obtain ⟨place, place_eq, -⟩ := exists_lastPlace_of_figures figures least
  cases finite : (q.magnitude.roundedTo place).isFinite with
  | true =>
    obtain ⟨-, -, ends⟩ := ends_of_figures figures least nonzero rounded
      fun place' place_eq' => by
        obtain rfl := LastPlace.place.inj (place_eq.symm.trans place_eq')
        exact finite
    rw [decade_eq_leading reached] at ends
    exact mantissa.digitCount_shownUnits ends (by omega)
  | false =>
    -- nothing is rounded, and what is written may be too long for its figures to be exact
    obtain rfl := eq_of_roundedTo_not_finite place_eq finite rounded
    have greatest := leading_of_roundedTo_not_finite positive finite
    exact mantissa.digitCount_shownUnits_of_greatest positive greatest places

/-- The scientific text with the units that the text of the mantissa shows. -/
theorem scientific_eq_of_mantissa {m : Double.Finite} (rounded : q.rounded = .ok r)
    (found : r.magnitude.mantissa r.magnitude.decade = .ok (.finite m))
    (places_eq : (places : Int) = count - 1) (style : ExponentStyle) :
    q.scientific style = .ok (signed q.magnitude.negative
      (Decimal.pointed (Nat.toDigits 10 (m.shownUnits places)) places) ++
        style.render r.magnitude.decade) := by
  obtain ⟨positive, sign⟩ := positive_of_figures figures least nonzero rounded
  rw [scientific_eq_bind figures least nonzero, rounded]
  show (r.magnitude.mantissa r.magnitude.decade >>= _) = _
  rw [found]
  show Except.ok (m.fixedText (count - 1).toNat ++ _) = _
  rw [← places_eq, Int.toNat_natCast, fixedText_eq, (mantissa_bounds found positive).1, sign]

end Figures

section Form

variable [PowersOfTen] [PowersOfTen.Close]

/-- The scientific text of a nonzero quantity with figures, whenever there is one: a mantissa, and
the decade of the rounded magnitude as the exponent, behind a letter or raised. The mantissa is a
minus sign if the magnitude is negative, a digit other than zero, and behind a point the other
figures, as many as there are, so that the precision of the quantity is counted in it. Where the
rounded magnitude is overshot it is ten, with as many places behind the point, and counts a figure
more if there is a point. -/
theorem scientific_form (q : Quantity) (count : Int) (style : ExponentStyle) (text : List Char)
    (figures : q.precision = .figures count) (least : 1 ≤ count)
    (nonzero : q.magnitude.isZero = false) (shown : q.scientific style = .ok text) :
    ∃ (r : Quantity) (mantissa : List Char), q.rounded = .ok r ∧
      q.scientific .letter = .ok (mantissa ++ ['e'] ++ integerText r.magnitude.decade) ∧
      q.scientific .superscript = .ok (mantissa ++
        "<sup>".toList ++ integerText r.magnitude.decade ++ "</sup>".toList) ∧
      (¬ r.magnitude.Overshot → ∃ s : Significand, (s.count : Int) = count ∧
        mantissa = signed q.magnitude.negative s.text ∧ figures? mantissa = some count.toNat) ∧
      (r.magnitude.Overshot →
        mantissa = signed q.magnitude.negative (tenText (count - 1).toNat) ∧
          figures? mantissa = some (if count = 1 then 1 else count.toNat + 1)) := by
  rw [scientific_eq_bind figures least nonzero] at shown
  obtain ⟨r, rounded, -⟩ := Except.bind_eq_ok_iff.mp shown
  obtain ⟨places, places_eq⟩ := Int.eq_ofNat_of_zero_le (show 0 ≤ count - 1 by omega)
  obtain ⟨positive, -⟩ := positive_of_figures figures least nonzero rounded
  obtain ⟨m, found⟩ := exists_mantissa_decade positive
  have written := scientific_eq_of_mantissa figures least nonzero rounded found places_eq.symm
  refine ⟨r, signed q.magnitude.negative
    (Decimal.pointed (Nat.toDigits 10 (m.shownUnits places)) places), rounded, ?_, ?_, ?_, ?_⟩
  · rw [written, ExponentStyle.render_letter, List.append_assoc]
    rfl
  · rw [written, ExponentStyle.render_superscript, ← List.append_assoc, ← List.append_assoc]
  · intro reached
    have digits := digitCount_mantissa figures least nonzero rounded found reached places_eq.symm
    have filled := shownUnits_mantissa_ne_zero found positive places
    obtain ⟨s, form, length⟩ := Significand.exists_text_eq filled digits
    refine ⟨s, by omega, by rw [form], ?_⟩
    rw [form, s.figures?_signed_text, length]
    congr 1
    omega
  · intro overshot
    rw [eq_ten_of_overshot found overshot, shownUnits_ten, pointed_ten_pow, places_eq,
      Int.toNat_natCast, figures?_signed_tenText]
    refine ⟨rfl, ?_⟩
    congr 1
    split_ifs <;> omega

end Form

/-- Two figures of the greatest double. Rounded to them it would leave the range of doubles, so it
is not rounded, but its mantissa is written with two figures. -/
theorem scientific_form_greatest :
    let x : Quantity := ofPrecision ⟨false, 2 ^ 53 - 1, 971, by decide⟩ (.figures 2)
    x.rounded = .ok x ∧ x.scientific .letter = .ok "1.8e308".toList ∧
      x.scientific .superscript = .ok "1.8<sup>308</sup>".toList ∧
      figures? "1.8".toList = some 2 := by
  intro x
  have kept : x.rounded = .ok x := by decide +kernel
  have decade : integerText x.magnitude.decade = "308".toList := by decide +kernel
  have shown : x.scientific .letter = .ok "1.8e308".toList := by decide +kernel
  have reached : ¬ x.magnitude.Overshot := by decide +kernel
  obtain ⟨r, mantissa, rounded, letter, superscript, form, -⟩ :=
    scientific_form x 2 .letter _ (precision_ofPrecision _ _) (by decide) (by decide) shown
  obtain rfl := Except.ok.inj (kept.symm.trans rounded)
  obtain ⟨s, -, -, counted⟩ := form reached
  obtain rfl : mantissa = "1.8".toList := by
    rw [shown, decade, Except.ok.injEq, List.append_assoc] at letter
    exact (List.append_cancel_right letter).symm
  rw [decade] at superscript
  exact ⟨kept, shown, superscript, counted⟩

/-- The double nearest to `10 ^ 23` lies below it and is overshot by the power that is usually
computed. Its mantissa is written with three figures where it has two. -/
theorem scientific_form_overshot :
    let x : Quantity := ofPrecision ⟨false, 5960464477539062, 24, by decide⟩ (.figures 2)
    x.precision = .figures 2 ∧ x.magnitude.isZero = false ∧ x.rounded = .ok x ∧
      x.magnitude.decade = 22 ∧ x.scientific .letter = .ok "10.0e22".toList ∧
      figures? "10.0".toList = some 3 := by
  intro x
  refine ⟨?_, ?_, ?_, ?_, ?_, ?_⟩ <;> decide +kernel

end SignificantFigures.Quantity
