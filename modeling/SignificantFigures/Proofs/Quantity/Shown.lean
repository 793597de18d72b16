import SignificantFigures.Proofs.Numeral.Scientific
import SignificantFigures.Proofs.Quantity.Display
import SignificantFigures.Proofs.Quantity.Literal

/-!
The numerals that rounded quantities are displayed with. Up to the units the text shows the units
of the last place, with a point behind where its zeros would not count. Above the units it shows the
integer where that is read with the same precision, and otherwise the mantissa with the decade as
the exponent.
-/

set_option autoImplicit false

namespace SignificantFigures.Quantity

open Double.Finite Numeral Rational

variable [PowersOfTen]

/-- A numeral that shows a magnitude down to a place. -/
inductive Shows (v : Double.Finite) (place : Int) : Numeral → Prop where
  | fraction (places : Nat) (below : place = -(places : Int))
      (units : places = 0 → v.isMultipleOfTen = false) :
      Shows v place (placed v.negative (v.shownUnits places) places none)
  | withPoint (units : place = 0) : Shows v place (withPoint v.negative (v.shownUnits 0))
  | whole (above : 0 < place)
      (agrees : readsWithPrecision ⟨v, .place place⟩
        (placed v.negative (v.shownUnits 0) 0 none).text = true) :
      Shows v place (placed v.negative (v.shownUnits 0) 0 none)
  | scientific {m : Double.Finite} {places exponent : Nat} (above : 0 < place)
      (found : v.mantissa v.decade = .ok (.finite m))
      (places_eq : (places : Int) = v.decade - place)
      (exponent_eq : (exponent : Int) = v.decade) :
      Shows v place (placed v.negative (m.shownUnits places) places (some exponent))

variable {v : Double.Finite} {place : Int}

section Close

variable [PowersOfTen.Close]

/-- The scientific text of a rounded quantity with a figure above the units. -/
private theorem exists_scientific_eq
    (kept : (⟨v, .place place⟩ : Quantity).rounded = .ok ⟨v, .place place⟩)
    (positive : 0 < v.size) (inside : place ≤ v.decade) (above : 0 < place) :
    ∃ n, Shows v place n ∧ scientific ⟨v, .place place⟩ .letter = .ok n.text := by
  obtain ⟨m, found⟩ := exists_mantissa_decade positive
  obtain ⟨places, places_eq⟩ := Int.eq_ofNat_of_zero_le (sub_nonneg.mpr inside)
  obtain ⟨exponent, exponent_eq⟩ := Int.eq_ofNat_of_zero_le (above.le.trans inside)
  refine ⟨_, .scientific above found places_eq.symm exponent_eq.symm, ?_⟩
  have exponentText : integerText v.decade = Nat.toDigits 10 exponent := by
    rw [exponent_eq, integerText, signed, if_neg (by simp), Int.natAbs_natCast]
  have least : 1 ≤ v.decade - place + 1 := by omega
  rw [scientific_eq_bind rfl least (isZero_eq_false_iff.mpr positive), kept]
  show (v.mantissa v.decade >>= _) = _
  rw [found]
  show Except.ok (m.fixedText _ ++ exponentMark :: integerText v.decade) = _
  rw [show (v.decade - place + 1 - 1).toNat = places by omega, fixedText_eq,
    (mantissa_bounds found positive).1, exponentText, text_placed_some]

end Close

/-- A rounded quantity is displayed with the text of such a numeral, or in scientific form above the
units. -/
private theorem shows_or_scientific
    (kept : (⟨v, .place place⟩ : Quantity).rounded = .ok ⟨v, .place place⟩) :
    (∃ n, Shows v place n ∧ display ⟨v, .place place⟩ .letter = .ok n.text) ∨
      (0 < place ∧ display ⟨v, .place place⟩ .letter = scientific ⟨v, .place place⟩ .letter) := by
  rw [display_of_rounded_eq kept]
  simp only [layoutOf]
  rcases lt_trichotomy place 0 with fraction | rfl | above
  · obtain ⟨places, places_eq⟩ := Int.eq_ofNat_of_zero_le (neg_nonneg.mpr fraction.le)
    refine Or.inl ⟨_, .fraction places (by omega) (by omega), ?_⟩
    rw [if_pos fraction, places_eq, Int.toNat_natCast, fixedText_eq, text_placed_none]
  · rw [if_neg (lt_irrefl 0), if_pos rfl, fixedText_eq]
    cases multiple : v.isMultipleOfTen with
    | true =>
      refine Or.inl ⟨_, .withPoint rfl, ?_⟩
      rw [if_pos rfl, text_withPoint]
      rfl
    | false =>
      refine Or.inl ⟨_, .fraction 0 rfl fun _ => multiple, ?_⟩
      rw [if_neg Bool.false_ne_true, text_placed_none]
      rfl
  · rw [if_neg (by omega), if_neg (by omega), show (-place).toNat = 0 by omega, fixedText_eq,
      ← text_placed_none]
    cases agrees : readsWithPrecision ⟨v, .place place⟩
        (placed v.negative (v.shownUnits 0) 0 none).text with
    | true =>
      rw [if_pos rfl]
      exact Or.inl ⟨_, .whole above agrees, rfl⟩
    | false =>
      rw [if_neg Bool.false_ne_true]
      exact Or.inr ⟨above, rfl⟩

/-- A rounded quantity that is not zero is displayed with the text of such a numeral, where a last
place above the units leaves it a figure. -/
theorem exists_shows [PowersOfTen.Close]
    (kept : (⟨v, .place place⟩ : Quantity).rounded = .ok ⟨v, .place place⟩)
    (positive : 0 < v.size) (inside : 0 < place → place ≤ v.decade) :
    ∃ n, Shows v place n ∧ display ⟨v, .place place⟩ .letter = .ok n.text := by
  rcases shows_or_scientific kept with shows | ⟨above, scientific⟩
  · exact shows
  · rw [scientific]
    exact exists_scientific_eq kept positive (inside above) above

/-- Without a figure above the units a rounded quantity is displayed with a single digit, also where
its magnitude is not zero. -/
theorem display_of_none
    (kept : (⟨v, .place place⟩ : Quantity).rounded = .ok ⟨v, .place place⟩)
    (above : 0 < place) (none : v.decade < place) :
    display ⟨v, .place place⟩ .letter = .ok ['0'] := by
  rcases shows_or_scientific kept with ⟨n, shows, -⟩ | ⟨-, scientific⟩
  · exfalso
    cases shows with
    | fraction | withPoint => omega
    | whole _ agrees =>
      -- no literal is read without a figure
      rw [readsWithPrecision, beq_iff_eq, Option.map_eq_some_iff] at agrees
      obtain ⟨q, read, same⟩ := agrees
      rw [precision] at same
      rcases precision_of_ofLiteral? read with unbounded | ⟨count, least, figures⟩
      · cases unbounded.symm.trans same
      · have := Precision.figures.inj (figures.symm.trans same)
        dsimp only at this
        omega
    | scientific => omega
  · rw [scientific, Quantity.scientific, precision]
    split
    · rfl
    · exact if_pos (show v.decade - place + 1 < 1 by omega)

/-- A zero is displayed with the text of such a numeral, or with a single digit. -/
theorem exists_shows_zero
    (kept : (⟨v, .place place⟩ : Quantity).rounded = .ok ⟨v, .place place⟩)
    (zero : v.isZero = true) :
    (∃ n, Shows v place n ∧ display ⟨v, .place place⟩ .letter = .ok n.text) ∨
      display ⟨v, .place place⟩ .letter = .ok ['0'] := by
  refine (shows_or_scientific kept).imp_right ?_
  rintro ⟨-, scientific⟩
  rw [scientific, Quantity.scientific, if_pos zero]

namespace Shows

variable {n : Numeral} (shown : Shows v place n)

include shown

theorem wellFormed : n.WellFormed := by
  cases shown with
  | withPoint => exact withPoint_wellFormed ..
  | _ => exact placed_wellFormed ..

theorem sign : n.sign = Sign.ofNegative v.negative := by
  cases shown <;> rfl

theorem sign_exponent {e : Exponent} (written : n.exponent = some e) : e.sign = none := by
  cases shown with
  | scientific =>
    obtain rfl := Option.some.inj written
    rfl
  | _ => exact nomatch written

theorem figure [PowersOfTen.Close] (positive : 0 < v.size) (inside : place ≤ v.leading) :
    dropZeros n.mantissa.digits ≠ [] := by
  cases shown with
  | fraction places below =>
    exact dropZeros_placed_ne_nil (shownUnits_ne_zero positive (by omega))
  | withPoint units =>
    exact dropZeros_withPoint_ne_nil _ (shownUnits_ne_zero positive (by omega))
  | whole above => exact dropZeros_placed_ne_nil (shownUnits_ne_zero positive (by omega))
  | scientific above found =>
    exact dropZeros_placed_ne_nil (shownUnits_mantissa_ne_zero found positive _)

end Shows

/-- The mantissa ten with the decade of an overshot magnitude is the power of ten that the magnitude
is read from. All its digits count, or only the first where there is no point. -/
theorem ofLiteral?_ten [PowersOfTen.Close] {places exponent : Nat} (overshot : v.Overshot)
    (exponent_eq : (exponent : Int) = v.decade) :
    ofLiteral? (placed v.negative (10 ^ (places + 1)) places (some exponent)).text =
      some (ofPrecision v (.figures (if places = 0 then 1 else places + 2 : Nat))) := by
  have value : (placed v.negative (10 ^ (places + 1)) places (some exponent)).value.size =
      (10 : Rat) ^ v.leading := by
    have power : v.leading = ((places + 1 : Nat) : Int) + (exponent - places) := by
      rw [exponent_eq, overshot.decade_eq]
      push_cast
      ring
    rw [placed_value, Option.getD_some, Decimal.size, power, ten_zpow_add, zpow_natCast]
    push_cast
    rfl
  rw [← length_figures_ten places]
  exact ofLiteral?_of_reads (placed_wellFormed ..) rfl (value ▸ overshot.reads)
    (dropZeros_placed_ne_nil (Nat.pow_pos (by decide)).ne')

/-- What a quantity with a last place is rounded to: zero without a sign, or a magnitude of its sign
with a figure, also where rounding would leave the range of doubles. -/
theorem rounded_cases [PowersOfTen.Close] {q r : Quantity} (place_eq : q.lastPlace = .place place)
    (rounded : q.rounded = .ok r) :
    ∃ last, r = ⟨r.magnitude, .place last⟩ ∧
      (r.magnitude = Double.Finite.zero false ∨
        (0 < r.magnitude.size ∧ last ≤ r.magnitude.leading ∧ 0 < q.magnitude.size ∧
          r.magnitude.negative = q.magnitude.negative)) := by
  cases finite : (q.magnitude.roundedTo place).isFinite with
  | true =>
    obtain ⟨last, form, -, settled⟩ := settled_of_rounded place_eq finite rounded
    refine ⟨last, form, settled.imp_right ?_⟩
    rintro ⟨nonzero, ends⟩
    exact ⟨nonzero, ends.trans (exponent_le_leading _),
      negative_of_rounded place_eq finite rounded nonzero⟩
  | false =>
    obtain rfl := eq_of_roundedTo_not_finite place_eq finite rounded
    have positive : 0 < r.magnitude.size := by
      refine lt_of_le_of_ne r.magnitude.size_nonneg fun zero => ?_
      rw [roundedTo_of_size_eq_zero zero.symm] at finite
      exact nomatch finite
    refine ⟨place, by rw [← place_eq], Or.inr ⟨positive, ?_, positive, rfl⟩⟩
    exact le_leading_of_roundedTo_not_finite positive finite

end SignificantFigures.Quantity
