import SignificantFigures.Proofs.Quantity.Literal
import SignificantFigures.Proofs.Quantity.Shown

/-!
Displayed text reads back. A rounded quantity with a normal magnitude and up to fifteen figures is
read back from its text in every layout: the text shows the units of its last place, or it shows
all digits of an integer and was checked to be read with the same precision. An overshot magnitude
is read back as well, but from a text that may show a figure more.
-/

set_option autoImplicit false

namespace SignificantFigures.Quantity

open Double.Finite Numeral Rational

section Settled

variable [PowersOfTen] {v : Double.Finite} {place : Int}

section Units

variable (positive : 0 < v.size) (ends : place ≤ (Decimal.shortest v).exponent)

include positive ends

/-- A numeral with the units of the last place as its digits is read with as many figures. -/
private theorem ofLiteral?_placed {places : Nat} {exponent : Option Nat}
    (place_eq : (exponent.getD 0 : Int) - places = place)
    (last : places = 0 → v.units place % 10 ≠ 0) :
    ofLiteral? (placed v.negative (v.units place) places exponent).text =
      some (ofPrecision v (.figures (v.leading - place + 1))) := by
  have nonzero := units_ne_zero positive ends
  rw [← digitCount_units positive ends, digitCount,
    ← Mantissa.figures_placed places (v.units place) nonzero last]
  refine ofLiteral?_of_reads (placed_wellFormed ..) rfl ?_ (dropZeros_placed_ne_nil nonzero)
  rw [placed_value, place_eq]
  exact reads_units positive ends

omit ends in
/-- Digits with a point behind them are all significant. -/
private theorem ofLiteral?_withPoint (ends : 0 ≤ (Decimal.shortest v).exponent) :
    ofLiteral? (withPoint v.negative (v.units 0)).text =
      some (ofPrecision v (.figures (v.leading - 0 + 1))) := by
  have nonzero := units_ne_zero positive ends
  rw [← digitCount_units positive ends, digitCount, ← figures_withPoint v.negative nonzero]
  refine ofLiteral?_of_reads (withPoint_wellFormed ..) rfl ?_ (dropZeros_withPoint_ne_nil _ nonzero)
  rw [withPoint_value]
  exact reads_units positive ends

/-- There are up to fifteen figures, or for an overshot magnitude a one and up to fifteen zeros. -/
private theorem units_le [PowersOfTen.Close] (short : v.decade - place + 1 ≤ 15) :
    v.units place ≤ 1000000000000000 := by
  by_cases overshot : v.Overshot
  · have inside := ends.trans (exponent_le_leading v)
    have units := overshot.units_eq inside
    have bound : (10 : Rat) ^ (v.leading - place) ≤ (10 : Rat) ^ (15 : Int) := by
      rw [overshot.decade_eq] at short
      exact ten_zpow_le_iff_le.mpr (by omega)
    rw [← units] at bound
    norm_num at bound
    exact_mod_cast bound
  · have count := digitCount_units positive ends
    rw [← decade_eq_leading overshot] at count
    have below : v.units place < 10 ^ 15 := (digitCount_le_iff (by decide)).mp (by omega)
    omega

end Units

variable (small : v.units place ≤ 1000000000000000)

include small

omit [PowersOfTen] in
/-- Where the last place is not above the units the text shows the units of the place. -/
private theorem shownUnits_eq_units (normal : (2 : Rat) ^ (-1022 : Int) ≤ v.size)
    (ends : place ≤ (Decimal.shortest v).exponent) {places : Nat}
    (below : place = -(places : Int)) : v.shownUnits places = v.units place := by
  subst below
  have positive := (Double.two_zpow_pos _).trans_le normal
  exact shownUnits_eq_of_close (close_of_reads normal (reads_units positive ends) (by omega))

omit [PowersOfTen] in
private theorem size_eq_units (positive : 0 < v.size) (ends : place ≤ (Decimal.shortest v).exponent)
    (units : place = 0) : v.size = v.units place := by
  subst units
  have reads := reads_units positive ends
  rw [zpow_zero, mul_one, Reads, Double.roundedSize_eq_self] at reads
  · exact reads.symm
  · exact Double.representable_natCast (by omega)

/-- Up to the units the shown digits are the units of the last place, and all of them are read. -/
private theorem Shows.ofLiteral?_of_below {n : Numeral} (shown : Shows v place n)
    (below : place ≤ 0) (normal : (2 : Rat) ^ (-1022 : Int) ≤ v.size)
    (ends : place ≤ (Decimal.shortest v).exponent) :
    ofLiteral? n.text = some (ofPrecision v (.figures (v.leading - place + 1))) := by
  have positive := (Double.two_zpow_pos _).trans_le normal
  cases shown with
  | fraction places below units =>
    rw [shownUnits_eq_units small normal ends below]
    refine ofLiteral?_placed positive ends ?_ ?_
    · simp only [Option.getD_none, Nat.cast_zero]
      omega
    · rintro rfl last
      have size := size_eq_units small positive ends below
      rw [isMultipleOfTen_of_size_eq size last] at units
      exact Bool.noConfusion (units rfl)
  | withPoint units =>
    subst units
    rw [shownUnits_eq_units small normal ends rfl]
    exact ofLiteral?_withPoint positive ends
  | whole above | scientific above => omega

omit small

/-- A text that shows an integer and is read with the precision of a quantity is read as it. -/
private theorem ofLiteral?_of_readsWithPrecision {n : Nat} (nonzero : n ≠ 0) (size : v.size = n)
    (agrees : readsWithPrecision ⟨v, .place place⟩ (placed v.negative n 0 none).text = true) :
    ofLiteral? (placed v.negative n 0 none).text = some ⟨v, .place place⟩ := by
  have reads : v.Reads (placed v.negative n 0 none).value.size := by
    rw [placed_value, Reads]
    simp [Decimal.size, ← size, Double.roundedSize_size]
  have read := ofLiteral?_of_reads (placed_wellFormed ..) rfl reads
    (dropZeros_placed_ne_nil nonzero)
  rw [readsWithPrecision, read, Option.map_some, precision_ofPrecision, beq_iff_eq,
    Option.some.injEq] at agrees
  rw [read, agrees]
  exact congrArg some (ofPrecision_precision ⟨v, .place place⟩)

variable [PowersOfTen.Close]

private theorem ofPrecision_eq_of_reached (reached : ¬ v.Overshot) :
    ofPrecision v (.figures (v.leading - place + 1)) = ⟨v, .place place⟩ := by
  rw [← decade_eq_leading reached]
  exact ofPrecision_precision ⟨v, .place place⟩

/-- The units of the last place with the point behind the first digit, and the decade. -/
private theorem ofLiteral?_scientific {m : Double.Finite} {places exponent : Nat}
    (found : v.mantissa v.decade = .ok (.finite m)) (reached : ¬ v.Overshot) (positive : 0 < v.size)
    (ends : place ≤ (Decimal.shortest v).exponent) (short : v.decade - place + 1 ≤ 15)
    (places_eq : (places : Int) = v.decade - place) (exponent_eq : (exponent : Int) = v.decade) :
    ofLiteral? (placed v.negative (m.shownUnits places) places (some exponent)).text =
      some ⟨v, .place place⟩ := by
  have mantissa := isMantissaOf_of_reached found positive reached
  rw [decade_eq_leading reached] at short places_eq exponent_eq
  rw [mantissa.shownUnits_of_short positive ends places_eq (by omega),
    ← ofPrecision_eq_of_reached reached]
  refine ofLiteral?_placed positive ends ?_ ?_
  · simp only [Option.getD_some]
    omega
  · -- a single digit that is not zero
    intro single
    have count := digitCount_units positive ends
    have digit : v.units place < 10 ^ 1 := (digitCount_le_iff (by decide)).mp (by omega)
    have nonzero := units_ne_zero positive ends
    omega

/-- Above the units the text is read as the quantity, or it is ten with the decade. -/
private theorem Shows.ofLiteral?_of_above {n : Numeral} (shown : Shows v place n)
    (above : 0 < place) (positive : 0 < v.size) (ends : place ≤ (Decimal.shortest v).exponent)
    (short : v.decade - place + 1 ≤ 15) :
    ofLiteral? n.text = some ⟨v, .place place⟩ ∨
      v.Overshot ∧ ofLiteral? n.text = some (ofPrecision v (.figures (v.leading - place + 1))) := by
  cases shown with
  | fraction | withPoint => omega
  | whole above agrees =>
    obtain ⟨n, size⟩ := exists_size_eq_natCast positive ends above.le
    rw [shownUnits_of_size_eq size] at agrees ⊢
    refine Or.inl (ofLiteral?_of_readsWithPrecision ?_ size agrees)
    rintro rfl
    rw [size, Nat.cast_zero] at positive
    exact lt_irrefl _ positive
  | @scientific m places exponent _ found places_eq exponent_eq =>
    by_cases overshot : v.Overshot
    · have figures : v.leading - place + 1 = places + 2 := by
        rw [places_eq, overshot.decade_eq]
        ring
      rw [eq_ten_of_overshot found overshot, shownUnits_ten, ofLiteral?_ten overshot exponent_eq,
        figures]
      rcases Nat.eq_zero_or_pos places with rfl | some
      · refine Or.inl (congrArg Option.some ?_)
        rw [if_pos rfl]
        have single : (⟨v, .place place⟩ : Quantity).precision = .figures (1 : Nat) := by
          show Precision.figures (v.decade - place + 1) = _
          rw [← places_eq]
          rfl
        rw [← single]
        exact ofPrecision_precision ⟨v, .place place⟩
      · refine Or.inr ⟨overshot, ?_⟩
        rw [if_neg some.ne']
        rfl
    · exact Or.inl
        (ofLiteral?_scientific found overshot positive ends short places_eq exponent_eq)

/-- What is shown of a normal magnitude with up to fifteen figures is read as the quantity, or with a
figure more where the magnitude is overshot. -/
private theorem Shows.ofLiteral?_text {n : Numeral} (shown : Shows v place n)
    (normal : (2 : Rat) ^ (-1022 : Int) ≤ v.size) (ends : place ≤ (Decimal.shortest v).exponent)
    (short : v.decade - place + 1 ≤ 15) :
    ofLiteral? n.text = some ⟨v, .place place⟩ ∨
      v.Overshot ∧ ofLiteral? n.text = some (ofPrecision v (.figures (v.leading - place + 1))) := by
  have positive := (Double.two_zpow_pos _).trans_le normal
  rcases le_or_gt place 0 with below | above
  · have read := shown.ofLiteral?_of_below (units_le positive ends short) below normal ends
    by_cases overshot : v.Overshot
    · exact Or.inr ⟨overshot, read⟩
    · rw [ofPrecision_eq_of_reached overshot] at read
      exact Or.inl read
  · exact shown.ofLiteral?_of_above above positive ends short

end Settled

section Displayed

variable [PowersOfTen] [PowersOfTen.Close]

/-- A displayed text is read back as the rounded quantity, which is displayed with the same text:
for a normal magnitude and up to fifteen figures, unless rounding left the range of doubles. Where
the rounded magnitude is overshot the text is read with the same magnitude, but it may be read with
a figure more. -/
theorem display_reads_back (x r : Quantity) (count : Int) (rounded : x.rounded = .ok r)
    (finite : ∀ place, x.lastPlace = .place place →
      (x.magnitude.roundedTo place).isFinite = true)
    (normal : (2 : Rat) ^ (-1022 : Int) ≤ r.magnitude.size)
    (figures : r.precision = .figures count) (least : 1 ≤ count) (greatest : count ≤ 15) :
    ∃ text, x.display .letter = .ok text ∧ r.display .letter = .ok text ∧
      (¬ r.magnitude.Overshot → ofLiteral? text = some r) ∧
      (r.magnitude.Overshot → ofLiteral? text = some r ∨
        ofLiteral? text = some (ofPrecision r.magnitude (.figures (count + 1)))) := by
  cases place_eq : x.lastPlace with
  | exact =>
    have same := eq_of_rounded_exact place_eq rounded
    simp only [precision, same, place_eq, reduceCtorEq] at figures
  | place place =>
    obtain ⟨last, form, -, settled⟩ :=
      settled_of_rounded place_eq (finite place place_eq) rounded
    have kept := rounded_rounded rounded
    rw [← display_rounded rounded]
    obtain ⟨v, lastPlace⟩ := r
    obtain rfl : lastPlace = .place last := congrArg Quantity.lastPlace form
    obtain rfl : v.decade - last + 1 = count := Precision.figures.inj figures
    rcases settled with zero | ⟨-, ends⟩
    · rw [zero, size_zero] at normal
      exact absurd normal (not_le.mpr (Double.two_zpow_pos _))
    · have positive := (Double.two_zpow_pos _).trans_le normal
      obtain ⟨n, shows, shown⟩ := exists_shows kept positive fun _ => by omega
      refine ⟨n.text, shown, shown, fun reached => ?_, fun overshot => ?_⟩
      · exact (shows.ofLiteral?_text normal ends greatest).resolve_right
          fun other => reached other.1
      · refine (shows.ofLiteral?_text normal ends greatest).imp_right fun other => ?_
        have figures : v.leading - last + 1 = v.decade - last + 1 + 1 := by
          rw [other.1.decade_eq]
          ring
        rw [other.2, figures]

end Displayed

/-- 1204 to the tens is displayed as 1.20e3, since 1200 would be read with two figures. -/
theorem display_reads_back_scientific :
    let x : Quantity := ⟨⟨false, 5295247999369216, -42, by decide⟩, .place 1⟩
    let r : Quantity := ⟨⟨false, 5277655813324800, -42, by decide⟩, .place 1⟩
    x.rounded = .ok r ∧ x.display .letter = .ok "1.20e3".toList ∧
      ofLiteral? "1.20e3".toList = some r ∧ r.display .letter = .ok "1.20e3".toList := by
  intro x r
  have rounded : x.rounded = .ok r := by decide +kernel
  have shown : x.display .letter = .ok "1.20e3".toList := by decide +kernel
  have finite : ∀ place, x.lastPlace = .place place →
      (x.magnitude.roundedTo place).isFinite = true := by
    intro place place_eq
    obtain rfl := LastPlace.place.inj place_eq
    decide +kernel
  have normal : (2 : Rat) ^ (-1022 : Int) ≤ r.magnitude.size :=
    (Double.two_zpow_le (by norm_num : (-1022 : Int) ≤ 0)).trans
      (by norm_num [r, Double.Finite.size])
  have reached : ¬ r.magnitude.Overshot := by decide +kernel
  obtain ⟨text, found, again, read, -⟩ := display_reads_back x r 3 rounded finite normal
    (by decide +kernel) (by decide) (by decide)
  obtain rfl : "1.20e3".toList = text := Except.ok.inj (shown.symm.trans found)
  exact ⟨rounded, shown, read reached, again⟩

/-- Two figures of the double nearest to `10 ^ 23`, which is overshot as powers of ten are usually
computed: it is in the decade 22, and the text has a mantissa with three figures. -/
theorem display_reads_back_overshot :
    let x : Quantity := ⟨⟨false, 5960464477539062, 24, by decide⟩, .place 21⟩
    x.rounded = .ok x ∧ (x.magnitude.roundedTo 21).isFinite = true ∧
      (2 : Rat) ^ (-1022 : Int) ≤ x.magnitude.size ∧ x.precision = .figures 2 ∧
      x.display .letter = .ok "10.0e22".toList ∧
      ofLiteral? "10.0e22".toList = some ⟨x.magnitude, .place 20⟩ := by
  intro x
  refine ⟨?_, ?_, ?_, ?_, ?_, ?_⟩
  case refine_3 =>
    exact (Double.two_zpow_le (by norm_num : (-1022 : Int) ≤ 0)).trans
      (by norm_num [x, Double.Finite.size])
  all_goals decide +kernel

end SignificantFigures.Quantity
