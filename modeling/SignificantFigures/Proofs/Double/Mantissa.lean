import SignificantFigures.Proofs.Double.Range

/-!
The mantissa of a double at its leading digit, as it is written in front of an exponent. It stays
below ten, so its text has the figures of the double down to the last place, and the number with the
exponent is in the range of doubles.
-/

set_option autoImplicit false

namespace SignificantFigures.Double.Finite

open Rational

variable {x m : Finite}

/-- A double that the shortest decimal of another is read as once its point is moved behind the
leading digit. -/
structure IsMantissaOf (m x : Finite) : Prop where
  negative : m.negative = x.negative
  one_le : 1 ≤ m.size
  leading : m.leading = 0
  reads : m.Reads ((Decimal.shortest x).size * (10 : Rat) ^ (-x.leading))

/-- Ten is not read as a double that a size a little below is read as. -/
private theorem not_reads_ten {q : Rat} (reads : m.Reads q) (nonneg : 0 ≤ q)
    (below : q + (10 : Rat) ^ (-15 : Int) ≤ 10) : ¬ m.Reads 10 := by
  intro ten
  have held : Representable (10 - (2 : Rat) ^ (-49 : Int)) :=
    ⟨5629499534213119, -49, by norm_num, by norm_num, by norm_num⟩
  have whole : m.size = 10 :=
    ten.symm.trans (roundedSize_eq_self ⟨10, 0, by norm_num, by norm_num, by norm_num⟩)
  rw [Reads, whole] at reads
  have half := held.add_le_two_mul nonneg (by rw [reads]; norm_num)
  rw [reads] at half
  norm_num at half below
  linarith

/-- There is a mantissa, and its leading digit is that of the units. -/
theorem exists_isMantissaOf (positive : 0 < x.size) :
    ∃ m : Finite, x.mantissa x.leading = .ok (.finite m) ∧ m.IsMantissaOf x := by
  obtain ⟨m, mantissa, sign, one, reads⟩ := exists_mantissa positive
  refine ⟨m, mantissa, sign, one, ?_, reads⟩
  have unit := ten_zpow_pos (-x.leading)
  have low := mul_le_mul_of_nonneg_right (ten_zpow_leading_le positive) unit.le
  have high := mul_le_mul_of_nonneg_right (shortest_size_le_next positive) unit.le
  rw [add_mul, ← ten_zpow_add, ← ten_zpow_add, show x.leading - 15 + -x.leading = -15 by ring,
    show x.leading + 1 + -x.leading = 1 by ring, zpow_one] at high
  rw [← ten_zpow_add, add_neg_cancel] at low
  have step := ten_zpow_pos (-15)
  have power : (10 : Rat) ^ ((0 : Int) + 1) = 10 := by norm_num
  rcases leading_of_reads (zero_lt_one.trans_le one) reads low (by rw [power]; linarith) with
    ⟨ten, -⟩ | ⟨-, same⟩
  · rw [power] at ten
    exact absurd ten (not_reads_ten reads ((ten_zpow_pos 0).le.trans low) high)
  · exact same

namespace IsMantissaOf

variable {place : Int} {places : Nat} (mantissa : m.IsMantissaOf x)

include mantissa

theorem positive : 0 < m.size :=
  zero_lt_one.trans_le mantissa.one_le

theorem normal : (2 : Rat) ^ (-1022 : Int) ≤ m.size :=
  (two_zpow_le (by norm_num)).trans ((zpow_zero (2 : Rat)).le.trans mantissa.one_le)

theorem shownUnits_ne_zero : m.shownUnits places ≠ 0 := by
  refine Finite.shownUnits_ne_zero mantissa.positive ?_
  rw [mantissa.leading]
  omega

/-- The units of the last place are read as the mantissa once the point is moved. -/
theorem reads_units (ends : place ≤ (Decimal.shortest x).exponent)
    (places_eq : (places : Int) = x.leading - place) :
    m.Reads ((x.units place : Rat) * (10 : Rat) ^ (-(places : Int))) := by
  have reads := mantissa.reads
  rwa [Decimal.size_eq_units ends, mul_assoc, ← ten_zpow_add,
    show place + -x.leading = -(places : Int) by omega] at reads

/-- The text of the mantissa has the figures down to the last place. -/
theorem digitCount_shownUnits (ends : place ≤ (Decimal.shortest x).exponent)
    (places_eq : (places : Int) = x.leading - place) :
    digitCount (m.shownUnits places) = places + 1 := by
  have last := Decimal.le_shortest_exponent mantissa.positive (mantissa.reads_units ends places_eq)
  have reached : ¬ m.FallsShort (-(places : Int)) := by
    have half := ten_zpow_pos (-(places : Int))
    rw [FallsShort, mantissa.leading, zpow_zero, not_lt]
    linarith [mantissa.one_le]
  have count := Finite.digitCount_shownUnits mantissa.positive last reached
  rw [mantissa.leading] at count
  omega

end IsMantissaOf

section Short

variable {place : Int} {places : Nat}

private theorem units_le_of_short (positive : 0 < x.size)
    (ends : place ≤ (Decimal.shortest x).exponent) (short : x.leading - place < 15) :
    x.units place ≤ 2000000000000000 := by
  have count := digitCount_units positive ends
  have below : x.units place < 10 ^ 15 := (digitCount_le_iff (by decide)).mp (by omega)
  omega

/-- The text of a normal double with up to fifteen figures shows its shortest decimal. -/
theorem shownUnits_of_short (normal : (2 : Rat) ^ (-1022 : Int) ≤ x.size)
    (ends : -(places : Int) ≤ (Decimal.shortest x).exponent) (short : x.leading + places < 15) :
    x.shownUnits places = x.units (-(places : Int)) := by
  have positive := (two_zpow_pos _).trans_le normal
  have small := units_le_of_short positive ends (by omega)
  exact shownUnits_eq_of_close (close_of_reads normal (Finite.reads_units positive ends) small)

namespace IsMantissaOf

variable (mantissa : m.IsMantissaOf x) (positive : 0 < x.size)
  (ends : place ≤ (Decimal.shortest x).exponent) (places_eq : (places : Int) = x.leading - place)
  (short : places < 15)

include mantissa positive ends places_eq short

/-- Up to fifteen figures the text of the mantissa shows those of the double. -/
theorem shownUnits_of_short : m.shownUnits places = x.units place := by
  have small := units_le_of_short positive ends (by omega)
  exact shownUnits_eq_of_close
    (close_of_reads mantissa.normal (mantissa.reads_units ends places_eq) small)

/-- Up to fifteen figures the shortest decimal of the mantissa is that of the double with the point
moved. -/
theorem shortest_size_of_short :
    (Decimal.shortest m).size = (x.units place : Rat) * (10 : Rat) ^ (-(places : Int)) := by
  have last := Decimal.le_shortest_exponent mantissa.positive (mantissa.reads_units ends places_eq)
  have own : m.shownUnits places = m.units (-(places : Int)) := by
    refine Finite.shownUnits_of_short mantissa.normal last ?_
    rw [mantissa.leading]
    omega
  rw [Decimal.size_eq_units last, ← mantissa.shownUnits_of_short positive ends places_eq short, own]
  rfl

end IsMantissaOf

end Short

section Range

/-- The mantissa of the end of the range, in units of the last place of a double from one to two. -/
private theorem rangeEnd_le :
    rangeEnd * (10 : Rat) ^ (-308 : Int) ≤
      (8096090132292424 + 1 / 3) * (2 : Rat) ^ (-52 : Int) := by
  have bound : 3 * 18014398509481983 * 2 ^ 970 * 2 ^ 52 ≤ 24288270396877273 * 10 ^ 308 := by
    decide +kernel
  have bound' : 3 * 18014398509481983 * halfStep * (2 : Rat) ^ (52 : Int) ≤
      24288270396877273 * (10 : Rat) ^ (308 : Int) := by
    unfold halfStep
    exact_mod_cast bound
  rw [zpow_neg, zpow_neg, ← div_eq_mul_inv, ← div_eq_mul_inv,
    div_le_div_iff₀ (ten_zpow_pos _) (two_zpow_pos _), rangeEnd_eq]
  generalize (10 : Rat) ^ (308 : Int) = power at *
  linarith

/-- The mantissa of the greatest double is in the range with half a unit of the sixteenth place
more. -/
private theorem lt_rangeEnd :
    (8096090132292424 * (2 : Rat) ^ (-52 : Int) + (10 : Rat) ^ (-16 : Int) / 2) *
      (10 : Rat) ^ (308 : Int) < rangeEnd := by
  have bound : 2 * 8096090132292424 * 10 ^ 308 + 2 ^ 52 * 10 ^ 292 <
      2 ^ 53 * 18014398509481983 * 2 ^ 970 := by
    decide +kernel
  have bound' : 2 * 8096090132292424 * (10 : Rat) ^ (308 : Int) +
      (2 : Rat) ^ (52 : Int) * (10 : Rat) ^ (292 : Int) <
        (2 : Rat) ^ (53 : Int) * 18014398509481983 * halfStep := by
    unfold halfStep
    exact_mod_cast bound
  have split : (10 : Rat) ^ (308 : Int) = 10000000000000000 * (10 : Rat) ^ (292 : Int) := by
    rw [show (308 : Int) = 16 + 292 by norm_num, ten_zpow_add]
    norm_num
  rw [rangeEnd_eq, split]
  rw [split] at bound'
  generalize (10 : Rat) ^ (292 : Int) = power at bound' ⊢
  norm_num at bound' ⊢
  linarith

variable {place : Int} {places : Nat}

/-- No mantissa of the greatest exponent is past that of the end of the range. -/
private theorem shortest_size_mul_le (positive : 0 < x.size) (greatest : x.leading = 308) :
    (Decimal.shortest x).size * (10 : Rat) ^ (-x.leading) ≤
      (8096090132292424 + 1 / 3) * (2 : Rat) ^ (-52 : Int) := by
  have limit := (Decimal.reads_shortest positive).le_rangeEnd (Decimal.size_nonneg _)
  rw [greatest]
  exact (mul_le_mul_of_nonneg_right limit (ten_zpow_pos _).le).trans rangeEnd_le

/-- At the greatest exponent the mantissa is at most that of the greatest double. -/
private theorem size_le_of_greatest (positive : 0 < x.size) (mantissa : m.IsMantissaOf x)
    (greatest : x.leading = 308) :
    m.size ≤ 8096090132292424 * (2 : Rat) ^ (-52 : Int) := by
  by_contra above
  rw [not_le] at above
  have held : Representable (8096090132292424 * (2 : Rat) ^ (-52 : Int)) :=
    ⟨8096090132292424, -52, by norm_num, by norm_num, by norm_num⟩
  have nonneg := mul_nonneg (Decimal.size_nonneg (Decimal.shortest x)) (ten_zpow_pos (-x.leading)).le
  have half := held.add_le_two_mul nonneg (by rwa [mantissa.reads])
  have gap := held.gap (representable_size m) above
  have bound := shortest_size_mul_le positive greatest
  have last_pos := two_zpow_pos (-52)
  rw [mantissa.reads] at half
  generalize (2 : Rat) ^ (-52 : Int) = last at above gap last_pos half bound
  linarith only [above, gap, last_pos, half, bound]

/-- At the greatest exponent the text of the mantissa has the figures down to any place. -/
theorem IsMantissaOf.digitCount_shownUnits_of_greatest (mantissa : m.IsMantissaOf x)
    (positive : 0 < x.size) (greatest : x.leading = 308) (places : Nat) :
    digitCount (m.shownUnits places) = places + 1 := by
  have half := ten_zpow_pos (-(places : Int))
  have inside : -(places : Int) ≤ 0 := by omega
  have unit := (ten_zpow_le_iff_le.mpr inside).trans_eq (zpow_zero 10)
  have bound := size_le_of_greatest positive mantissa greatest
  have one := mantissa.one_le
  have high : m.size + (10 : Rat) ^ (-(places : Int)) / 2 < (10 : Rat) ^ ((0 : Int) + 1) := by
    generalize (10 : Rat) ^ (-(places : Int)) = last at unit
    norm_num at bound ⊢
    linarith
  have count := digitCount_shownUnits_of_bounds inside (by rw [zpow_zero]; linarith)
    (by rw [zpow_zero]; linarith) high
  omega

/-- Up to fifteen places the text of the mantissa shows the shortest decimal itself. -/
private theorem shownUnits_eq_units (positive : 0 < x.size) (mantissa : m.IsMantissaOf x)
    (ends : place ≤ (Decimal.shortest x).exponent) (places_eq : (places : Int) = x.leading - place)
    (greatest : x.leading = 308) (short : places ≤ 15) : m.shownUnits places = x.units place := by
  refine shownUnits_eq_of_close
    (close_of_reads mantissa.normal (mantissa.reads_units ends places_eq) ?_)
  have bound := shortest_size_mul_le positive greatest
  rw [Decimal.size_eq_units ends, mul_assoc, ← ten_zpow_add,
    show place + -x.leading = -(places : Int) by omega] at bound
  have fine : (10 : Rat) ^ (-15 : Int) ≤ (10 : Rat) ^ (-(places : Int)) :=
    ten_zpow_le_iff_le.mpr (by omega)
  have nonneg : (0 : Rat) ≤ (Decimal.shortest x).unitsAt place := Nat.cast_nonneg _
  have least := (mul_le_mul_of_nonneg_left fine nonneg).trans bound
  norm_num at least
  have : ((Decimal.shortest x).unitsAt place : Rat) ≤ 2000000000000000 := by linarith
  exact_mod_cast this

private theorem scientific_lt_of_leading_lt (mantissa : m.IsMantissaOf x)
    (ends : place ≤ (Decimal.shortest x).exponent) (places_eq : (places : Int) = x.leading - place)
    (lower : x.leading < 308) :
    (m.shownUnits places : Rat) * (10 : Rat) ^ (x.leading - places) < rangeEnd := by
  have digits : (m.shownUnits places : Rat) < (10 : Rat) ^ ((places + 1 : Nat) : Int) := by
    have := lt_pow_digitCount (m.shownUnits places)
    rw [mantissa.digitCount_shownUnits ends places_eq] at this
    rw [zpow_natCast]
    exact_mod_cast this
  calc (m.shownUnits places : Rat) * (10 : Rat) ^ (x.leading - places)
      < (10 : Rat) ^ ((places + 1 : Nat) : Int) * (10 : Rat) ^ (x.leading - places) :=
        mul_lt_mul_of_pos_right digits (ten_zpow_pos _)
    _ = (10 : Rat) ^ (x.leading + 1) := by
        rw [← ten_zpow_add]
        congr 1
        push_cast
        ring
    _ ≤ (10 : Rat) ^ (308 : Int) := ten_zpow_le_iff_le.mpr (by omega)
    _ < rangeEnd := ten_zpow_308_lt_rangeEnd

private theorem scientific_lt_of_greatest (positive : 0 < x.size) (mantissa : m.IsMantissaOf x)
    (greatest : x.leading = 308) (long : 16 ≤ places) :
    (m.shownUnits places : Rat) * (10 : Rat) ^ (x.leading - places) < rangeEnd := by
  have bound := size_le_of_greatest positive mantissa greatest
  have shown := m.shownUnits_mul_le places
  have fine : (10 : Rat) ^ (-(places : Int)) ≤ (10 : Rat) ^ (-16 : Int) :=
    ten_zpow_le_iff_le.mpr (by omega)
  have mantissa_le : (m.shownUnits places : Rat) * (10 : Rat) ^ (-(places : Int)) ≤
      8096090132292424 * (2 : Rat) ^ (-52 : Int) + (10 : Rat) ^ (-16 : Int) / 2 := by
    generalize (2 : Rat) ^ (-52 : Int) = last at bound ⊢
    generalize (10 : Rat) ^ (-16 : Int) = sixteenth at fine ⊢
    linarith only [bound, shown, fine]
  rw [greatest, sub_eq_neg_add, ten_zpow_add, ← mul_assoc]
  exact (mul_le_mul_of_nonneg_right mantissa_le (ten_zpow_pos _).le).trans_lt lt_rangeEnd

/-- The mantissa as it is shown and the exponent make up a number in the range of doubles. -/
theorem IsMantissaOf.roundedSize_scientific_lt (mantissa : m.IsMantissaOf x) (positive : 0 < x.size)
    (ends : place ≤ (Decimal.shortest x).exponent) (places_eq : (places : Int) = x.leading - place) :
    roundedSize ((m.shownUnits places : Rat) * (10 : Rat) ^ (x.leading - places)) < sizeLimit := by
  have unit := ten_zpow_pos (x.leading - places)
  have nonneg : 0 ≤ (m.shownUnits places : Rat) * (10 : Rat) ^ (x.leading - places) := by positivity
  rcases (leading_le x).lt_or_eq with lower | greatest
  · exact roundedSize_lt_sizeLimit nonneg
      (scientific_lt_of_leading_lt mantissa ends places_eq lower)
  · rcases le_or_gt places 15 with short | long
    · rw [shownUnits_eq_units positive mantissa ends places_eq greatest short,
        show x.leading - places = place by omega, Finite.reads_units positive ends]
      exact x.size_lt_sizeLimit
    · exact roundedSize_lt_sizeLimit nonneg
        (scientific_lt_of_greatest positive mantissa greatest long)

end Range

end SignificantFigures.Double.Finite
