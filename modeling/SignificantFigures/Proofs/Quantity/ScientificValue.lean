import SignificantFigures.Proofs.Decimal.Text
import SignificantFigures.Proofs.Quantity.Scientific

/-!
The value of scientific text. The mantissa is a double of its own, so the digits in front of the
exponent are those of its text and not of the rounded magnitude. With up to fifteen figures the two
agree, and the text is read as the rounded magnitude; with more it may be read as another double,
also where the quantity is exact.
-/

set_option autoImplicit false

namespace SignificantFigures.Quantity

open Double.Finite Numeral Rational

/-- The number that is written in front of the exponent for a mantissa. -/
def writtenSize [PowersOfTen] (q : Quantity) (m : Double.Finite) : Rat :=
  match q.precision with
  | .exact => (Decimal.shortest m).size
  | .figures count =>
    (m.shownUnits (count - 1).toNat : Rat) * (10 : Rat) ^ (-((count - 1).toNat : Int))

/-- The text of a mantissa in front of the exponent. -/
private def mantissaText [PowersOfTen] (q : Quantity) (m : Double.Finite) : List Char :=
  match q.precision with
  | .exact => (Double.finite m).plainText
  | .figures count => m.fixedText (count - 1).toNat

/-- The number of figures of a quantity, of an exact one that of its shortest decimal. -/
def ownFigures [PowersOfTen] (q : Quantity) : Int :=
  match q.precision with
  | .exact => digitCount (Decimal.shortest q.magnitude).coefficient
  | .figures count => count

section Written

variable [PowersOfTen] {q r : Quantity} {m : Double.Finite} {count : Int} {text : List Char}

theorem writtenSize_nonneg (q : Quantity) (m : Double.Finite) : 0 ≤ q.writtenSize m := by
  unfold writtenSize
  split
  · exact Decimal.size_nonneg _
  · exact mul_nonneg (Nat.cast_nonneg _) (ten_zpow_pos _).le

@[simp]
theorem writtenSize_ten (q : Quantity) (negative : Bool) : q.writtenSize (ten negative) = 10 := by
  unfold writtenSize
  split
  · rw [shortest_ten, Decimal.size]
    norm_num
  · rw [shownUnits_ten, Nat.cast_pow, ← zpow_natCast, Nat.cast_ofNat, ← ten_zpow_add]
    norm_num

omit [PowersOfTen] in
/-- Digits in front of an exponent are read as the double nearest to the number that they make up
with it. -/
private theorem leadingDouble?_written {negative : Bool} {units places : Nat} {size : Rat}
    {exponent : Int} (written : (units : Rat) * (10 : Rat) ^ (-(places : Int)) = size) :
    leadingDouble?
        ((placed negative units places none).text ++ ExponentStyle.letter.render exponent) =
      some (Double.ofSize negative (size * (10 : Rat) ^ exponent)) := by
  have moved : (⟨negative, units, exponent - places⟩ : Decimal).size =
      size * (10 : Rat) ^ exponent := by
    rw [← written, mul_assoc, ← ten_zpow_add, neg_add_eq_sub]
    rfl
  rw [ExponentStyle.render_letter, leadingDouble?_scientific, Decimal.nearest_eq, moved]

section Close

variable [PowersOfTen.Close]

/-- What is read from scientific text that has been written with a mantissa. -/
private theorem leadingDouble?_of_mantissa (positive : 0 < r.magnitude.size)
    (found : r.magnitude.mantissa r.magnitude.decade = .ok (.finite m))
    (written : text = q.mantissaText m ++ ExponentStyle.letter.render r.magnitude.decade) :
    leadingDouble? text = some (Double.ofSize r.magnitude.negative
      (q.writtenSize m * (10 : Rat) ^ r.magnitude.decade)) := by
  obtain ⟨sign, one⟩ := mantissa_bounds found positive
  subst written
  rw [mantissaText, writtenSize]
  cases q.precision with
  | exact =>
    obtain ⟨units, places, plain, size, -⟩ := m.exists_plainText
    have filled : m.isZero = false := isZero_eq_false_iff.mpr (zero_lt_one.trans_le one)
    rw [filled, Bool.not_false, Bool.and_true, sign] at plain
    rw [plain]
    exact leadingDouble?_written size
  | figures count =>
    dsimp only
    rw [fixedText_eq, sign, ← text_placed_none]
    exact leadingDouble?_written rfl

/-- The mantissa that the scientific text of a nonzero quantity is written with. -/
private theorem exists_mantissa_of_scientific (nonzero : q.magnitude.isZero = false)
    (least : ∀ count, q.precision = .figures count → 1 ≤ count)
    (shown : q.scientific .letter = .ok text) :
    ∃ (r : Quantity) (m : Double.Finite), q.rounded = .ok r ∧ 0 < r.magnitude.size ∧
      r.magnitude.mantissa r.magnitude.decade = .ok (.finite m) ∧
      text = q.mantissaText m ++ ExponentStyle.letter.render r.magnitude.decade := by
  unfold mantissaText
  cases figures : q.precision with
  | exact =>
    have exact := precision_eq_exact.mp figures
    have positive := isZero_eq_false_iff.mp nonzero
    obtain ⟨m, found⟩ := exists_mantissa_decade positive
    refine ⟨q, m, by rw [rounded, exact], positive, found, ?_⟩
    rw [scientific, nonzero, if_neg Bool.false_ne_true, figures] at shown
    dsimp only at shown
    rw [found] at shown
    exact (Except.ok.inj shown).symm
  | figures count =>
    rw [scientific_eq_bind figures (least count figures) nonzero] at shown
    obtain ⟨r, rounded, shown⟩ := Except.bind_eq_ok_iff.mp shown
    obtain ⟨positive, -⟩ := positive_of_figures figures (least count figures) nonzero rounded
    obtain ⟨m, found⟩ := exists_mantissa_decade positive
    rw [found] at shown
    exact ⟨r, m, rounded, positive, found, (Except.ok.inj shown).symm⟩

section Short

/-- The units of the last place, with the point moved behind the first digit and back. -/
private theorem reads_moved_units {x : Double.Finite} {place : Int} {places : Nat}
    (positive : 0 < x.size) (reached : ¬ x.Overshot) (ends : place ≤ (Decimal.shortest x).exponent)
    (places_eq : (places : Int) = x.leading - place) :
    x.Reads ((x.units place : Rat) * (10 : Rat) ^ (-(places : Int)) * (10 : Rat) ^ x.decade) := by
  rw [decade_eq_leading reached, mul_assoc, ← ten_zpow_add,
    show -(places : Int) + x.leading = place by omega]
  exact reads_units positive ends

/-- The text of an overshot double shows the power of ten that the double is nearest to. -/
private theorem reads_written_of_overshot (overshot : r.magnitude.Overshot)
    (found : r.magnitude.mantissa r.magnitude.decade = .ok (.finite m)) :
    r.magnitude.Reads (q.writtenSize m * (10 : Rat) ^ r.magnitude.decade) := by
  have power : (10 : Rat) * (10 : Rat) ^ (r.magnitude.leading - 1) =
      (10 : Rat) ^ r.magnitude.leading := by
    rw [← zpow_one_add₀ (by norm_num), add_sub_cancel]
  rw [eq_ten_of_overshot found overshot, writtenSize_ten, overshot.decade_eq, power]
  exact overshot.reads

variable (found : r.magnitude.mantissa r.magnitude.decade = .ok (.finite m))
  (reached : ¬ r.magnitude.Overshot) (short : q.ownFigures ≤ 15)

include found reached short

private theorem reads_written_of_exact (exact : q.precision = .exact)
    (nonzero : q.magnitude.isZero = false) (rounded : q.rounded = .ok r) :
    r.magnitude.Reads (q.writtenSize m * (10 : Rat) ^ r.magnitude.decade) := by
  obtain rfl := eq_of_rounded_exact (precision_eq_exact.mp exact) rounded
  have positive := isZero_eq_false_iff.mp nonzero
  have mantissa := isMantissaOf_of_reached found positive reached
  obtain ⟨places, places_eq⟩ := Int.eq_ofNat_of_zero_le (sub_nonneg.mpr (exponent_le_leading _))
  -- the shortest decimal has a digit more than there are places behind the first
  have digits : r.magnitude.leading = (Decimal.shortest r.magnitude).exponent +
      digitCount (Decimal.shortest r.magnitude).coefficient - 1 := rfl
  rw [ownFigures, exact] at short
  dsimp only at short
  rw [writtenSize, exact]
  dsimp only
  rw [mantissa.shortest_size_of_short positive le_rfl places_eq.symm (by omega)]
  exact reads_moved_units positive reached le_rfl places_eq.symm

private theorem reads_written_of_figures (figures : q.precision = .figures count)
    (least : 1 ≤ count) (nonzero : q.magnitude.isZero = false) (rounded : q.rounded = .ok r)
    (finite : ∀ place, q.lastPlace = .place place →
      (q.magnitude.roundedTo place).isFinite = true) :
    r.magnitude.Reads (q.writtenSize m * (10 : Rat) ^ r.magnitude.decade) := by
  obtain ⟨positive, -, ends⟩ := ends_of_figures figures least nonzero rounded finite
  have mantissa := isMantissaOf_of_reached found positive reached
  rw [decade_eq_leading reached] at ends
  obtain ⟨places, places_eq⟩ := Int.eq_ofNat_of_zero_le (sub_nonneg.mpr least)
  rw [ownFigures, figures] at short
  dsimp only at short
  rw [writtenSize, figures]
  dsimp only
  rw [places_eq, Int.toNat_natCast,
    mantissa.shownUnits_of_short positive ends (by omega) (by omega)]
  exact reads_moved_units positive reached ends (by omega)

end Short

/-- Scientific text is read as the double nearest to the number that the written mantissa makes up
with the exponent. That is the rounded magnitude with at most fifteen figures, unless rounding left
the range of doubles, and otherwise just when the magnitude is the nearest double. -/
theorem scientific_reads (q : Quantity) (text : List Char) (nonzero : q.magnitude.isZero = false)
    (least : ∀ count, q.precision = .figures count → 1 ≤ count)
    (shown : q.scientific .letter = .ok text) :
    ∃ (r : Quantity) (m : Double.Finite), q.rounded = .ok r ∧
      r.magnitude.mantissa r.magnitude.decade = .ok (.finite m) ∧
      leadingDouble? text = some (Double.ofSize r.magnitude.negative
        (q.writtenSize m * (10 : Rat) ^ r.magnitude.decade)) ∧
      (leadingDouble? text = some (.finite r.magnitude) ↔
        r.magnitude.Reads (q.writtenSize m * (10 : Rat) ^ r.magnitude.decade)) ∧
      (q.ownFigures ≤ 15 →
        (∀ place, q.lastPlace = .place place →
          (q.magnitude.roundedTo place).isFinite = true) →
        leadingDouble? text = some (.finite r.magnitude)) := by
  obtain ⟨r, m, rounded, positive, found, written⟩ :=
    exists_mantissa_of_scientific nonzero least shown
  have read := leadingDouble?_of_mantissa positive found written
  have nonneg : 0 ≤ q.writtenSize m * (10 : Rat) ^ r.magnitude.decade :=
    mul_nonneg (writtenSize_nonneg q m) (ten_zpow_pos _).le
  have agrees : leadingDouble? text = some (.finite r.magnitude) ↔
      r.magnitude.Reads (q.writtenSize m * (10 : Rat) ^ r.magnitude.decade) := by
    rw [read, Option.some.injEq, Double.ofSize_eq_finite_iff nonneg]
    exact ⟨fun same => same.2.symm, fun reads => ⟨rfl, reads.symm⟩⟩
  refine ⟨r, m, rounded, found, read, agrees, ?_⟩
  intro short finite
  refine agrees.mpr ?_
  by_cases overshot : r.magnitude.Overshot
  · exact reads_written_of_overshot overshot found
  · cases figures : q.precision with
    | exact => exact reads_written_of_exact found overshot short figures nonzero rounded
    | figures count =>
      exact reads_written_of_figures found overshot short figures (least count figures) nonzero
        rounded finite

end Close

end Written

/-- The least double, exact. -/
theorem scientific_reads_least :
    let x : Quantity := ofExact ⟨false, 1, -1074, by decide⟩
    x.scientific .letter = .ok "5e-324".toList ∧
      leadingDouble? "5e-324".toList = some (.finite x.magnitude) := by
  intro x
  have shown : x.scientific .letter = .ok "5e-324".toList := by decide +kernel
  have short : x.ownFigures ≤ 15 := by decide +kernel
  have unbounded : ∀ place, x.lastPlace = .place place →
      (x.magnitude.roundedTo place).isFinite = true := fun _ bound => nomatch bound
  obtain ⟨r, m, rounded, -, -, -, same⟩ :=
    scientific_reads x _ (by decide) (fun _ figures => nomatch figures) shown
  obtain rfl := eq_of_rounded_exact rfl rounded
  exact ⟨shown, same short unbounded⟩

/-- The mantissa of 8000000000000001 is rounded in a coarser step than the number itself, so the
text of the exact number is that of the next integer. -/
theorem scientific_reads_other :
    let x : Quantity := ofExact ⟨false, 8000000000000001, 0, by decide⟩
    x.magnitude.isZero = false ∧ x.rounded = .ok x ∧
      x.scientific .letter = .ok "8.000000000000002e15".toList ∧
      leadingDouble? "8.000000000000002e15".toList ≠ some (.finite x.magnitude) := by
  intro x
  refine ⟨?_, ?_, ?_, ?_⟩ <;> decide +kernel

end SignificantFigures.Quantity
