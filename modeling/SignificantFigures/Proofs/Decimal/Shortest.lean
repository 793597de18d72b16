import SignificantFigures.Decimal.Shortest
import SignificantFigures.Proofs.Double.Reads

/-!
The shortest decimal of a double reads back to it, and no decimal that reads back lies on a coarser
grid. Its leading digit stands at the order of the double's size, unless the next power of ten is
read as the double: then it is that power.
-/

set_option autoImplicit false

namespace SignificantFigures.Decimal

open Rational

section Reduced

private theorem stripZeros_spec (coefficient : Nat) (exponent : Int) (nonzero : coefficient ≠ 0) :
    exponent ≤ (stripZeros coefficient exponent).2 ∧
      (stripZeros coefficient exponent).1 % 10 ≠ 0 ∧
      (stripZeros coefficient exponent).1 ≤ coefficient ∧
      ((stripZeros coefficient exponent).1 : Rat) * (10 : Rat) ^ (stripZeros coefficient exponent).2 =
        (coefficient : Rat) * (10 : Rat) ^ exponent := by
  fun_induction stripZeros coefficient exponent with
  | case1 coefficient exponent ends ih =>
    obtain ⟨low, last, bound, value⟩ := ih (by omega)
    refine ⟨by omega, last, by omega, value.trans ?_⟩
    have whole : (coefficient : Rat) = ((coefficient / 10 : Nat) : Rat) * 10 := by
      exact_mod_cast (show coefficient = coefficient / 10 * 10 by omega)
    rw [ten_zpow_add, zpow_one, whole]
    ring
  | case2 coefficient exponent stays =>
    exact ⟨le_rfl, fun ends => stays ⟨nonzero, ends⟩, le_rfl, rfl⟩

variable {d : Decimal}

theorem reduced_negative (d : Decimal) : d.reduced.negative = d.negative := by
  unfold reduced
  split_ifs <;> rfl

theorem reduced_size (d : Decimal) : d.reduced.size = d.size := by
  unfold reduced
  split_ifs with zero
  · simp [size, zero]
  · exact (stripZeros_spec d.coefficient d.exponent zero).2.2.2

theorem le_reduced_exponent (nonzero : d.coefficient ≠ 0) : d.exponent ≤ d.reduced.exponent := by
  unfold reduced
  rw [if_neg nonzero]
  exact (stripZeros_spec d.coefficient d.exponent nonzero).1

/-- The coefficient that is left does not end in zero. -/
theorem reduced_coefficient_mod_ten_ne_zero (nonzero : d.coefficient ≠ 0) :
    d.reduced.coefficient % 10 ≠ 0 := by
  unfold reduced
  rw [if_neg nonzero]
  exact (stripZeros_spec d.coefficient d.exponent nonzero).2.1

theorem reduced_coefficient_ne_zero (nonzero : d.coefficient ≠ 0) :
    d.reduced.coefficient ≠ 0 := by
  have last := reduced_coefficient_mod_ten_ne_zero nonzero
  omega

theorem reduced_exponent_of_coefficient_eq_zero (zero : d.coefficient = 0) :
    d.reduced.exponent = 0 := by
  rw [reduced, if_pos zero]

theorem reduced_coefficient_le (nonzero : d.coefficient ≠ 0) :
    d.reduced.coefficient ≤ d.coefficient := by
  unfold reduced
  rw [if_neg nonzero]
  exact (stripZeros_spec d.coefficient d.exponent nonzero).2.2.1

end Reduced

section Grid

variable {x : Double.Finite} {exponent : Int}

private theorem readsBack_iff {coefficient : Nat} : readsBack x exponent coefficient = true ↔
    x.Reads ((coefficient : Rat) * (10 : Rat) ^ exponent) := by
  unfold readsBack
  rw [beq_iff_eq, nearest_eq_finite_iff, Double.Finite.Reads, eq_comm (a := x.size)]
  exact and_iff_right rfl

private theorem floor_bounds (x : Double.Finite) (exponent : Int) :
    ((x.size / (10 : Rat) ^ exponent).floor.toNat : Rat) * (10 : Rat) ^ exponent ≤ x.size ∧
      x.size < (((x.size / (10 : Rat) ^ exponent).floor.toNat + 1 : Nat) : Rat) *
        (10 : Rat) ^ exponent := by
  have unit := ten_zpow_pos exponent
  have nonneg : 0 ≤ (x.size / (10 : Rat) ^ exponent).floor := by
    rw [Rat.le_floor_iff]
    exact div_nonneg x.size_nonneg unit.le
  have low := Rat.floor_le (x.size / (10 : Rat) ^ exponent)
  have high := Rat.lt_floor_add_one (x.size / (10 : Rat) ^ exponent)
  obtain ⟨n, hn⟩ := Int.eq_ofNat_of_zero_le nonneg
  rw [hn] at low high ⊢
  rw [le_div_iff₀ unit] at low
  rw [div_lt_iff₀ unit] at high
  rw [Int.toNat_natCast]
  push_cast at low high ⊢
  exact ⟨low, high⟩

theorem neighbour_eq_some {coefficient : Nat}
    (found : neighbourReadingBack x exponent = some coefficient) :
    x.Reads ((coefficient : Rat) * (10 : Rat) ^ exponent) ∧
      (coefficient = (x.size / (10 : Rat) ^ exponent).floor.toNat ∨
        coefficient = (x.size / (10 : Rat) ^ exponent).floor.toNat + 1) := by
  have unit := ten_zpow_pos exponent
  have nonneg : 0 ≤ (x.size / (10 : Rat) ^ exponent).floor := by
    rw [Rat.le_floor_iff]
    exact div_nonneg x.size_nonneg unit.le
  unfold neighbourReadingBack at found
  dsimp only at found
  split at found
  · next low high =>
    obtain rfl := Option.some.inj found
    rcases halfEven_mem_neighbours (x.size / (10 : Rat) ^ exponent) with below | above
    · rw [below]
      exact ⟨readsBack_iff.mp low, Or.inl rfl⟩
    · rw [above, Int.toNat_add nonneg (by norm_num)]
      exact ⟨readsBack_iff.mp high, Or.inr rfl⟩
  · next low _ =>
    obtain rfl := Option.some.inj found
    exact ⟨readsBack_iff.mp low, Or.inl rfl⟩
  · next _ high =>
    obtain rfl := Option.some.inj found
    exact ⟨readsBack_iff.mp high, Or.inr rfl⟩
  · exact nomatch found

/-- Where a number of a grid is read as the double, one of the two neighbours is. -/
theorem neighbour_ne_none {n : Nat} (reads : x.Reads ((n : Rat) * (10 : Rat) ^ exponent)) :
    neighbourReadingBack x exponent ≠ none := by
  have unit := ten_zpow_pos exponent
  obtain ⟨low, high⟩ := floor_bounds x exponent
  intro found
  unfold neighbourReadingBack at found
  dsimp only at found
  split at found
  · exact nomatch found
  · exact nomatch found
  · exact nomatch found
  · next notLow notHigh =>
    rcases le_or_gt n (x.size / (10 : Rat) ^ exponent).floor.toNat with below | above
    · have ordered : (n : Rat) * (10 : Rat) ^ exponent ≤
          ((x.size / (10 : Rat) ^ exponent).floor.toNat : Rat) * (10 : Rat) ^ exponent := by gcongr
      have := reads.between x.reads_size (by positivity) ordered low
      rw [readsBack_iff.mpr this] at notLow
      exact nomatch notLow
    · have ordered : (((x.size / (10 : Rat) ^ exponent).floor.toNat + 1 : Nat) : Rat) *
          (10 : Rat) ^ exponent ≤ (n : Rat) * (10 : Rat) ^ exponent := by
        have : (((x.size / (10 : Rat) ^ exponent).floor.toNat + 1 : Nat) : Rat) ≤ n := by
          exact_mod_cast above
        gcongr
      have := x.reads_size.between reads x.size_nonneg high.le ordered
      rw [readsBack_iff.mpr this] at notHigh
      exact nomatch notHigh

/-- The search ends on the first grid with a neighbour that reads back, and there is one. -/
private theorem shortestOnGrid_eq_some (positive : 0 < x.size) :
    ∃ (further coefficient : Nat), further ≤ 16 ∧
      shortestOnGrid x = some ⟨x.negative, coefficient, decimalOrder x.size - (further : Int)⟩ ∧
      neighbourReadingBack x (decimalOrder x.size - (further : Int)) = some coefficient ∧
      ∀ nearer < further,
        neighbourReadingBack x (decimalOrder x.size - (nearer : Int)) = none := by
  obtain ⟨n, reads⟩ := Double.Finite.exists_reads_seventeen positive
  have last := neighbour_ne_none reads
  obtain ⟨answer, found⟩ : ∃ answer, shortestOnGrid x = some answer := by
    rw [← Option.ne_none_iff_exists', ne_eq, shortestOnGrid, List.findSome?_eq_none_iff]
    intro missing
    have := missing 16 (by simp)
    rw [Option.map_eq_none_iff] at this
    exact last this
  have search := found
  unfold shortestOnGrid at search
  rw [List.findSome?_eq_some_iff] at search
  obtain ⟨before, further, after, cut, hit, missed⟩ := search
  obtain ⟨coefficient, neighbour, rfl⟩ := Option.map_eq_some_iff.mp hit
  have length : before.length < 17 := by
    have := congrArg List.length cut
    simp at this
    omega
  have position : further = before.length := by
    have := congrArg (fun l => l[before.length]?) cut
    simp [length] at this
    exact this.symm
  refine ⟨further, coefficient, by omega, found, neighbour, ?_⟩
  intro nearer closer
  have member : nearer ∈ before := by
    have := congrArg (fun l => l[nearer]?) cut
    rw [position] at closer
    simp [List.getElem?_append_left closer, show nearer < 17 by omega] at this
    exact List.mem_iff_getElem?.mpr ⟨nearer, this.symm⟩
  exact Option.map_eq_none_iff.mp (missed nearer member)

end Grid

section Shortest

variable {x : Double.Finite}

/-- The shortest decimal of a nonzero double is the first neighbour that reads back, without the
zeros at its end. -/
private theorem shortest_eq_reduced (positive : 0 < x.size) :
    ∃ (further coefficient : Nat), further ≤ 16 ∧
      shortest x =
        (⟨x.negative, coefficient, decimalOrder x.size - (further : Int)⟩ : Decimal).reduced ∧
      neighbourReadingBack x (decimalOrder x.size - (further : Int)) = some coefficient ∧
      coefficient ≠ 0 ∧
      ∀ nearer < further,
        neighbourReadingBack x (decimalOrder x.size - (nearer : Int)) = none := by
  obtain ⟨further, coefficient, bound, found, neighbour, missed⟩ := shortestOnGrid_eq_some positive
  refine ⟨further, coefficient, bound, ?_, neighbour, ?_, missed⟩
  · unfold shortest
    rw [Double.Finite.isZero_eq_false_iff.mpr positive, found]
    rfl
  · rintro rfl
    have reads := (neighbour_eq_some neighbour).1
    rw [Nat.cast_zero, zero_mul] at reads
    exact lt_irrefl _ (reads.pos positive le_rfl)

theorem shortest_negative (x : Double.Finite) : (shortest x).negative = x.negative := by
  rcases x.size_nonneg.eq_or_lt with zero | positive
  · unfold shortest
    rw [Double.Finite.isZero_iff.mpr zero.symm]
    rfl
  · obtain ⟨further, coefficient, -, found, -⟩ := shortest_eq_reduced positive
    rw [found, reduced_negative]

theorem reads_shortest (positive : 0 < x.size) : x.Reads (shortest x).size := by
  obtain ⟨further, coefficient, -, found, neighbour, -⟩ := shortest_eq_reduced positive
  rw [found, reduced_size]
  exact (neighbour_eq_some neighbour).1

theorem shortest_coefficient_ne_zero (positive : 0 < x.size) : (shortest x).coefficient ≠ 0 := by
  obtain ⟨further, coefficient, -, found, -, nonzero, -⟩ := shortest_eq_reduced positive
  rw [found]
  exact reduced_coefficient_ne_zero nonzero

theorem shortest_of_size_eq_zero (zero : x.size = 0) : shortest x = ⟨x.negative, 0, 0⟩ := by
  unfold shortest
  rw [Double.Finite.isZero_iff.mpr zero]
  rfl

/-- The shortest decimal of a double reads back to it. -/
theorem nearest_shortest (x : Double.Finite) : (shortest x).nearest = .finite x := by
  rw [nearest_eq_finite_iff, shortest_negative]
  refine ⟨rfl, ?_⟩
  rcases x.size_nonneg.eq_or_lt with zero | positive
  · rw [shortest_of_size_eq_zero zero.symm, ← zero]
    simp [size]
  · exact (reads_shortest positive).symm

private theorem order_bounds (positive : 0 < x.size) :
    (10 : Rat) ^ decimalOrder x.size ≤ x.size ∧ x.size < (10 : Rat) ^ (decimalOrder x.size + 1) := by
  rw [ten_zpow_le_iff positive, lt_ten_zpow_iff positive]
  omega

/-- Just below the next power of ten the neighbour above is ten units, and it is the closer one. -/
private theorem neighbour_of_reads_power (positive : 0 < x.size)
    (reads : x.Reads ((10 : Rat) ^ (decimalOrder x.size + 1))) :
    neighbourReadingBack x (decimalOrder x.size) = some 10 := by
  obtain ⟨low, high⟩ := order_bounds positive
  have close := reads.power_close positive high.le
  have unit := ten_zpow_pos (decimalOrder x.size)
  rw [ten_zpow_add, zpow_one] at close high
  have scaled_high : x.size / (10 : Rat) ^ decimalOrder x.size < 10 := by
    rw [div_lt_iff₀ unit]
    linarith
  have scaled_low : 19 / 2 < x.size / (10 : Rat) ^ decimalOrder x.size := by
    rw [lt_div_iff₀ unit]
    linarith
  have floor_eq : (x.size / (10 : Rat) ^ decimalOrder x.size).floor = 9 := by
    have below := Rat.floor_lt_iff.mpr (show x.size / (10 : Rat) ^ decimalOrder x.size < (10 : Int) by
      exact_mod_cast scaled_high)
    have above := Rat.le_floor_iff.mpr (show ((9 : Int) : Rat) ≤
      x.size / (10 : Rat) ^ decimalOrder x.size by push_cast; linarith)
    omega
  have halfEven_eq : halfEven (x.size / (10 : Rat) ^ decimalOrder x.size) = 10 := by
    apply halfEven_eq_of_abs_lt
    push_cast
    rw [abs_lt]
    constructor <;> linarith
  have ten_reads : readsBack x (decimalOrder x.size) 10 = true := by
    rw [readsBack_iff, Nat.cast_ofNat, mul_comm, ← zpow_add_one₀ (by norm_num)]
    exact reads
  unfold neighbourReadingBack
  simp only [floor_eq, halfEven_eq, show (9 : Int).toNat + 1 = 10 from rfl, ten_reads]
  cases readsBack x (decimalOrder x.size) (9 : Int).toNat <;> rfl

/-- A double that the next power of ten is read as has that power as its shortest decimal. -/
theorem shortest_of_reads_power (positive : 0 < x.size)
    (reads : x.Reads ((10 : Rat) ^ (decimalOrder x.size + 1))) :
    shortest x = ⟨x.negative, 1, decimalOrder x.size + 1⟩ := by
  have neighbour := neighbour_of_reads_power positive reads
  obtain ⟨further, coefficient, -, found, hit, -, missed⟩ := shortest_eq_reduced positive
  have first : further = 0 := by
    by_contra later
    have := missed 0 (by omega)
    rw [Nat.cast_zero, sub_zero, neighbour] at this
    exact nomatch this
  rw [first, Nat.cast_zero, sub_zero, neighbour] at hit
  obtain rfl := Option.some.inj hit
  rw [found, first]
  simp [reduced, stripZeros]

private theorem shortest_size_bounds (positive : 0 < x.size)
    (unread : ¬ x.Reads ((10 : Rat) ^ (decimalOrder x.size + 1))) :
    (10 : Rat) ^ decimalOrder x.size ≤ (shortest x).size ∧
      (shortest x).size < (10 : Rat) ^ (decimalOrder x.size + 1) := by
  obtain ⟨low, high⟩ := order_bounds positive
  constructor
  · obtain ⟨further, coefficient, -, found, neighbour, -⟩ := shortest_eq_reduced positive
    rw [found, reduced_size]
    have unit := ten_zpow_pos (decimalOrder x.size - further)
    have power : (10 : Rat) ^ decimalOrder x.size =
        ((10 ^ further : Nat) : Rat) * (10 : Rat) ^ (decimalOrder x.size - further) := by
      rw [show decimalOrder x.size = further + (decimalOrder x.size - further) by ring,
        ten_zpow_add, zpow_natCast]
      simp
    -- the lower neighbour is no less than the power of ten, which lies on every finer grid
    have reached : 10 ^ further ≤
        (x.size / (10 : Rat) ^ (decimalOrder x.size - further)).floor.toNat := by
      have : ((10 ^ further : Nat) : Int) ≤
          (x.size / (10 : Rat) ^ (decimalOrder x.size - further)).floor := by
        rw [Rat.le_floor_iff, Int.cast_natCast, le_div_iff₀ unit, ← power]
        exact low
      omega
    have bound : 10 ^ further ≤ coefficient := by
      rcases (neighbour_eq_some neighbour).2 with equal | equal <;> omega
    have bound' : ((10 ^ further : Nat) : Rat) ≤ coefficient := by exact_mod_cast bound
    rw [power]
    unfold size
    gcongr
  · by_contra reached
    rw [not_lt] at reached
    exact unread (x.reads_size.between (reads_shortest positive) x.size_nonneg high.le reached)

/-- The leading digit of the shortest decimal. -/
theorem shortest_leading (positive : 0 < x.size) :
    (x.Reads ((10 : Rat) ^ (decimalOrder x.size + 1)) ∧
      (shortest x).leading = decimalOrder x.size + 1) ∨
    (¬ x.Reads ((10 : Rat) ^ (decimalOrder x.size + 1)) ∧
      (shortest x).leading = decimalOrder x.size) := by
  by_cases reads : x.Reads ((10 : Rat) ^ (decimalOrder x.size + 1))
  · refine Or.inl ⟨reads, ?_⟩
    rw [shortest_of_reads_power positive reads]
    simp [leading, digitCount, Nat.toDigits_of_lt_base]
  · refine Or.inr ⟨reads, ?_⟩
    obtain ⟨low, high⟩ := shortest_size_bounds positive reads
    have nonzero := shortest_coefficient_ne_zero positive
    have sizePos := size_pos_iff.mpr nonzero
    rw [ten_zpow_le_iff sizePos, ← leading_eq_decimalOrder nonzero] at low
    rw [lt_ten_zpow_iff sizePos, ← leading_eq_decimalOrder nonzero] at high
    omega

/-- No decimal that reads back ends in a higher place than the shortest one. -/
theorem le_shortest_exponent {coefficient : Nat} {exponent : Int} (positive : 0 < x.size)
    (reads : x.Reads ((coefficient : Rat) * (10 : Rat) ^ exponent)) :
    exponent ≤ (shortest x).exponent := by
  have unit := ten_zpow_pos exponent
  have nonzero : coefficient ≠ 0 := by
    rintro rfl
    rw [Nat.cast_zero, zero_mul] at reads
    exact lt_irrefl _ (reads.pos positive le_rfl)
  have one : (1 : Rat) ≤ coefficient := by exact_mod_cast Nat.one_le_iff_ne_zero.mpr nonzero
  have reached : (10 : Rat) ^ exponent ≤ (coefficient : Rat) * (10 : Rat) ^ exponent :=
    le_mul_of_one_le_left unit.le one
  obtain ⟨low, high⟩ := order_bounds positive
  rcases le_or_gt exponent (decimalOrder x.size) with fine | coarse
  · obtain ⟨further, first, -, found, -, first_ne, missed⟩ := shortest_eq_reduced positive
    have near : (further : Int) ≤ decimalOrder x.size - exponent := by
      by_contra early
      have := missed (decimalOrder x.size - exponent).toNat (by omega)
      rw [Int.toNat_of_nonneg (by omega), sub_sub_cancel] at this
      exact neighbour_ne_none reads this
    rw [found]
    have := le_reduced_exponent (d := ⟨x.negative, first, decimalOrder x.size - (further : Int)⟩)
      first_ne
    dsimp only at this
    omega
  · -- a multiple of a power of ten above the double: the next power is read as it, and no further
    have power_le : (10 : Rat) ^ (decimalOrder x.size + 1) ≤
        (coefficient : Rat) * (10 : Rat) ^ exponent :=
      (ten_zpow_le_iff_le.mpr (by omega)).trans reached
    have power_reads := x.reads_size.between reads x.size_nonneg high.le power_le
    rw [shortest_of_reads_power positive power_reads]
    exact power_reads.power_le reads positive (by positivity) reached

theorem digitCount_shortest_le (positive : 0 < x.size) :
    digitCount (shortest x).coefficient ≤ 18 := by
  obtain ⟨further, coefficient, bound, found, neighbour, nonzero, -⟩ := shortest_eq_reduced positive
  have unit := ten_zpow_pos (decimalOrder x.size - further)
  obtain ⟨-, high⟩ := order_bounds positive
  have below : (x.size / (10 : Rat) ^ (decimalOrder x.size - further)).floor < 10 ^ (further + 1) := by
    rw [Rat.floor_lt_iff, div_lt_iff₀ unit]
    push_cast
    rw [← zpow_natCast, ← ten_zpow_add, show ((further + 1 : Nat) : Int) +
      (decimalOrder x.size - further) = decimalOrder x.size + 1 by push_cast; ring]
    exact high
  have power : 10 ^ (further + 1) ≤ 10 ^ 17 := Nat.pow_le_pow_right (by decide) (by omega)
  have coefficient_le : coefficient < 10 ^ 18 := by
    have below' : (x.size / (10 : Rat) ^ (decimalOrder x.size - further)).floor.toNat <
        10 ^ (further + 1) := by
      zify
      rcases le_or_gt 0 (x.size / (10 : Rat) ^ (decimalOrder x.size - further)).floor with nonneg | neg
      · rwa [Int.toNat_of_nonneg nonneg]
      · rw [Int.toNat_of_nonpos neg.le]
        positivity
    rcases (neighbour_eq_some neighbour).2 with equal | equal <;> omega
  rw [found, digitCount_le_iff (by decide)]
  exact (reduced_coefficient_le nonzero).trans_lt coefficient_le

/-- No double needs a decimal place beyond the 324th. -/
theorem neg_324_le_shortest_exponent (positive : 0 < x.size) : -324 ≤ (shortest x).exponent := by
  obtain ⟨n, reads⟩ := x.exists_reads_least
  exact le_shortest_exponent positive reads

private theorem neighbourReadingBack_congr {y : Double.Finite} (same : x.size = y.size)
    (exponent : Int) : neighbourReadingBack x exponent = neighbourReadingBack y exponent := by
  have reads (coefficient : Nat) :
      readsBack x exponent coefficient = readsBack y exponent coefficient := by
    rw [Bool.eq_iff_iff, readsBack_iff, readsBack_iff, Double.Finite.Reads, Double.Finite.Reads, same]
  unfold neighbourReadingBack
  simp only [same, reads]

/-- The sign of a double does not change the size of its shortest decimal. -/
theorem shortest_size_congr {y : Double.Finite} (same : x.size = y.size) :
    (shortest x).size = (shortest y).size := by
  rcases x.size_nonneg.eq_or_lt with zero | positive
  · rw [shortest_of_size_eq_zero zero.symm, shortest_of_size_eq_zero (same ▸ zero.symm), size, size]
  · obtain ⟨j, m, -, foundX, hitX, -, missedX⟩ := shortest_eq_reduced positive
    obtain ⟨k, n, -, foundY, hitY, -, missedY⟩ := shortest_eq_reduced (same ▸ positive)
    rw [← same] at hitY missedY foundY
    -- both searches end on the first grid with a neighbour that reads back
    have first : j = k := by
      rcases lt_trichotomy j k with before | equal | behind
      · rw [neighbourReadingBack_congr same, missedY j before] at hitX
        exact absurd hitX.symm (Option.some_ne_none m)
      · exact equal
      · rw [← neighbourReadingBack_congr same, missedX k behind] at hitY
        exact absurd hitY.symm (Option.some_ne_none n)
    rw [← first, ← neighbourReadingBack_congr same, hitX] at hitY
    rw [foundX, foundY, reduced_size, reduced_size, size, size, Option.some.inj hitY, first]

/-- The shortest decimal grows with the size. -/
theorem shortest_size_mono {y : Double.Finite} (ordered : x.size ≤ y.size) :
    (shortest x).size ≤ (shortest y).size := by
  rcases ordered.eq_or_lt with same | below
  · exact (shortest_size_congr same).le
  · by_contra crossed
    have rounded := Double.roundedSize_mono (size_nonneg _) (not_le.mp crossed).le
    have readX := (nearest_eq_finite_iff.mp (nearest_shortest x)).2
    have readY := (nearest_eq_finite_iff.mp (nearest_shortest y)).2
    rw [← readX, ← readY] at rounded
    exact absurd below (not_lt.mpr rounded)

end Shortest

end SignificantFigures.Decimal
