import SignificantFigures.Rational.Rounding
import Mathlib.Data.Rat.Floor
import Mathlib.Tactic.Linarith
import Mathlib.Tactic.Ring

/-!
Both ways of rounding a rational to an integer end within one half of it, so no integer is closer,
and an integer that is closer than one half is the result.
-/

set_option autoImplicit false

namespace SignificantFigures.Rational

private theorem one_le_abs_sub {m n : Int} (h : m ≠ n) : (1 : Rat) ≤ |(m : Rat) - n| := by
  have apart : 1 ≤ |m - n| := by
    have := abs_pos.mpr (sub_ne_zero.mpr h)
    omega
  exact_mod_cast apart

/-- An integer within one half of a rational is as close to it as any. -/
theorem abs_sub_le_of_half {q : Rat} {n : Int} (h : |(n : Rat) - q| ≤ 1 / 2) (k : Int) :
    |(n : Rat) - q| ≤ |(k : Rat) - q| := by
  by_cases equal : n = k
  · rw [equal]
  have apart := one_le_abs_sub equal
  have triangle := abs_sub_le (n : Rat) q k
  rw [abs_sub_comm q k] at triangle
  linarith

private theorem eq_of_abs_sub_lt_half {q : Rat} {m n : Int} (hm : |(m : Rat) - q| ≤ 1 / 2)
    (hn : |q - n| < 1 / 2) : m = n := by
  by_contra differ
  have apart := one_le_abs_sub differ
  have triangle := abs_sub_le (m : Rat) q n
  linarith

theorem abs_halfEven_sub_le (q : Rat) : |(halfEven q : Rat) - q| ≤ 1 / 2 := by
  have low := Rat.floor_le q
  have high := Rat.lt_floor_add_one q
  push_cast at high
  unfold halfEven
  dsimp only
  split_ifs with below above
  · rw [abs_le]
    constructor <;> linarith
  · push_cast
    rw [abs_le]
    constructor <;> linarith
  · -- a tie: the even neighbour is the floor or the integer above it
    rcases Int.emod_two_eq_zero_or_one q.floor with even | odd
    · rw [even, add_zero, abs_le]
      constructor <;> linarith
    · rw [odd]
      push_cast
      rw [abs_le]
      constructor <;> linarith

theorem abs_halfUp_sub_le (q : Rat) : |(halfUp q : Rat) - q| ≤ 1 / 2 := by
  have low := Rat.floor_le (q + 1 / 2)
  have high := Rat.lt_floor_add_one (q + 1 / 2)
  push_cast at high
  unfold halfUp
  rw [abs_le]
  constructor <;> linarith

theorem halfEven_eq_of_abs_lt {q : Rat} {n : Int} (h : |q - n| < 1 / 2) : halfEven q = n :=
  eq_of_abs_sub_lt_half (abs_halfEven_sub_le q) h

theorem halfUp_eq_of_abs_lt {q : Rat} {n : Int} (h : |q - n| < 1 / 2) : halfUp q = n :=
  eq_of_abs_sub_lt_half (abs_halfUp_sub_le q) h

@[simp] theorem halfEven_intCast (n : Int) : halfEven n = n :=
  halfEven_eq_of_abs_lt (by norm_num)

@[simp] theorem halfUp_intCast (n : Int) : halfUp n = n :=
  halfUp_eq_of_abs_lt (by norm_num)

theorem halfEven_nonneg {q : Rat} (h : 0 ≤ q) : 0 ≤ halfEven q := by
  have near := abs_le.mp (abs_halfEven_sub_le q)
  have above : (-1 : Rat) < halfEven q := by linarith
  have : -1 < halfEven q := by exact_mod_cast above
  omega

/-- A half below an even integer goes up to it. -/
theorem halfEven_sub_half {n : Int} (even : n % 2 = 0) : halfEven ((n : Rat) - 1 / 2) = n := by
  have low : n - 1 ≤ ((n : Rat) - 1 / 2).floor := Rat.le_floor_iff.mpr (by push_cast; linarith)
  have high : ((n : Rat) - 1 / 2).floor < n := Rat.floor_lt_iff.mpr (by linarith)
  have floor : ((n : Rat) - 1 / 2).floor = n - 1 := by omega
  have part : (n : Rat) - 1 / 2 - ((n - 1 : Int) : Rat) = 1 / 2 := by
    push_cast
    ring
  unfold halfEven
  simp only [floor, part, lt_irrefl, if_false]
  omega

/-- Of two integers that are half away, the even one is taken. -/
theorem halfEven_of_tie {q : Rat} {k : Int} (near : |(k : Rat) - q| ≤ 1 / 2)
    (other : k ≠ halfEven q) : halfEven q % 2 = 0 ∧ k % 2 = 1 := by
  have low := Rat.floor_le q
  have high := Rat.lt_floor_add_one q
  obtain ⟨below, above⟩ := abs_le.mp near
  unfold halfEven at other ⊢
  dsimp only at other ⊢
  generalize q.floor = floor at low high other ⊢
  push_cast at high
  have least : floor ≤ k := by
    have : (floor : Rat) < k + 1 := by linarith
    have : floor < k + 1 := by exact_mod_cast this
    omega
  have most : k ≤ floor + 1 := by
    have : (k : Rat) < floor + 2 := by linarith
    have : k < floor + 2 := by exact_mod_cast this
    omega
  split_ifs at other ⊢ with lower upper
  · -- the floor is closer than half, and the integer above it is farther
    obtain rfl : k = floor + 1 := by omega
    push_cast at above
    linarith
  · obtain rfl : k = floor := by omega
    linarith
  · omega

theorem halfUp_mono {p q : Rat} (h : p ≤ q) : halfUp p ≤ halfUp q :=
  Rat.floor_monotone (by linarith)

/-- The even neighbour lies between the floor and the integer above it. -/
theorem halfEven_mem_neighbours (q : Rat) :
    halfEven q = q.floor ∨ halfEven q = q.floor + 1 := by
  unfold halfEven
  dsimp only
  split_ifs
  · exact Or.inl rfl
  · exact Or.inr rfl
  · rcases Int.emod_two_eq_zero_or_one q.floor with even | odd
    · exact Or.inl (by omega)
    · exact Or.inr (by omega)

theorem halfUp_nonneg {q : Rat} (h : 0 ≤ q) : 0 ≤ halfUp q := by
  have := halfUp_mono h
  rwa [show (0 : Rat) = ((0 : Int) : Rat) from rfl, halfUp_intCast] at this

section Away

/-- The nearest integer; a half goes away from zero. -/
def halfAway (q : Rat) : Int :=
  if q < 0 then -halfUp (-q) else halfUp q

variable {p q : Rat}

theorem halfAway_of_nonneg (h : 0 ≤ q) : halfAway q = halfUp q :=
  if_neg (not_lt.mpr h)

theorem halfAway_neg (q : Rat) : halfAway (-q) = -halfAway q := by
  have zero : halfUp 0 = 0 := halfUp_intCast 0
  rcases lt_trichotomy q 0 with below | rfl | above
  · rw [halfAway_of_nonneg (neg_nonneg.mpr below.le), halfAway, if_pos below, neg_neg]
  · simp [halfAway, zero]
  · rw [halfAway_of_nonneg above.le, halfAway, if_pos (neg_neg_iff_pos.mpr above), neg_neg]

theorem abs_halfAway_sub_le (q : Rat) : |(halfAway q : Rat) - q| ≤ 1 / 2 := by
  unfold halfAway
  split_ifs
  · have near := abs_halfUp_sub_le (-q)
    rw [Int.cast_neg, ← abs_neg]
    rwa [show -(-(halfUp (-q) : Rat) - q) = (halfUp (-q) : Rat) - -q by ring]
  · exact abs_halfUp_sub_le q

theorem halfAway_mono (h : p ≤ q) : halfAway p ≤ halfAway q := by
  unfold halfAway
  split_ifs with below below'
  · exact neg_le_neg (halfUp_mono (neg_le_neg h))
  · have := halfUp_nonneg (neg_nonneg.mpr below.le)
    have := halfUp_nonneg (not_lt.mp below')
    omega
  · linarith
  · exact halfUp_mono h

/-- No integer within one half of a rational is farther from zero than the result. -/
theorem abs_le_abs_halfAway {k : Int} (near : |(k : Rat) - q| ≤ 1 / 2) : |k| ≤ |halfAway q| := by
  have upward {q : Rat} {k : Int} (nonneg : 0 ≤ q) (near : |(k : Rat) - q| ≤ 1 / 2) :
      |k| ≤ |halfUp q| := by
    obtain ⟨low, high⟩ := abs_le.mp near
    have most : k ≤ halfUp q := Rat.le_floor_iff.mpr (by linarith)
    have least : -1 < k := by
      have : (-1 : Rat) < k := by linarith
      exact_mod_cast this
    rw [abs_of_nonneg (by omega), abs_of_nonneg (halfUp_nonneg nonneg)]
    exact most
  unfold halfAway
  split_ifs with below
  · rw [abs_neg, ← abs_neg k]
    refine upward (neg_nonneg.mpr below.le) ?_
    rw [← abs_neg]
    push_cast
    rwa [show -(-(k : Rat) - -q) = k - q by ring]
  · exact upward (not_lt.mp below) near

/-- A number of units whose multiple is closest to a rational and, of two that are equally close, the
farther from zero. -/
structure IsClosestMultiple (q unit : Rat) (m : Int) : Prop where
  closest : ∀ k : Int, |(m : Rat) * unit - q| ≤ |(k : Rat) * unit - q|
  away : ∀ k : Int, |(k : Rat) * unit - q| = |(m : Rat) * unit - q| → |k| ≤ |m|

theorem isClosestMultiple_halfAway {unit : Rat} (positive : 0 < unit) (q : Rat) :
    IsClosestMultiple q unit (halfAway (q / unit)) := by
  have distance (k : Int) : |(k : Rat) * unit - q| = |(k : Rat) - q / unit| * unit := by
    have split : (k : Rat) * unit - q = ((k : Rat) - q / unit) * unit := by field_simp
    rw [split, abs_mul, abs_of_pos positive]
  have near := abs_halfAway_sub_le (q / unit)
  constructor
  · intro k
    rw [distance, distance]
    exact mul_le_mul_of_nonneg_right (abs_sub_le_of_half near k) positive.le
  · intro k equal
    rw [distance, distance] at equal
    exact abs_le_abs_halfAway ((mul_right_cancel₀ positive.ne' equal).trans_le near)

end Away

end SignificantFigures.Rational
