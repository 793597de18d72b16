import Mathlib.Tactic.Ring
import SignificantFigures.Proofs.Decimal.Nearest
import SignificantFigures.Proofs.Numeral.Grammar

/-!
The places of the figures of a literal as they are written: that of the last figure, which is the
last digit where there is a point and the last digit other than zero where there is none, and that
of the first. The value of the literal lies in the decade of its first figure.
-/

set_option autoImplicit false

namespace SignificantFigures.Numeral

open Rational

section Digits

variable {digits : List Char}

theorem ofDigitChars_lt (all : ∀ c ∈ digits, c.isDigit = true) :
    Nat.ofDigitChars 10 digits 0 < 10 ^ digits.length := by
  induction digits with
  | nil => simp
  | cons c digits ih =>
    obtain ⟨-, high⟩ := isDigit_iff.mp (all c List.mem_cons_self)
    have rest := ih fun d hd => all d (List.mem_cons_of_mem c hd)
    have digit : c.toNat - '0'.toNat ≤ 9 := by
      have zero : '0'.toNat = 48 := rfl
      omega
    rw [Nat.ofDigitChars_cons, Nat.ofDigitChars_eq_ofDigitChars_zero, Nat.mul_zero, Nat.zero_add,
      List.length_cons, pow_succ]
    have := Nat.mul_le_mul_left (10 ^ digits.length) digit
    omega

/-- A first digit other than zero counts at least once at its place. -/
theorem pow_le_ofDigitChars {c : Char} (digit : c.isDigit = true) (nonzero : c ≠ '0') :
    10 ^ digits.length ≤ Nat.ofDigitChars 10 (c :: digits) 0 := by
  obtain ⟨low, -⟩ := isDigit_iff.mp digit
  have differ : c.toNat ≠ 48 := by
    intro same
    exact nonzero (Char.toNat_inj.mp same)
  have one : 1 ≤ c.toNat - '0'.toNat := by
    have zero : '0'.toNat = 48 := rfl
    omega
  rw [Nat.ofDigitChars_cons, Nat.ofDigitChars_eq_ofDigitChars_zero, Nat.mul_zero, Nat.zero_add]
  have := Nat.mul_le_mul_left (10 ^ digits.length) one
  omega

/-- Zeros in front do not change the number that digits stand for. -/
theorem ofDigitChars_dropZeros (digits : List Char) :
    Nat.ofDigitChars 10 (dropZeros digits) 0 = Nat.ofDigitChars 10 digits 0 := by
  obtain ⟨zeros, form⟩ := exists_zeros digits
  conv_rhs => rw [form, Nat.ofDigitChars_append, Nat.ofDigitChars_replicate_zero, Nat.mul_zero]

/-- The number of zeros at the end of digits. -/
def trailingZeros (digits : List Char) : Nat :=
  (digits.reverse.takeWhile (· == '0')).length

theorem length_dropLastZeros (digits : List Char) :
    (dropLastZeros digits).length + trailingZeros digits = digits.length := by
  have parts := congrArg List.length
    (List.takeWhile_append_dropWhile (p := (· == '0')) (l := digits.reverse))
  rw [List.length_append, List.length_reverse] at parts
  rw [dropLastZeros, List.length_reverse, trailingZeros, dropZeros]
  omega

/-- Zeros in front are none of those at the end where there is another digit. -/
theorem trailingZeros_dropZeros (nonzero : dropZeros digits ≠ []) :
    trailingZeros (dropZeros digits) = trailingZeros digits := by
  obtain ⟨zeros, form⟩ := exists_zeros digits
  cases figures : dropZeros digits with
  | nil => exact absurd figures nonzero
  | cons c rest =>
    have partly : ((c :: rest).reverse.takeWhile (· == '0')).length ≠
        (c :: rest).reverse.length := by
      have filled : dropLastZeros (c :: rest) ≠ [] :=
        dropLastZeros_ne_nil (head_dropZeros_ne figures)
      have ends := List.length_pos_iff.mpr filled
      have parts := length_dropLastZeros (c :: rest)
      rw [List.length_reverse]
      unfold trailingZeros at parts
      omega
    unfold trailingZeros
    rw [form, figures, List.reverse_append, List.takeWhile_append, if_neg partly]

end Digits

namespace LiteralForm

/-- The place of the last significant figure that is written. -/
def lastPlace (f : LiteralForm) : Int :=
  match f.mantissa.fraction with
  | some behind => exponentValue f.exponent - behind.length
  | none => exponentValue f.exponent + trailingZeros f.mantissa.whole

/-- The place of the first significant figure that is written. -/
def firstPlace (f : LiteralForm) : Int :=
  f.lastPlace + f.mantissa.figures.length - 1

variable {f : LiteralForm}

/-- From the first figure to the last digit there are all digits but the zeros in front. -/
private theorem firstPlace_eq (nonzero : dropZeros f.mantissa.digits ≠ []) :
    f.firstPlace = (dropZeros f.mantissa.digits).length - 1 +
      (exponentValue f.exponent - (f.mantissa.fraction.getD []).length) := by
  unfold firstPlace lastPlace Mantissa.figures
  cases written : f.mantissa.fraction with
  | some behind =>
    simp only [Option.getD_some]
    omega
  | none =>
    have whole : f.mantissa.digits = f.mantissa.whole := by simp [Mantissa.digits, written]
    have parts := length_dropLastZeros (dropZeros f.mantissa.digits)
    rw [trailingZeros_dropZeros nonzero, whole] at parts
    simp only [whole, Option.getD_none, List.length_nil]
    omega

/-- The value of a literal with a digit other than zero lies in the decade of its first figure. -/
theorem size_bounds (f : LiteralForm) (wf : f.WellFormed)
    (nonzero : dropZeros f.mantissa.digits ≠ []) :
    (10 : Rat) ^ f.firstPlace ≤ f.value.size ∧ f.value.size < (10 : Rat) ^ (f.firstPlace + 1) := by
  have all : ∀ c ∈ dropZeros f.mantissa.digits, c.isDigit = true :=
    fun c hc => wf.mantissa.2 c (mem_of_mem_dropZeros hc)
  have unit := ten_zpow_pos (exponentValue f.exponent - (f.mantissa.fraction.getD []).length)
  have high := ofDigitChars_lt all
  have first := firstPlace_eq nonzero
  rw [Decimal.size, value, ← ofDigitChars_dropZeros]
  cases figures : dropZeros f.mantissa.digits with
  | nil => exact absurd figures nonzero
  | cons c rest =>
    rw [figures] at all high first
    have low : 10 ^ rest.length ≤ Nat.ofDigitChars 10 (c :: rest) 0 :=
      pow_le_ofDigitChars (all c List.mem_cons_self) (head_dropZeros_ne figures)
    rw [List.length_cons] at high first
    have low' : (10 : Rat) ^ (rest.length : Int) ≤ (Nat.ofDigitChars 10 (c :: rest) 0 : Rat) := by
      rw [zpow_natCast]
      exact_mod_cast low
    have high' : (Nat.ofDigitChars 10 (c :: rest) 0 : Rat) <
        (10 : Rat) ^ ((rest.length + 1 : Nat) : Int) := by
      rw [zpow_natCast]
      exact_mod_cast high
    constructor
    · rw [show f.firstPlace = rest.length +
        (exponentValue f.exponent - (f.mantissa.fraction.getD []).length) by omega, ten_zpow_add]
      exact mul_le_mul_of_nonneg_right low' unit.le
    · rw [show f.firstPlace + 1 = ((rest.length + 1 : Nat) : Int) +
        (exponentValue f.exponent - (f.mantissa.fraction.getD []).length) by omega, ten_zpow_add]
      exact mul_lt_mul_of_pos_right high' unit

end LiteralForm

end SignificantFigures.Numeral
