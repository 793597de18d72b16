import Mathlib.Tactic.IntervalCases
import Mathlib.Tactic.SplitIfs
import SignificantFigures.Proofs.Numeral.Figures
import SignificantFigures.Rational.Order

/-!
Digits with the point in its place are the text of a numeral, whose value is the number of the
digits moved by the places, and whose figures are the digits from the first one that is not zero.
None of its characters is superfluous, unless the digits end in zero behind the point.
-/

set_option autoImplicit false

namespace SignificantFigures.Numeral

open Rational

section Digits

variable {n : Nat}

theorem isDigit_of_mem_toDigits {c : Char} (hc : c ∈ Nat.toDigits 10 n) : c.isDigit = true :=
  Nat.isDigit_of_mem_toDigits (by decide) (by decide) hc

theorem digitChar_ne_zero (nonzero : n ≠ 0) (small : n < 10) : n.digitChar ≠ '0' := by
  interval_cases n <;> simp_all

/-- The digits of a nonzero number do not start with zero. -/
theorem dropZeros_toDigits (nonzero : n ≠ 0) :
    dropZeros (Nat.toDigits 10 n) = Nat.toDigits 10 n := by
  induction n using Nat.strongRecOn with
  | _ n ih =>
    rw [Nat.toDigits_eq_if (by decide)]
    split
    · next small => exact dropZeros_of_head_ne (digitChar_ne_zero nonzero small)
    · rw [dropZeros_append, ih (n / 10) (by omega) (by omega), if_neg Nat.toDigits_ne_nil]

/-- The digits of a number start with zero only if that is all there is. -/
theorem toDigits_head (n : Nat) :
    Nat.toDigits 10 n = ['0'] ∨ ∃ c rest, Nat.toDigits 10 n = c :: rest ∧ c ≠ '0' := by
  rcases eq_or_ne n 0 with rfl | nonzero
  · exact Or.inl rfl
  · obtain ⟨c, rest, form⟩ := List.exists_cons_of_ne_nil (Nat.toDigits_ne_nil (b := 10) (n := n))
    exact Or.inr ⟨c, rest, form, head_dropZeros_ne ((dropZeros_toDigits nonzero).trans form)⟩

/-- The digits of a number that is no multiple of ten do not end in zero. -/
theorem toDigits_last (last : n % 10 ≠ 0) :
    ∃ front c, Nat.toDigits 10 n = front ++ [c] ∧ c ≠ '0' := by
  have nonzero := digitChar_ne_zero last (Nat.mod_lt n (by decide))
  rw [Nat.toDigits_eq_if (by decide)]
  split
  · next small =>
    rw [Nat.mod_eq_of_lt small] at nonzero
    exact ⟨[], _, rfl, nonzero⟩
  · exact ⟨_, _, rfl, nonzero⟩

theorem dropLastZeros_toDigits (last : n % 10 ≠ 0) :
    dropLastZeros (Nat.toDigits 10 n) = Nat.toDigits 10 n := by
  obtain ⟨front, c, form, nonzero⟩ := toDigits_last last
  rw [form, dropLastZeros, List.reverse_append, List.reverse_singleton, List.singleton_append,
    dropZeros_of_head_ne nonzero]
  simp

/-- A nonzero number times a power of ten has zeros behind its digits. -/
theorem toDigits_mul_pow (nonzero : n ≠ 0) (k : Nat) :
    Nat.toDigits 10 (n * 10 ^ k) = Nat.toDigits 10 n ++ List.replicate k '0' := by
  induction k with
  | zero => simp
  | succ k ih =>
    have positive : 0 < n * 10 ^ k :=
      Nat.mul_pos (Nat.pos_of_ne_zero nonzero) (Nat.pow_pos (by decide))
    have last := Nat.toDigits_append_toDigits (b := 10) (d := 0) (by decide) positive (by decide)
    rw [Nat.add_zero, ih, List.append_assoc] at last
    rw [Nat.pow_succ, ← Nat.mul_assoc, Nat.mul_comm _ 10, ← last, List.replicate_succ']
    rfl

end Digits

/-- The sign that a negative number is written with. -/
def Sign.ofNegative (negative : Bool) : Option Sign :=
  if negative then some minus else none

theorem Sign.decide_ofNegative (negative : Bool) :
    decide (ofNegative negative = some minus) = negative := by
  cases negative <;> rfl

theorem signed_eq (negative : Bool) (text : List Char) :
    signed negative text = Sign.text (Sign.ofNegative negative) ++ text := by
  cases negative <;> rfl

namespace Mantissa

/-- Digits after which zeros in front make room for a point before the last `places`. -/
def padded (digits : List Char) (places : Nat) : List Char :=
  List.replicate (places + 1 - digits.length) '0' ++ digits

/-- The mantissa of digits with the point before the last `places` of them. -/
def placed (digits : List Char) (places : Nat) : Mantissa :=
  if places = 0 then ⟨digits, none⟩
  else
    ⟨(padded digits places).take ((padded digits places).length - places),
      some ((padded digits places).drop ((padded digits places).length - places))⟩

/-- Zeros behind a zero only fill up what is missing before the point. -/
theorem pointed_zeros {zeros places : Nat} (short : zeros ≤ places) :
    Decimal.pointed (['0'] ++ List.replicate zeros '0') places = Decimal.pointed ['0'] places := by
  have filled {zeros : Nat} (short : zeros ≤ places) :
      padded (['0'] ++ List.replicate zeros '0') places = List.replicate (places + 1) '0' := by
    rw [padded, List.singleton_append, ← List.replicate_succ, List.length_replicate,
      List.replicate_append_replicate]
    congr 1
    omega
  have one := filled (Nat.zero_le places)
  rw [List.replicate_zero, List.append_nil] at one
  have same := (filled short).trans one.symm
  unfold padded at same
  unfold Decimal.pointed
  split_ifs with none
  · obtain rfl : zeros = 0 := by omega
    rfl
  · simp only [same]

variable (digits : List Char) (places : Nat)

theorem text_placed : (placed digits places).text = Decimal.pointed digits places := by
  unfold placed Decimal.pointed
  split_ifs
  · exact text_of_none rfl
  · exact text_of_some rfl

theorem placed_fraction_length :
    ((placed digits places).fraction.getD []).length = places := by
  unfold placed
  split_ifs with none
  · exact none.symm
  · simp only [Option.getD_some, List.length_drop, padded, List.length_append,
      List.length_replicate]
    omega

/-- The point takes no digit away, and only zeros are put in front. -/
theorem exists_digits_placed :
    ∃ zeros, (placed digits places).digits = List.replicate zeros '0' ++ digits := by
  unfold placed
  split_ifs
  · exact ⟨0, by simp [Mantissa.digits]⟩
  · refine ⟨places + 1 - digits.length, ?_⟩
    simp only [Mantissa.digits, Option.getD_some, List.take_append_drop]
    rfl

variable {digits}

theorem placed_wellFormed (nonempty : digits ≠ []) (all : ∀ c ∈ digits, c.isDigit = true) :
    (placed digits places).WellFormed := by
  obtain ⟨zeros, form⟩ := exists_digits_placed digits places
  rw [WellFormed, form]
  refine ⟨by simp [nonempty], ?_⟩
  intro c hc
  rcases List.mem_append.mp hc with zero | digit
  · rw [List.eq_of_mem_replicate zero]
    decide
  · exact all c digit

theorem dropZeros_digits_placed : dropZeros (placed digits places).digits = dropZeros digits := by
  obtain ⟨zeros, form⟩ := exists_digits_placed digits places
  rw [form, dropZeros_replicate_append]

theorem ofDigitChars_digits_placed :
    Nat.ofDigitChars 10 (placed digits places).digits 0 = Nat.ofDigitChars 10 digits 0 := by
  obtain ⟨zeros, form⟩ := exists_digits_placed digits places
  rw [form, Nat.ofDigitChars_append, Nat.ofDigitChars_replicate_zero, Nat.mul_zero]

theorem figures_placed (n : Nat) (nonzero : n ≠ 0) (last : places = 0 → n % 10 ≠ 0) :
    (placed (Nat.toDigits 10 n) places).figures = Nat.toDigits 10 n := by
  have front : dropZeros (placed (Nat.toDigits 10 n) places).digits = Nat.toDigits 10 n := by
    rw [dropZeros_digits_placed, dropZeros_toDigits nonzero]
  unfold figures
  rw [front]
  by_cases none : places = 0
  · rw [placed, if_pos none]
    exact dropLastZeros_toDigits (last none)
  · rw [placed, if_neg none]

/-- A mantissa without a superfluous character: before the point are digits that start with zero
only if that is all there is, and behind a point are digits that do not end in zero. -/
structure Trimmed (m : Mantissa) : Prop where
  digits : ∀ c ∈ m.digits, c.isDigit = true
  whole : m.whole = ['0'] ∨ ∃ c rest, m.whole = c :: rest ∧ c ≠ '0'
  fraction : ∀ behind, m.fraction = some behind → ∃ front c, behind = front ++ [c] ∧ c ≠ '0'

/-- Before the point is a zero or the front of the digits. -/
private theorem whole_placed (n places : Nat) :
    (placed (Nat.toDigits 10 n) places).whole = ['0'] ∨
      ∃ c rest, (placed (Nat.toDigits 10 n) places).whole = c :: rest ∧ c ≠ '0' := by
  by_cases none : places = 0
  · rw [placed, if_pos none]
    exact toDigits_head n
  rw [placed, if_neg none]
  dsimp only
  rcases le_or_gt (Nat.toDigits 10 n).length places with short | long
  · have filled : padded (Nat.toDigits 10 n) places =
        '0' :: (List.replicate (places - (Nat.toDigits 10 n).length) '0' ++ Nat.toDigits 10 n) := by
      rw [padded, Nat.succ_sub short, List.replicate_succ, List.cons_append]
    have one : (padded (Nat.toDigits 10 n) places).length - places = 1 := by
      rw [filled, List.length_cons, List.length_append, List.length_replicate]
      omega
    refine Or.inl ?_
    rw [one, filled]
    rfl
  · have kept : padded (Nat.toDigits 10 n) places = Nat.toDigits 10 n := by
      rw [padded, Nat.sub_eq_zero_of_le long, List.replicate_zero, List.nil_append]
    obtain ⟨k, length⟩ := Nat.exists_eq_add_of_lt long
    rw [kept, show (Nat.toDigits 10 n).length - places = k + 1 by omega]
    rcases toDigits_head n with zero | ⟨c, rest, form, figure⟩
    · rw [zero, List.length_singleton] at long
      omega
    · exact Or.inr ⟨c, rest.take k, by rw [form, List.take_succ_cons], figure⟩

/-- Digits with the point among them have no superfluous character unless there is a zero at their
end behind the point. -/
theorem trimmed_placed {n : Nat} (last : places ≠ 0 → n % 10 ≠ 0) :
    (placed (Nat.toDigits 10 n) places).Trimmed := by
  refine ⟨?_, whole_placed n places, ?_⟩
  · exact (placed_wellFormed places Nat.toDigits_ne_nil fun _ => isDigit_of_mem_toDigits).2
  · intro behind written
    by_cases none : places = 0
    · rw [placed, if_pos none] at written
      exact nomatch written
    · rw [placed, if_neg none] at written
      obtain ⟨front, c, form, figure⟩ := toDigits_last (last none)
      obtain ⟨front', cut⟩ : ∃ front', padded (Nat.toDigits 10 n) places = front' ++ [c] :=
        ⟨_, by rw [padded, form, ← List.append_assoc]⟩
      refine ⟨front'.drop (front'.length + 1 - places), c, ?_, figure⟩
      rw [← Option.some.inj written, cut, List.length_append, List.length_singleton,
        List.drop_append_of_le_length (by omega)]

end Mantissa

/-- The numeral of a coefficient with the point before the last `places` digits, and an optional
exponent without a sign. -/
def placed (negative : Bool) (coefficient places : Nat) (exponent : Option Nat) : Numeral :=
  ⟨Sign.ofNegative negative, Mantissa.placed (Nat.toDigits 10 coefficient) places,
    exponent.map fun size => ⟨none, Nat.toDigits 10 size⟩⟩

variable (negative : Bool) (coefficient places : Nat) (exponent : Option Nat)

variable {coefficient} in
theorem dropZeros_placed_ne_nil {negative : Bool} {places : Nat} {exponent : Option Nat}
    (nonzero : coefficient ≠ 0) :
    dropZeros (placed negative coefficient places exponent).mantissa.digits ≠ [] := by
  rw [placed, Mantissa.dropZeros_digits_placed, dropZeros_toDigits nonzero]
  exact Nat.toDigits_ne_nil

theorem placed_wellFormed : (placed negative coefficient places exponent).WellFormed := by
  constructor
  · exact Mantissa.placed_wellFormed places Nat.toDigits_ne_nil fun _ => isDigit_of_mem_toDigits
  · intro e written
    simp only [placed, Option.map_eq_some_iff] at written
    obtain ⟨size, -, rfl⟩ := written
    exact ⟨Nat.toDigits_ne_nil, fun _ => isDigit_of_mem_toDigits⟩

theorem text_placed_none :
    (placed negative coefficient places none).text =
      signed negative (Decimal.pointed (Nat.toDigits 10 coefficient) places) := by
  rw [signed_eq, ← Mantissa.text_placed, text, placed, Option.map_none, Exponent.text,
    List.append_nil]

theorem text_placed_some (size : Nat) :
    (placed negative coefficient places (some size)).text =
      signed negative (Decimal.pointed (Nat.toDigits 10 coefficient) places) ++
        exponentMark :: Nat.toDigits 10 size := by
  rw [signed_eq, ← Mantissa.text_placed, text, placed, Option.map_some, Exponent.text]
  rfl

theorem placed_value :
    (placed negative coefficient places exponent).value =
      ⟨negative, coefficient, (exponent.getD 0 : Int) - places⟩ := by
  have size : Exponent.value (exponent.map fun size => ⟨none, Nat.toDigits 10 size⟩) =
      (exponent.getD 0 : Int) := by
    cases exponent with
    | none => rfl
    | some size => simp [Exponent.value, Nat.ofDigitChars_ten_toDigits]
  unfold value placed
  dsimp only
  rw [size, Sign.decide_ofNegative, Mantissa.ofDigitChars_digits_placed,
    Nat.ofDigitChars_ten_toDigits, Mantissa.placed_fraction_length]

/-- The numeral of a coefficient with a point behind its digits. -/
def withPoint (negative : Bool) (coefficient : Nat) : Numeral :=
  ⟨Sign.ofNegative negative, ⟨Nat.toDigits 10 coefficient, some []⟩, none⟩

theorem digits_withPoint :
    (withPoint negative coefficient).mantissa.digits = Nat.toDigits 10 coefficient :=
  List.append_nil _

variable {coefficient} in
theorem dropZeros_withPoint_ne_nil (nonzero : coefficient ≠ 0) :
    dropZeros (withPoint negative coefficient).mantissa.digits ≠ [] := by
  rw [digits_withPoint, dropZeros_toDigits nonzero]
  exact Nat.toDigits_ne_nil

theorem withPoint_wellFormed : (withPoint negative coefficient).WellFormed := by
  refine ⟨⟨?_, ?_⟩, fun _ written => nomatch written⟩
  · rw [digits_withPoint]
    exact Nat.toDigits_ne_nil
  · intro c hc
    rw [digits_withPoint] at hc
    exact isDigit_of_mem_toDigits hc

theorem text_withPoint :
    (withPoint negative coefficient).text =
      signed negative (Nat.toDigits 10 coefficient) ++ ['.'] := by
  rw [signed_eq, text, withPoint, Mantissa.text_of_some rfl, Exponent.text, List.append_nil,
    List.append_assoc]

theorem withPoint_value : (withPoint negative coefficient).value = ⟨negative, coefficient, 0⟩ := by
  rw [value, digits_withPoint, Nat.ofDigitChars_ten_toDigits, withPoint, Sign.decide_ofNegative]
  rfl

variable {coefficient} in
/-- All digits in front of a point count. -/
theorem figures_withPoint (nonzero : coefficient ≠ 0) :
    (withPoint negative coefficient).mantissa.figures = Nat.toDigits 10 coefficient := by
  show dropZeros (withPoint negative coefficient).mantissa.digits = _
  rw [digits_withPoint, dropZeros_toDigits nonzero]

end SignificantFigures.Numeral
