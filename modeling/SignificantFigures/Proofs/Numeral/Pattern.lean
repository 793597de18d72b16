import SignificantFigures.Proofs.Numeral.Read
import SignificantFigures.Proofs.Text.Pattern

/-!
The pattern of numerals: an optional sign, digits with a point behind or among them or a point with
digits behind it, and an optional exponent. The first match at the front of a text is what the reader
takes off it: a sign or an exponent mark without digits behind it is given back.
-/

set_option autoImplicit false

namespace SignificantFigures.Numeral

open Text Text.Pattern

def Sign.pattern : Pattern :=
  .optional (.one fun c => c == '+' || c == '-')

/-- Digits, and a point and digits behind them, both of which may be missing. -/
def Mantissa.digitsPattern : Pattern :=
  .andThen (atLeastOne Char.isDigit)
    (.andThen (.optional (.one (· == '.'))) (.many Char.isDigit))

def Mantissa.pattern : Pattern :=
  .either digitsPattern (.andThen (.one (· == '.')) (atLeastOne Char.isDigit))

def Exponent.pattern : Pattern :=
  .optional (.andThen (.one (· == exponentMark))
    (.andThen Sign.pattern (atLeastOne Char.isDigit)))

/-- What a numeral at the front of a text looks like. -/
def pattern : Pattern :=
  .andThen Sign.pattern (.andThen Mantissa.pattern Exponent.pattern)

section Parts

variable {group : Option (List Char)} {f : List Char → List Char}

theorem run_digits (text : List Char) :
    (atLeastOne Char.isDigit).run (always f) group text =
      if (readDigits text).1 = [] then none else some (f (readDigits text).2) :=
  run_atLeastOne_always Char.isDigit text

/-- What is left behind an optional point and digits. -/
def behindPoint : List Char → List Char
  | '.' :: behind => (readDigits behind).2
  | text => (readDigits text).2

theorem behindPoint_of_ne {c : Char} {rest : List Char} (pointless : c ≠ '.') :
    behindPoint (c :: rest) = (readDigits (c :: rest)).2 := by
  unfold behindPoint
  split
  · next behind cut => exact absurd (List.cons.inj cut).1 pointless
  · rfl

private theorem run_pointDigits :
    (andThen (.optional (.one (· == '.'))) (.many Char.isDigit)).run (always f) =
      always (f ∘ behindPoint) := by
  funext group text
  have tried :
      (andThen (.optional (.one (· == '.'))) (.many Char.isDigit)).run (always f) group text =
        ((one (· == '.')).run ((many Char.isDigit).run (always f)) group text).or
          ((many Char.isDigit).run (always f) group text) := rfl
  rw [tried, run_many_always]
  cases text with
  | nil => rfl
  | cons c rest =>
    by_cases point : c = '.'
    · subst point
      have digits : (one (· == '.')).run ((many Char.isDigit).run (always f)) group ('.' :: rest) =
          (many Char.isDigit).run (always f) group rest := rfl
      rw [digits, run_many_always]
      rfl
    · simp [run, always, point, behindPoint_of_ne point, readDigits]

theorem readDigits_of_stops {text : List Char} (stops : StopsDigits text) :
    readDigits text = ([], text) :=
  readDigits_digits_append (List.forall_mem_nil _) stops

/-- A point with digits behind it is a mantissa where no digits are in front. -/
theorem run_pointed (text : List Char) :
    (andThen (.one (· == '.')) (atLeastOne Char.isDigit)).run (always f) group text =
      (Mantissa.complete [] text).map fun (_, rest) => f rest := by
  cases text with
  | nil => rfl
  | cons c behind =>
    by_cases point : c = '.'
    · subst point
      have digits : (andThen (.one (· == '.')) (atLeastOne Char.isDigit)).run (always f) group
          ('.' :: behind) = (atLeastOne Char.isDigit).run (always f) group behind := rfl
      rw [digits, run_digits, Mantissa.complete]
      by_cases nothing : (readDigits behind).1 = [] <;> simp [nothing]
    · simp [run, Mantissa.complete, point]

/-- Digits are tried first; what is tried next takes a mantissa off the texts without digits in
front. -/
theorem run_mantissa {next : Pattern}
    (pointed : ∀ text, StopsDigits text →
      next.run (always f) group text = (Mantissa.complete [] text).map fun (_, rest) => f rest)
    (text : List Char) :
    (either Mantissa.digitsPattern next).run (always f) group text =
      (Mantissa.read text).map fun (_, rest) => f rest := by
  have tried : (either Mantissa.digitsPattern next).run (always f) group text =
      ((atLeastOne Char.isDigit).run
        ((andThen (.optional (.one (· == '.'))) (.many Char.isDigit)).run (always f)) group text).or
      (next.run (always f) group text) := rfl
  have stops := stopsDigits_readDigits text
  have parts := readDigits_append text
  rw [tried, run_pointDigits, run_digits, Mantissa.read]
  generalize (readDigits text).1 = whole at parts ⊢
  generalize (readDigits text).2 = rest at parts stops ⊢
  by_cases nothing : whole = []
  · subst nothing
    rw [List.nil_append] at parts
    subst parts
    rw [if_pos rfl, Option.none_or, pointed rest stops]
  · rw [if_neg nothing, Option.some_or]
    cases rest with
    | nil => simp [Mantissa.complete, nothing, behindPoint, readDigits]
    | cons c behind =>
      by_cases point : c = '.'
      · subst point
        simp [Mantissa.complete, nothing, behindPoint]
      · simp [Mantissa.complete, nothing, point, behindPoint_of_ne point, readDigits_of_stops stops]

/-- A sign is taken where the match can go on behind it and nowhere else. -/
theorem run_sign {next : Next (List Char)}
    (stuck : ∀ c rest, c = '+' ∨ c = '-' → next group (c :: rest) = none) (text : List Char) :
    Sign.pattern.run next group text = next group (Sign.read text).2 := by
  cases text with
  | nil => rfl
  | cons c rest =>
    have tried : Sign.pattern.run next group (c :: rest) =
        (if (c == '+' || c == '-') = true then next group rest else none).or
          (next group (c :: rest)) := rfl
    rw [tried]
    by_cases plus : c = '+'
    · rw [stuck c rest (Or.inl plus)]
      simp [Sign.read, plus]
    · by_cases minus : c = '-'
      · rw [stuck c rest (Or.inr minus)]
        simp [Sign.read, minus]
      · simp [Sign.read, plus, minus]

theorem readDigits_sign {c : Char} (sign : c = '+' ∨ c = '-') (rest : List Char) :
    readDigits (c :: rest) = ([], c :: rest) := by
  rcases sign with rfl | rfl <;> exact readDigits_of_stops (stopsDigits_cons rfl)

theorem Mantissa.read_sign {c : Char} (sign : c = '+' ∨ c = '-') (rest : List Char) :
    Mantissa.read (c :: rest) = none := by
  rw [Mantissa.read, readDigits_sign sign]
  rcases sign with rfl | rfl <;> rfl

/-- An exponent mark and a sign are given back where no digits follow. -/
theorem run_exponent (text : List Char) :
    Exponent.pattern.run (always f) group text = some (f (Exponent.read text).2) := by
  cases text with
  | nil => rfl
  | cons c behind =>
    by_cases mark : c = exponentMark
    · have tried : Exponent.pattern.run (always f) group (c :: behind) =
          (Sign.pattern.run ((atLeastOne Char.isDigit).run (always f)) group behind).or
            (some (f (c :: behind))) := by
        simp [Exponent.pattern, run, always, mark]
      have stuck (d : Char) (rest : List Char) (sign : d = '+' ∨ d = '-') :
          (atLeastOne Char.isDigit).run (always f) group (d :: rest) = none := by
        rw [run_digits, readDigits_sign sign, if_pos rfl]
      rw [tried, run_sign stuck, run_digits, Exponent.read]
      by_cases nothing : (readDigits (Sign.read behind).2).1 = [] <;> simp [nothing, mark]
    · simp [Exponent.pattern, run, always, Exponent.read, mark]

theorem run_pattern (text : List Char) :
    pattern.run (always f) group text = (read text).map fun (_, rest) => f rest := by
  have exponent : Exponent.pattern.run (always f) =
      always (f ∘ fun left => (Exponent.read left).2) := by
    funext group left
    exact run_exponent left
  have mantissa (text : List Char) :
      (andThen Mantissa.pattern Exponent.pattern).run (always f) group text =
        (Mantissa.read text).map fun (_, rest) => f (Exponent.read rest).2 := by
    show Mantissa.pattern.run (Exponent.pattern.run (always f)) group text = _
    rw [exponent]
    exact run_mantissa (fun text _ => run_pointed text) text
  have stuck (c : Char) (rest : List Char) (sign : c = '+' ∨ c = '-') :
      (andThen Mantissa.pattern Exponent.pattern).run (always f) group (c :: rest) = none := by
    rw [mantissa, Mantissa.read_sign sign, Option.map_none]
  have tried : pattern.run (always f) group text =
      Sign.pattern.run ((andThen Mantissa.pattern Exponent.pattern).run (always f)) group text := rfl
  rw [tried, run_sign stuck, mantissa, read, Option.map_map]
  rfl

end Parts

end SignificantFigures.Numeral
