import SignificantFigures.Proofs.Numeral.Counted
import SignificantFigures.Proofs.Text.Pattern

/-!
The pattern that written figures match. Behind a sign and zeros there are three alternatives that
overlap: figures without a point, figures with one, and figures behind a point and zeros. The first
full match keeps the figures that count.
-/

set_option autoImplicit false

namespace SignificantFigures.Numeral

open Text Text.Pattern

/-- Whether a character is a digit other than zero. -/
def isFigure (c : Char) : Bool :=
  c.isDigit && c != '0'

/-- Figures without a point, up to the last one that is not zero, and zeros behind them. -/
def wholePattern : Pattern :=
  .andThen
    (.captured
      (.andThen (.optional (.andThen (.one isFigure) (.many Char.isDigit))) (.one isFigure)))
    (.many (· == '0'))

/-- Figures with or without a point among them, and a point at the end. -/
def pointPattern : Pattern :=
  .andThen
    (.captured
      (.andThen (.one isFigure)
        (.andThen (.many Char.isDigit)
          (.optional (.andThen (.one (· == '.')) (atLeastOne Char.isDigit))))))
    (.optional (.one (· == '.')))

/-- Figures behind a point and zeros. -/
def fractionPattern : Pattern :=
  .andThen (.one (· == '.'))
    (.andThen (.many (· == '0')) (.captured (.andThen (.one isFigure) (.many Char.isDigit))))

/-- The three ways to write figures. -/
def alternatives : Pattern :=
  .either wholePattern (.either pointPattern fractionPattern)

/-- Figures behind a sign and zeros. -/
def figuresPattern : Pattern :=
  .andThen (.optional (.one (· == '-'))) (.andThen (.many (· == '0')) alternatives)

theorem isFigure_iff {c : Char} : isFigure c = true ↔ c.isDigit = true ∧ c ≠ '0' := by
  simp [isFigure]

section LastZeros

/-- Zeros are all that is taken off the end. -/
theorem exists_lastZeros (text : List Char) :
    ∃ zeros, text = dropLastZeros text ++ List.replicate zeros '0' := by
  obtain ⟨zeros, form⟩ := exists_zeros text.reverse
  refine ⟨zeros, ?_⟩
  have reversed := congrArg List.reverse form
  rwa [List.reverse_reverse, List.reverse_append, List.reverse_replicate] at reversed

theorem dropLastZeros_append {front zeros : List Char} {d : Char} (last : d ≠ '0')
    (all : dropZeros zeros = []) : dropLastZeros (front ++ d :: zeros) = front ++ [d] := by
  have behind : dropZeros zeros.reverse = [] := by
    rw [dropZeros_eq_nil_iff] at all ⊢
    exact fun c hc => all c (List.mem_reverse.mp hc)
  rw [dropLastZeros, List.reverse_append, List.reverse_cons, List.append_assoc, dropZeros_append,
    if_pos behind, List.singleton_append, dropZeros_of_head_ne last]
  simp

/-- A text with a character other than zero ends in such a character and zeros. -/
theorem exists_last {text : List Char} (filled : dropZeros text ≠ []) :
    ∃ front d zeros, text = front ++ d :: zeros ∧ d ≠ '0' ∧ dropZeros zeros = [] := by
  obtain ⟨count, form⟩ := exists_lastZeros text
  have zeros : dropZeros (List.replicate count '0') = [] :=
    dropZeros_eq_nil_iff.mpr fun c => List.eq_of_mem_replicate
  rcases List.eq_nil_or_concat (dropLastZeros text) with nothing | ⟨front, d, last⟩
  · rw [nothing, List.nil_append] at form
    exact absurd (form ▸ zeros) filled
  · rw [last, List.concat_eq_append, List.append_assoc] at form
    refine ⟨front, d, _, form, ?_, zeros⟩
    have head : dropZeros text.reverse = d :: front.reverse := by
      rw [List.concat_eq_append] at last
      simpa [dropLastZeros] using congrArg List.reverse last
    exact head_dropZeros_ne head

end LastZeros

section Alternatives

variable {c : Char} {text : List Char}

private theorem run_wholePattern_of_not (other : isFigure c = false) :
    wholePattern.run ended none (c :: text) = none := by
  simp [wholePattern, run, other]

private theorem run_pointPattern_of_not (other : isFigure c = false) :
    pointPattern.run ended none (c :: text) = none := by
  simp [pointPattern, run, other]

private theorem run_fractionPattern_of_ne (other : c ≠ '.') :
    fractionPattern.run ended none (c :: text) = none := by
  simp [fractionPattern, run, other]

section Whole

/-- Behind the group of figures without a point there are zeros. -/
private def zerosBehind (whole : List Char) : Next (Option (List Char)) :=
  fun _ left => (many (· == '0')).run ended (some (taken whole left)) left

private theorem run_lastFigure {whole : List Char} {found : Option (List Char)} :
    (one isFigure).run (zerosBehind whole) none text = some found ↔
      ∃ d left, text = d :: left ∧ isFigure d = true ∧ dropZeros left = [] ∧
        some (taken whole left) = found := by
  have behind (left : List Char) : zerosBehind whole none left = some found ↔
      dropZeros left = [] ∧ some (taken whole left) = found := by
    rw [zerosBehind, run_many_ended, ended_eq_some_iff]
    rfl
  cases text with
  | nil => simp [run]
  | cons d left =>
    simp only [run, Option.ite_none_right_eq_some, behind]
    constructor
    · intro matched
      exact ⟨d, left, rfl, matched⟩
    · rintro ⟨_, _, cut, matched⟩
      obtain ⟨rfl, rfl⟩ := List.cons.inj cut
      exact matched

private theorem run_lastFigure_ne_none (whole : List Char) (figure : isFigure c = true)
    (zeros : dropZeros text = []) :
    (one isFigure).run (zerosBehind whole) none (c :: text) ≠ none := by
  rw [Option.ne_none_iff_exists']
  exact ⟨some (taken whole text), run_lastFigure.mpr ⟨c, text, rfl, figure, zeros, rfl⟩⟩

private theorem run_wholePattern_of_isFigure (first : isFigure c = true) :
    wholePattern.run ended none (c :: text) =
      (repeated Char.isDigit ((one isFigure).run (zerosBehind (c :: text)) none) text).or
        ((one isFigure).run (zerosBehind (c :: text)) none (c :: text)) := by
  rw [wholePattern]
  simp only [run, first, if_true]
  rfl

/-- The group of figures without a point ends with the last one that is not zero. -/
private theorem eq_of_run_wholePattern {found : Option (List Char)} (first : isFigure c = true)
    (matched : wholePattern.run ended none (c :: text) = some found) :
    found = some (dropLastZeros (c :: text)) ∧ ∀ d ∈ text, d.isDigit = true := by
  have digits {zeros : List Char} (all : dropZeros zeros = []) : ∀ d ∈ zeros, d.isDigit = true := by
    intro d hd
    rw [dropZeros_eq_nil_iff.mp all d hd]
    rfl
  rw [run_wholePattern_of_isFigure first, Option.or_eq_some_iff] at matched
  rcases matched with longer | ⟨-, single⟩
  · obtain ⟨front, back, rfl, all, goesOn⟩ := exists_of_repeated longer
    obtain ⟨d, zeros, rfl, last, rest, rfl⟩ := run_lastFigure.mp goesOn
    rw [isFigure_iff] at last
    have group : taken (c :: (front ++ d :: zeros)) zeros = (c :: front) ++ [d] := by
      rw [← taken_append ((c :: front) ++ [d]) zeros]
      simp
    refine ⟨?_, ?_⟩
    · rw [group, ← List.cons_append, dropLastZeros_append last.2 rest]
    · intro e he
      rcases List.mem_append.mp he with inside | behind
      · exact all e inside
      · rcases List.mem_cons.mp behind with rfl | zero
        · exact last.1
        · exact digits rest e zero
  · obtain ⟨d, zeros, cut, last, rest, rfl⟩ := run_lastFigure.mp single
    obtain ⟨rfl, rfl⟩ := List.cons.inj cut
    rw [isFigure_iff] at last
    have group : taken (c :: text) text = [c] := taken_append [c] text
    refine ⟨?_, digits rest⟩
    rw [group, ← List.nil_append (c :: text), dropLastZeros_append last.2 rest, List.nil_append]

private theorem run_wholePattern_ne_none (first : isFigure c = true)
    (all : ∀ d ∈ text, d.isDigit = true) : wholePattern.run ended none (c :: text) ≠ none := by
  rw [run_wholePattern_of_isFigure first, ne_eq, Option.or_eq_none_iff, not_and_or]
  by_cases zeros : dropZeros text = []
  · exact Or.inr (run_lastFigure_ne_none _ first zeros)
  · obtain ⟨front, d, behind, rfl, last, rest⟩ := exists_last zeros
    have digit := all d (List.mem_append_right front List.mem_cons_self)
    have matched := run_lastFigure_ne_none (c :: (front ++ d :: behind))
      (isFigure_iff.mpr ⟨digit, last⟩) rest
    exact Or.inl (repeated_ne_none (fun e he => all e (List.mem_append_left _ he)) matched)

end Whole

section Fraction

private theorem run_fractionPattern (behind : List Char) :
    fractionPattern.run ended none ('.' :: behind) =
      if dropZeros behind ≠ [] ∧ (dropZeros behind).dropWhile Char.isDigit = [] then
        some (some (dropZeros behind)) else none := by
  have zeros : fractionPattern.run ended none ('.' :: behind) =
      (captured (.andThen (one isFigure) (many Char.isDigit))).run ended none
        (dropZeros behind) := by
    refine repeated_of_stuck ?_ behind
    intro c rest zero
    simp [run, isFigure, beq_iff_eq.mp zero]
  rw [zeros]
  cases figures : dropZeros behind with
  | nil => rfl
  | cons c rest =>
    have nonzero := head_dropZeros_ne figures
    by_cases digit : c.isDigit = true
    · simp only [run, isFigure_iff.mpr ⟨digit, nonzero⟩, if_true]
      rw [repeated_of_stuck]
      · by_cases all : rest.dropWhile Char.isDigit = []
        · simp [digit, all, ended, taken]
        · simp [digit, all, ended]
      · exact fun d left _ => ended_cons d left
    · simp [run, isFigure, digit]

end Fraction

section Point

/-- Behind the group of figures with a point there may be one more. -/
private def pointBehind (whole : List Char) : Next (Option (List Char)) :=
  fun _ left => (optional (one (· == '.'))).run ended (some (taken whole left)) left

private theorem pointBehind_eq (whole left : List Char) (group : Option (List Char)) :
    pointBehind whole group left =
      if left = [] ∨ left = ['.'] then some (some (taken whole left)) else none := by
  rcases left with _ | ⟨d, _ | ⟨e, rest⟩⟩
  · rfl
  · by_cases point : d = '.' <;> simp [pointBehind, run, ended, point]
  · by_cases point : d = '.' <;> simp [pointBehind, run, ended, point]

private theorem pointBehind_of_isDigit {whole : List Char} {d : Char} (left : List Char)
    (group : Option (List Char)) (digit : d.isDigit = true) :
    pointBehind whole group (d :: left) = none := by
  simp [pointBehind_eq, ne_point_of_isDigit digit]

/-- The digits behind the point of a group. -/
private theorem run_fractionDigits (whole behind : List Char) :
    (atLeastOne Char.isDigit).run (pointBehind whole) none behind =
      if (readDigits behind).1 = [] then none
      else pointBehind whole none (readDigits behind).2 := by
  cases behind with
  | nil => rfl
  | cons d left =>
    rw [run_atLeastOne_cons,
      repeated_of_stuck fun e rest passes => pointBehind_of_isDigit rest none passes]
    by_cases digit : d.isDigit = true <;> simp [readDigits, digit]

private theorem run_pointPattern_of_isFigure (first : isFigure c = true) :
    pointPattern.run ended none (c :: text) =
      (optional (.andThen (one (· == '.')) (atLeastOne Char.isDigit))).run
        (pointBehind (c :: text)) none (readDigits (c :: text)).2 := by
  have digit := (isFigure_iff.mp first).1
  have digits : pointPattern.run ended none (c :: text) =
      repeated Char.isDigit ((optional (.andThen (one (· == '.')) (atLeastOne Char.isDigit))).run
        (pointBehind (c :: text)) none) text := by
    rw [pointPattern]
    simp only [run, first, if_true]
    rfl
  rw [digits, repeated_of_stuck]
  · simp [readDigits, digit]
  · intro d left passes
    simp [run, ne_point_of_isDigit passes, pointBehind_of_isDigit left none passes]

/-- A point belongs to the group where digits follow it. -/
private theorem run_pointGroup {whole behind fraction rest : List Char}
    (parts : readDigits behind = (fraction, rest)) :
    (optional (.andThen (one (· == '.')) (atLeastOne Char.isDigit))).run
        (pointBehind (whole ++ '.' :: behind)) none ('.' :: behind) =
      if fraction = [] then if rest = [] then some (some whole) else none
      else if rest = [] ∨ rest = ['.'] then some (some (whole ++ '.' :: fraction)) else none := by
  have split : behind = fraction ++ rest := by
    have := readDigits_append behind
    rw [parts] at this
    exact this.symm
  have tried : (optional (.andThen (one (· == '.')) (atLeastOne Char.isDigit))).run
      (pointBehind (whole ++ '.' :: behind)) none ('.' :: behind) =
        ((atLeastOne Char.isDigit).run (pointBehind (whole ++ '.' :: behind)) none behind).or
          (pointBehind (whole ++ '.' :: behind) none ('.' :: behind)) := rfl
  rw [tried, run_fractionDigits, parts]
  dsimp only
  by_cases nothing : fraction = []
  · subst nothing
    rw [List.nil_append] at split
    subst split
    rw [if_pos rfl, if_pos rfl, Option.none_or, pointBehind_eq, taken_append]
    simp
  · have filled : behind ≠ [] := by simp [split, nothing]
    have group : taken (whole ++ '.' :: behind) rest = whole ++ '.' :: fraction := by
      rw [split, ← List.cons_append, ← List.append_assoc, taken_append]
    rw [if_neg nothing, if_neg nothing, pointBehind_eq, pointBehind_eq, group]
    simp [filled]

end Point

/-- The number of figures in the group of a match, where a point does not count. -/
def groupSize (group : Option (List Char)) : Nat :=
  ((group.getD []).filter (· != '.')).length

private theorem groupSize_of_digits {digits : List Char} (all : ∀ c ∈ digits, c.isDigit = true) :
    groupSize (some digits) = digits.length := by
  have kept : digits.filter (· != '.') = digits := by
    rw [List.filter_eq_self]
    intro c hc
    exact bne_iff_ne.mpr (ne_point_of_isDigit (all c hc))
  rw [groupSize, Option.getD_some, kept]

private theorem groupSize_append (front back : List Char) :
    groupSize (some (front ++ back)) = groupSize (some front) + groupSize (some back) := by
  simp [groupSize]

private theorem size_fractionPattern (behind : List Char) :
    (fractionPattern.run ended none ('.' :: behind)).map groupSize = fractionFigures? behind := by
  rw [run_fractionPattern, fractionFigures?]
  by_cases figures : dropZeros behind = []
  · simp [figures]
  · by_cases all : (dropZeros behind).dropWhile Char.isDigit = []
    · have digits := List.dropWhile_eq_nil_iff.mp all
      simp only [figures, all, ne_eq, not_false_eq_true, and_self, if_true, Option.map_some,
        groupSize_of_digits digits]
      simpa [figures] using digits
    · have other := mt List.dropWhile_eq_nil_iff.mpr all
      simpa [figures, all] using other

private theorem size_wholePattern (first : isFigure c = true)
    (all : ∀ d ∈ text, d.isDigit = true) :
    (wholePattern.run ended none (c :: text)).map groupSize = wholeFigures? (c :: text) := by
  obtain ⟨found, matched⟩ := Option.ne_none_iff_exists'.mp (run_wholePattern_ne_none first all)
  have digits : ∀ d ∈ c :: text, d.isDigit = true :=
    List.forall_mem_cons.mpr ⟨(isFigure_iff.mp first).1, all⟩
  have kept : ∀ d ∈ dropLastZeros (c :: text), d.isDigit = true := by
    obtain ⟨zeros, form⟩ := exists_lastZeros (c :: text)
    exact fun d hd => digits d (form ▸ List.mem_append_left _ hd)
  rw [matched, (eq_of_run_wholePattern first matched).1, Option.map_some, groupSize_of_digits kept,
    wholeFigures?_digits digits, if_neg (List.cons_ne_nil c text)]

/-- Where the digits do not go to the end, the group is that of figures with a point. -/
private theorem size_pointPattern (first : isFigure c = true)
    (other : ¬ ∀ d ∈ text, d.isDigit = true) :
    (pointPattern.run ended none (c :: text)).map groupSize = wholeFigures? (c :: text) := by
  have filled : (readDigits (c :: text)).1 ≠ [] := by
    simp [readDigits, (isFigure_iff.mp first).1]
  have digits : ∀ d ∈ (readDigits (c :: text)).1, d.isDigit = true :=
    fun d hd => isDigit_of_mem_readDigits hd
  have parts := readDigits_append (c :: text)
  rw [run_pointPattern_of_isFigure first]
  simp only [wholeFigures?, List.isEmpty_iff]
  generalize (readDigits (c :: text)).1 = whole at filled digits parts ⊢
  generalize (readDigits (c :: text)).2 = rest at parts ⊢
  rw [← parts, if_neg filled]
  cases rest with
  | nil =>
    -- the digits would go to the end
    rw [List.append_nil] at parts
    exact absurd (fun d hd => digits d (parts ▸ List.mem_cons_of_mem c hd)) other
  | cons x behind =>
    by_cases point : x = '.'
    · subst point
      obtain ⟨front, rest, read⟩ : ∃ front rest, readDigits behind = (front, rest) := ⟨_, _, rfl⟩
      have fraction : ∀ d ∈ front, d.isDigit = true :=
        fun d hd => isDigit_of_mem_readDigits (by rwa [read])
      rw [run_pointGroup read]
      simp only [read]
      by_cases nothing : front = []
      · subst nothing
        by_cases ended : rest = [] <;> simp [ended, groupSize_of_digits digits]
      · have size : groupSize (some (whole ++ '.' :: front)) = whole.length + front.length := by
          rw [groupSize_append, groupSize_of_digits digits, ← List.singleton_append,
            groupSize_append, groupSize_of_digits fraction]
          exact congrArg (whole.length + ·) (Nat.zero_add _)
        by_cases ended : rest = [] ∨ rest = ['.']
        · simp [nothing, ended, size]
        · simp [nothing, ended]
    · have stuck : (optional (.andThen (one (· == '.')) (atLeastOne Char.isDigit))).run
          (pointBehind (whole ++ x :: behind)) none (x :: behind) = none := by
        simp [run, pointBehind_eq, point]
      rw [stuck]
      simp [point]

end Alternatives

section

variable {c : Char} {text : List Char}

private theorem run_alternatives (text : List Char) :
    alternatives.run ended none text =
      (wholePattern.run ended none text).or
        ((pointPattern.run ended none text).or (fractionPattern.run ended none text)) :=
  rfl

private theorem run_alternatives_of_not (figure : isFigure c = false) (other : c ≠ '.') :
    alternatives.run ended none (c :: text) = none := by
  rw [run_alternatives, run_wholePattern_of_not figure, run_pointPattern_of_not figure,
    run_fractionPattern_of_ne other]
  rfl

private theorem size_alternatives_point (behind : List Char) :
    (alternatives.run ended none ('.' :: behind)).map groupSize = fractionFigures? behind := by
  rw [run_alternatives, run_wholePattern_of_not (by decide), run_pointPattern_of_not (by decide),
    Option.none_or, Option.none_or, size_fractionPattern]

private theorem size_alternatives (first : ∀ c ∈ text.head?, c ≠ '0' ∧ c ≠ '.') :
    (alternatives.run ended none text).map groupSize = wholeFigures? text := by
  cases text with
  | nil => rfl
  | cons c text =>
    obtain ⟨nonzero, other⟩ := first c rfl
    by_cases figure : isFigure c = true
    · rw [run_alternatives, run_fractionPattern_of_ne other, Option.or_none]
      by_cases all : ∀ d ∈ text, d.isDigit = true
      · obtain ⟨found, matched⟩ :=
          Option.ne_none_iff_exists'.mp (run_wholePattern_ne_none figure all)
        rw [← size_wholePattern figure all, matched, Option.some_or]
      · have unmatched : wholePattern.run ended none (c :: text) = none := by
          rw [Option.eq_none_iff_forall_ne_some]
          exact fun found matched => all (eq_of_run_wholePattern figure matched).2
        rw [unmatched, Option.none_or, size_pointPattern figure all]
    · have noDigit : c.isDigit = false := by
        simpa [isFigure, nonzero] using figure
      rw [run_alternatives_of_not (Bool.not_eq_true _ |>.mp figure) other]
      simp [wholeFigures?, readDigits, noDigit]

/-- The zeros in front are all taken, since no alternative begins with one. -/
private theorem run_zeros (text : List Char) :
    (andThen (.many (· == '0')) alternatives).run ended none text =
      alternatives.run ended none (dropZeros text) := by
  refine repeated_of_stuck ?_ text
  intro c rest zero
  rw [beq_iff_eq] at zero
  subst zero
  exact run_alternatives_of_not (by decide) (by decide)

private theorem fullMatch?_minus (text : List Char) :
    figuresPattern.fullMatch? ('-' :: text) = alternatives.run ended none (dropZeros text) := by
  have tried : figuresPattern.fullMatch? ('-' :: text) =
      ((andThen (.many (· == '0')) alternatives).run ended none text).or
        ((andThen (.many (· == '0')) alternatives).run ended none ('-' :: text)) := rfl
  have unsigned : alternatives.run ended none ('-' :: text) = none :=
    run_alternatives_of_not (by decide) (by decide)
  rw [tried, run_zeros, run_zeros, dropZeros_of_head_ne (by decide), unsigned, Option.or_none]

private theorem fullMatch?_of_unsigned (unsigned : ∀ c ∈ text.head?, c ≠ '-') :
    figuresPattern.fullMatch? text = alternatives.run ended none (dropZeros text) := by
  have signless : (one (· == '-')).run ((andThen (.many (· == '0')) alternatives).run ended) none
      text = none := by
    cases text with
    | nil => rfl
    | cons c rest => simp [run, unsigned c rfl]
  have tried : figuresPattern.fullMatch? text =
      ((one (· == '-')).run ((andThen (.many (· == '0')) alternatives).run ended) none text).or
        ((andThen (.many (· == '0')) alternatives).run ended none text) := rfl
  rw [tried, signless, Option.none_or, run_zeros]

end

/-- The count of figures is the size of the group in the first full match of the pattern. -/
theorem figures?_eq_fullMatch? (text : List Char) :
    figures? text = (figuresPattern.fullMatch? text).map groupSize := by
  have signed (unsigned : List Char) :
      (alternatives.run ended none (dropZeros unsigned)).map groupSize =
        figures? ('-' :: unsigned) := by
    unfold figures?
    dsimp only
    split
    · next behind point =>
      rw [show dropZeros unsigned = '.' :: behind from point, size_alternatives_point]
    · next pointless =>
      refine size_alternatives fun c hc => ?_
      obtain ⟨rest, cut⟩ := List.head?_eq_some_iff.mp hc
      refine ⟨head_dropZeros_ne cut, ?_⟩
      rintro rfl
      exact pointless rest cut
  by_cases unsigned : ∀ c ∈ text.head?, c ≠ '-'
  · rw [fullMatch?_of_unsigned unsigned, signed]
    exact (figures?_of_unsigned unsigned false).trans (figures?_of_unsigned unsigned true).symm
  · obtain ⟨rest, rfl⟩ : ∃ rest, text = '-' :: rest := by
      simpa [List.head?_eq_some_iff] using unsigned
    rw [fullMatch?_minus, signed]

end SignificantFigures.Numeral
