import SignificantFigures.Proofs.Double.Ties
import SignificantFigures.Proofs.Numeral.Pattern

/-!
The number at the front of any text. A pattern decides how much of the text is read, and what is
matched is read as a whole; there is a number just when some front part is a numeral, and it is the
nearest double to the longest one.
-/

set_option autoImplicit false

namespace SignificantFigures.Numeral

/-- The double nearest to a text that is a numeral as a whole. -/
def wholeDouble? (text : List Char) : Option Double :=
  (read text).bind fun (numeral, rest) =>
    if rest.isEmpty then some numeral.value.nearest else none

section Stops

variable {rest extra : List Char}

theorem StopsDigits.of_front (stops : StopsDigits rest) (inRest : extra <+: rest) :
    StopsDigits extra :=
  fun c hc => stops c (mem_head?_of_front inRest hc)

theorem Mantissa.Stops.of_front {m : Mantissa} (stops : m.Stops rest) (inRest : extra <+: rest) :
    m.Stops extra :=
  ⟨stops.1.of_front inRest, fun pointless c hc => stops.2 pointless c (mem_head?_of_front inRest hc)⟩

namespace Exponent

/-- What may follow an exponent, or its absence, without being taken for a part of it. -/
def Stops (exponent : Option Exponent) (rest : List Char) : Prop :=
  match exponent with
  | some _ => StopsDigits rest
  | none => ∀ e : Exponent, e.WellFormed → ¬ text (some e) <+: rest

theorem Stops.of_front {exponent : Option Exponent} (stops : Stops exponent rest)
    (inRest : extra <+: rest) : Stops exponent extra := by
  cases exponent with
  | some e => exact StopsDigits.of_front stops inRest
  | none => exact fun e wf front => stops e wf (front.trans inRest)

variable {e : Exponent}

/-- There is an exponent at the front of a text that starts with one, whatever follows. -/
theorem WellFormed.read_append_ne_none (wf : e.WellFormed) (rest : List Char) :
    (read (text (some e) ++ rest)).1 ≠ none := by
  obtain ⟨d, digits, cut⟩ := List.exists_cons_of_ne_nil wf.1
  have digit := wf.2 d (cut ▸ List.mem_cons_self)
  have filled : (readDigits (e.digits ++ rest)).1 ≠ [] := by
    simp [readDigits, cut, digit]
  simp only [text, List.cons_append, read, wf.read_sign]
  rw [if_pos ⟨trivial, filled⟩]
  exact Option.some_ne_none _

/-- A text starts with an exponent that its rest does not go on with, or nothing is taken off it. -/
private theorem exists_or_read_eq (text : List Char) :
    (∃ e rest, e.WellFormed ∧ StopsDigits rest ∧ text = Exponent.text (some e) ++ rest) ∨
      read text = (none, text) := by
  cases text with
  | nil => exact Or.inr rfl
  | cons c behind =>
    by_cases found : c = exponentMark ∧ (readDigits (Sign.read behind).2).1 ≠ []
    · refine Or.inl ⟨⟨(Sign.read behind).1, (readDigits (Sign.read behind).2).1⟩,
        (readDigits (Sign.read behind).2).2, ⟨found.2, fun d => isDigit_of_mem_readDigits⟩,
        stopsDigits_readDigits _, ?_⟩
      rw [Exponent.text, List.cons_append, List.append_assoc, readDigits_append,
        Sign.text_append_read, found.1]
    · exact Or.inr (if_neg found)

/-- What is taken off a text as an exponent is one that the rest does not go on with, and none is
taken just where the text does not start with one. -/
theorem read_eq_iff {exponent : Option Exponent} {text : List Char} :
    read text = (exponent, rest) ↔ (∀ e, exponent = some e → e.WellFormed) ∧
      Stops exponent rest ∧ text = Exponent.text exponent ++ rest := by
  constructor
  · intro taken
    rcases exists_or_read_eq text with ⟨e, behind, wf, stops, rfl⟩ | nothing
    · obtain ⟨rfl, rfl⟩ := Prod.mk.inj ((wf.read_append stops).symm.trans taken)
      exact ⟨fun e' same => Option.some.inj same ▸ wf, stops, rfl⟩
    · obtain ⟨rfl, rfl⟩ := Prod.mk.inj (nothing.symm.trans taken)
      refine ⟨fun e some => absurd some (Option.some_ne_none e).symm, ?_, rfl⟩
      rintro e wf ⟨behind, rfl⟩
      exact wf.read_append_ne_none behind (congrArg Prod.fst nothing)
  · rintro ⟨wf, stops, rfl⟩
    cases exponent with
    | some e => exact (wf e rfl).read_append stops
    | none =>
      rcases exists_or_read_eq rest with ⟨e, behind, wf', -, cut⟩ | nothing
      · exact absurd ⟨behind, cut.symm⟩ (stops e wf')
      · exact nothing

end Exponent

/-- What may follow a numeral without being taken for a part of it. -/
structure Stops (n : Numeral) (rest : List Char) : Prop where
  mantissa : n.mantissa.Stops (Exponent.text n.exponent ++ rest)
  exponent : Exponent.Stops n.exponent rest

variable {n m : Numeral} {text : List Char}

theorem Stops.of_front (stops : n.Stops rest) (inRest : extra <+: rest) : n.Stops extra :=
  ⟨stops.mantissa.of_front ((List.prefix_append_right_inj _).mpr inRest),
    stops.exponent.of_front inRest⟩

/-- What is taken off a text as a numeral is one that the rest does not go on with. -/
theorem read_eq_some_iff_stops :
    read text = some (n, rest) ↔ n.WellFormed ∧ n.Stops rest ∧ text = n.text ++ rest := by
  simp only [read_eq_some_iff, Exponent.read_eq_iff, Numeral.text, List.append_assoc]
  constructor
  · rintro ⟨_, mantissa, stops, rfl, exponent, behind, rfl⟩
    exact ⟨⟨mantissa, exponent⟩, ⟨stops, behind⟩, rfl⟩
  · rintro ⟨wf, stops, rfl⟩
    exact ⟨_, wf.mantissa, stops.mantissa, rfl, wf.exponent, stops.exponent, rfl⟩

/-- There is a numeral at the front of a text that starts with one, whatever follows. -/
theorem WellFormed.read_append_ne_none (wf : n.WellFormed) (rest : List Char) :
    read (n.text ++ rest) ≠ none := by
  have mantissa := wf.mantissa.read_append_ne_none (Exponent.text n.exponent ++ rest)
  rw [Numeral.text, List.append_assoc, List.append_assoc, read,
    Sign.read_text_append n.sign (wf.mantissa.unsigned _), ne_eq, Option.map_eq_none_iff]
  exact mantissa

theorem read_eq_none_iff :
    read text = none ↔ ∀ n : Numeral, n.WellFormed → ¬ n.text <+: text := by
  constructor
  · rintro missing n wf ⟨rest, rfl⟩
    exact wf.read_append_ne_none rest missing
  · intro none
    rw [Option.eq_none_iff_forall_ne_some]
    rintro ⟨n, rest⟩ taken
    obtain ⟨wf, -, cut⟩ := read_eq_some_iff_stops.mp taken
    exact none n wf ⟨rest, cut.symm⟩

end Stops

section Longest

variable {n : Numeral} {text rest : List Char}

/-- A numeral at the front of a text, where no longer one is. -/
structure IsLongestNumeral (text : List Char) (n : Numeral) : Prop where
  wellFormed : n.WellFormed
  front : n.text <+: text
  longest : ∀ m : Numeral, m.WellFormed → m.text <+: text → m.text.length ≤ n.text.length

/-- Whatever part of the rest follows, the same numeral is taken, so none in front is longer. -/
theorem isLongestNumeral_of_read (taken : read text = some (n, rest)) :
    IsLongestNumeral text n := by
  obtain ⟨wf, stops, rfl⟩ := read_eq_some_iff_stops.mp taken
  refine ⟨wf, List.prefix_append _ _, fun m wf' front => ?_⟩
  have again (extra : List Char) (inRest : extra <+: rest) :
      read (n.text ++ extra) = some (n, extra) :=
    read_eq_some_iff_stops.mpr ⟨wf, stops.of_front inRest, rfl⟩
  exact length_le_of_taken again (read_text wf') front

/-- A text has no two longest numerals at its front. -/
theorem IsLongestNumeral.unique {m : Numeral} (first : IsLongestNumeral text n)
    (second : IsLongestNumeral text m) : n = m := by
  have same : n.text.length = m.text.length :=
    le_antisymm (second.longest n first.wellFormed first.front)
      (first.longest m second.wellFormed second.front)
  have equal : n.text = m.text :=
    (List.prefix_of_prefix_length_le first.front second.front same.le).eq_of_length same
  have read := (read_text first.wellFormed).symm.trans (equal ▸ read_text second.wellFormed)
  exact congrArg Prod.fst (Option.some.inj read)

theorem exists_read_iff_isLongestNumeral :
    (∃ rest, read text = some (n, rest)) ↔ IsLongestNumeral text n := by
  constructor
  · rintro ⟨rest, taken⟩
    exact isLongestNumeral_of_read taken
  · intro longest
    obtain ⟨⟨m, rest⟩, taken⟩ : ∃ found, read text = some found := by
      rw [← Option.ne_none_iff_exists']
      exact fun missing => read_eq_none_iff.mp missing n longest.wellFormed longest.front
    obtain rfl := longest.unique (isLongestNumeral_of_read taken)
    exact ⟨rest, taken⟩

end Longest

section Matched

variable {text : List Char}

theorem wholeDouble?_text {n : Numeral} (wf : n.WellFormed) :
    wholeDouble? n.text = some n.value.nearest := by
  rw [wholeDouble?, read_text wf]
  rfl

/-- The first match of the pattern is the text that the reader takes. -/
theorem frontMatch?_pattern (text : List Char) :
    pattern.frontMatch? text = (read text).map fun (n, _) => n.text := by
  rw [Text.Pattern.frontMatch?_eq_run, run_pattern]
  cases found : read text with
  | none => rfl
  | some taken =>
    obtain ⟨n, rest⟩ := taken
    obtain ⟨-, -, cut⟩ := read_eq_some_iff_stops.mp found
    exact congrArg some (Text.Pattern.taken_of_append cut.symm)

/-- A match is a numeral as a whole, and the number in front is read off it. -/
theorem leadingDouble?_eq_bind_frontMatch? (text : List Char) :
    leadingDouble? text = (pattern.frontMatch? text).bind wholeDouble? := by
  rw [frontMatch?_pattern, leadingDouble?]
  cases found : read text with
  | none => rfl
  | some taken =>
    obtain ⟨n, rest⟩ := taken
    exact (wholeDouble?_text (read_eq_some_iff_stops.mp found).1).symm

theorem wholeDouble?_ne_none_of_frontMatch? {front : List Char}
    (matched : pattern.frontMatch? text = some front) : wholeDouble? front ≠ none := by
  rw [frontMatch?_pattern, Option.map_eq_some_iff] at matched
  obtain ⟨⟨n, rest⟩, found, rfl⟩ := matched
  rw [wholeDouble?_text (read_eq_some_iff_stops.mp found).1]
  exact Option.some_ne_none _

end Matched

/-- What stands at the front of any text is read as the pattern and the reader of whole numerals have
it, and the second never fails on what the first matches. There is no number just when no front part
of the text is a numeral, and else it is the double that the longest such part is correctly rounded
to, whatever follows. -/
theorem leading_number (text : List Char) :
    leadingDouble? text = (pattern.frontMatch? text).bind wholeDouble? ∧
    (∀ front, pattern.frontMatch? text = some front → wholeDouble? front ≠ none) ∧
    (leadingDouble? text = none ↔ ∀ n : Numeral, n.WellFormed → ¬ n.text <+: text) ∧
    ∀ d, leadingDouble? text = some d ↔
      ∃ n : Numeral, IsLongestNumeral text n ∧ n.value.RoundsTo d := by
  refine ⟨leadingDouble?_eq_bind_frontMatch? text,
    fun front matched => wholeDouble?_ne_none_of_frontMatch? matched, ?_, fun d => ?_⟩
  · rw [leadingDouble?, Option.map_eq_none_iff, read_eq_none_iff]
  · rw [leadingDouble?, Option.map_eq_some_iff]
    constructor
    · rintro ⟨⟨n, rest⟩, taken, value⟩
      exact ⟨n, isLongestNumeral_of_read taken, Decimal.nearest_eq_iff_roundsTo.mp value⟩
    · rintro ⟨n, longest, rounds⟩
      obtain ⟨rest, taken⟩ := exists_read_iff_isLongestNumeral.mpr longest
      exact ⟨⟨n, rest⟩, taken, Decimal.nearest_eq_iff_roundsTo.mpr rounds⟩

/-- Of `-5.e+x` the exponent mark and the sign behind it are given back, and the number is that of
`-5.`. In front of `+.e5` there is no numeral. -/
theorem leading_number_given_back :
    pattern.frontMatch? "-5.e+x".toList = some "-5.".toList ∧
      leadingDouble? "-5.e+x".toList = leadingDouble? "-5.".toList ∧
      (∃ n : Numeral, IsLongestNumeral "-5.e+x".toList n) ∧
      ∀ n : Numeral, n.WellFormed → ¬ n.text <+: "+.e5".toList := by
  have matched : pattern.frontMatch? "-5.e+x".toList = some "-5.".toList := by decide +kernel
  have whole : pattern.frontMatch? "-5.".toList = some "-5.".toList := by decide +kernel
  obtain ⟨front, reads, -, longest⟩ := leading_number "-5.e+x".toList
  obtain ⟨front', -, -, -⟩ := leading_number "-5.".toList
  obtain ⟨d, found⟩ := Option.ne_none_iff_exists'.mp (reads _ matched)
  rw [matched, Option.bind_some] at front
  rw [whole, Option.bind_some] at front'
  refine ⟨matched, front.trans front'.symm, ?_, (leading_number "+.e5".toList).2.2.1.mp rfl⟩
  obtain ⟨n, n_longest, -⟩ := (longest d).mp (front.trans found)
  exact ⟨n, n_longest⟩

end SignificantFigures.Numeral
