import Mathlib.Tactic.SplitIfs

/-!
Patterns over texts, matched with backtracking. A repetition takes as many characters as it can and
gives them back one by one, an optional part is tried before it is left out, and alternatives are
tried in their order. The first way to match from which the rest of the pattern can go on counts. Where
the rest cannot go on from a character that is given back, a repetition takes all it can.
-/

set_option autoImplicit false

namespace SignificantFigures.Text

inductive Pattern where
  /-- A character that passes a test. -/
  | one (test : Char → Bool)
  /-- Any number of characters that pass a test. -/
  | many (test : Char → Bool)
  | optional (p : Pattern)
  | andThen (p q : Pattern)
  | either (p q : Pattern)
  /-- What the pattern takes is kept as the group of the match, and no group within it is. -/
  | captured (p : Pattern)

namespace Pattern

variable {α : Type}

/-- At least one character that passes a test. -/
def atLeastOne (test : Char → Bool) : Pattern :=
  .andThen (.one test) (.many test)

/-- How a match goes on, from the group that is kept and the text that is left. -/
abbrev Next (α : Type) := Option (List Char) → List Char → Option α

/-- What is taken off the front of a text when the rest is left. -/
def taken (text rest : List Char) : List Char :=
  text.take (text.length - rest.length)

/-- Takes as many characters as can be taken, and gives them back while the match cannot go on. -/
def repeated (test : Char → Bool) (next : List Char → Option α) : List Char → Option α
  | [] => next []
  | c :: rest =>
    if test c then (repeated test next rest).or (next (c :: rest)) else next (c :: rest)

/-- The first way to match at the front of a text from which the match can go on. -/
def run : Pattern → Next α → Next α
  | one _, _, _, [] => none
  | one test, next, group, c :: rest => if test c then next group rest else none
  | many test, next, group, text => repeated test (next group) text
  | optional p, next, group, text => (p.run next group text).or (next group text)
  | andThen p q, next, group, text => p.run (q.run next) group text
  | either p q, next, group, text => (p.run next group text).or (q.run next group text)
  | captured p, next, group, text =>
    p.run (fun _ rest => next (some (taken text rest)) rest) group text

/-- A match that goes on only where the text ends. -/
def ended : Next (Option (List Char)) :=
  fun group rest => if rest = [] then some group else none

/-- The match of a whole text, by the group that is kept. -/
def fullMatch? (p : Pattern) (text : List Char) : Option (Option (List Char)) :=
  p.run ended none text

/-- The front part of a text that is matched. -/
def frontMatch? (p : Pattern) (text : List Char) : Option (List Char) :=
  p.run (fun _ rest => some (taken text rest)) none text

@[simp] theorem taken_append (front rest : List Char) : taken (front ++ rest) rest = front := by
  simp [taken]

theorem taken_of_append {text front rest : List Char} (cut : front ++ rest = text) :
    taken text rest = front := by
  rw [← cut, taken_append]

section Repeated

variable {test : Char → Bool} {next : List Char → Option α} {text : List Char}

/-- A repetition takes all it can if the match can go on from there. -/
theorem repeated_of_found {r : α} (found : next (text.dropWhile test) = some r) :
    repeated test next text = some r := by
  induction text with
  | nil => exact found
  | cons c text ih =>
    unfold repeated
    by_cases passes : test c = true
    · rw [List.dropWhile_cons_of_pos passes] at found
      rw [if_pos passes, ih found, Option.some_or]
    · rw [List.dropWhile_cons_of_neg passes] at found
      rw [if_neg passes, found]

/-- A repetition takes all it can if the match can go on from no character that is given back. -/
theorem repeated_of_stuck (stuck : ∀ c rest, test c = true → next (c :: rest) = none)
    (text : List Char) : repeated test next text = next (text.dropWhile test) := by
  induction text with
  | nil => rfl
  | cons c text ih =>
    unfold repeated
    by_cases passes : test c = true
    · rw [List.dropWhile_cons_of_pos passes, if_pos passes, ih, stuck c text passes, Option.or_none]
    · rw [List.dropWhile_cons_of_neg passes, if_neg passes]

/-- A repetition takes nothing where no character passes. -/
theorem repeated_of_head (stops : ∀ c ∈ text.head?, test c = false) :
    repeated test next text = next text := by
  cases text with
  | nil => rfl
  | cons c rest => simp [repeated, stops c rfl]

/-- A repetition that can stop where the match goes on matches. -/
theorem repeated_ne_none {front : List Char} (all : ∀ c ∈ front, test c = true)
    (goesOn : next text ≠ none) : repeated test next (front ++ text) ≠ none := by
  induction front with
  | nil =>
    cases text with
    | nil => exact goesOn
    | cons c rest =>
      unfold repeated
      by_cases passes : test c = true <;> simp [passes, goesOn]
  | cons c front ih =>
    have later := ih fun d hd => all d (List.mem_cons_of_mem c hd)
    simp [repeated, all c List.mem_cons_self, later]

/-- A repetition stops where the match goes on. -/
theorem exists_of_repeated {r : α} (found : repeated test next text = some r) :
    ∃ front back, text = front ++ back ∧ (∀ c ∈ front, test c = true) ∧ next back = some r := by
  induction text with
  | nil => exact ⟨[], [], rfl, by simp, found⟩
  | cons c text ih =>
    unfold repeated at found
    split_ifs at found with passes
    · rcases Option.or_eq_some_iff.mp found with longer | ⟨-, here⟩
      · obtain ⟨front, back, rfl, all, goesOn⟩ := ih longer
        refine ⟨c :: front, back, rfl, ?_, goesOn⟩
        rintro d (_ | ⟨_, hd⟩)
        · exact passes
        · exact all d hd
      · exact ⟨[], c :: text, rfl, by simp, here⟩
    · exact ⟨[], c :: text, rfl, by simp, found⟩

theorem run_atLeastOne_cons (test : Char → Bool) (next : Next α) (group : Option (List Char))
    (c : Char) (rest : List Char) :
    (atLeastOne test).run next group (c :: rest) =
      if test c then repeated test (next group) rest else none :=
  rfl

end Repeated

section Ended

variable {group : Option (List Char)}

theorem ended_cons (c : Char) (text : List Char) : ended group (c :: text) = none :=
  if_neg (List.cons_ne_nil c text)

theorem ended_eq_some_iff {found : Option (List Char)} {text : List Char} :
    ended group text = some found ↔ text = [] ∧ group = found := by
  simp [ended]

/-- At the end of a pattern a repetition takes all it can. -/
theorem run_many_ended (test : Char → Bool) (group : Option (List Char)) (text : List Char) :
    (many test).run ended group text = ended group (text.dropWhile test) :=
  repeated_of_stuck (fun c rest _ => ended_cons c rest) text

end Ended

section Always

variable {group : Option (List Char)} {f : List Char → List Char}

/-- A match that goes on from everywhere, with an answer that depends on what is left. -/
def always (f : List Char → List Char) : Next (List Char) :=
  fun _ left => some (f left)

theorem frontMatch?_eq_run (p : Pattern) (text : List Char) :
    p.frontMatch? text = p.run (always (taken text)) none text :=
  rfl

theorem run_many_always (test : Char → Bool) (text : List Char) :
    (many test).run (always f) group text = some (f (text.dropWhile test)) :=
  repeated_of_found rfl

theorem run_atLeastOne_always (test : Char → Bool) (text : List Char) :
    (atLeastOne test).run (always f) group text =
      if text.takeWhile test = [] then none else some (f (text.dropWhile test)) := by
  cases text with
  | nil => rfl
  | cons c rest =>
    have behind : repeated test (always f group) rest = some (f (rest.dropWhile test)) :=
      run_many_always test rest
    rw [run_atLeastOne_cons, behind]
    by_cases passes : test c = true <;> simp [passes]

end Always

end Pattern

end SignificantFigures.Text
