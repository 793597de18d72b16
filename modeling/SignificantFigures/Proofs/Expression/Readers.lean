import SignificantFigures.Expression.Failure
import SignificantFigures.Proofs.Expression.Reader
import SignificantFigures.Proofs.Names

/-!
Readers under names, asked in any order. What one name answers depends on its own steps alone, and
since it was last started these are the tokens and the failure that cutting its expression at once
gives, one for each time it is asked, and then nothing more.
-/

set_option autoImplicit false

namespace SignificantFigures.Expression

/-- What is seen of an answer: a token, a failure with its place, its message and the characters
around it, or that there is nothing more. -/
inductive Seen where
  | token (t : Token)
  | failure (position : Nat) (message context : List Char)
  | stop
  deriving DecidableEq

section Answers

variable [PowersOfTen] (expression : List Char) (radius : Int)

def Failure.seen (f : Failure) : Seen :=
  .failure f.position (f.message expression radius) (f.context expression radius)

def Answer.seen : Answer → Seen
  | .token t => .token t
  | .failure f => f.seen expression radius
  | .stop => .stop

/-- What cutting an expression at once gives: its tokens, and the failure that ends them if there is
one. -/
def eager : List Seen :=
  (scan 0 expression).1.map .token ++ (scan 0 expression).2.toList.map (Failure.seen expression radius)

variable {expression radius}

omit [PowersOfTen] in
/-- Asked again and again, a reader gives what cutting at once does, and then nothing more. -/
theorem seen_answerOf (tokens : List Token) (failure : Option Failure) (asked : Nat) :
    (answerOf tokens failure asked).seen expression radius =
      (tokens.map .token ++ failure.toList.map (Failure.seen expression radius))[asked]?.getD .stop := by
  induction tokens generalizing asked with
  | nil => cases failure <;> cases asked <;> rfl
  | cons t rest ih =>
    cases asked with
    | zero => rfl
    | succ asked => exact ih asked

theorem seen_answer_start (asked : Nat) :
    ((Reader.start expression radius).answer asked).seen expression radius =
      (eager expression radius)[asked]?.getD .stop := by
  rw [Reader.answer_start]
  exact seen_answerOf _ _ asked

/-- Only a token has another token behind it. -/
theorem eager_eq_stop {i j : Nat} (before : i < j)
    (other : ∀ t, (eager expression radius)[i]?.getD .stop ≠ .token t) :
    (eager expression radius)[j]?.getD .stop = .stop := by
  have past : (scan 0 expression).1.length ≤ i := by
    by_contra inside
    rw [not_le] at inside
    refine other (scan 0 expression).1[i] ?_
    simp [eager, List.getElem?_append_left, inside]
  have few : (scan 0 expression).2.toList.length ≤ 1 := by
    cases (scan 0 expression).2 <;> simp
  have ended : (eager expression radius).length ≤ j := by
    simp only [eager, List.length_append, List.length_map]
    omega
  rw [List.getElem?_eq_none ended]
  rfl

end Answers

theorem Reader.next_report [PowersOfTen] (r : Reader) :
    r.next.2.expression = r.expression ∧ r.next.2.radius = r.radius := by
  unfold next
  split
  · exact ⟨rfl, rfl⟩
  · split <;> exact ⟨rfl, rfl⟩

namespace Readers

namespace Step

/-- The name that a step is about. -/
def name : Step → String
  | start name _ _ => name
  | next name => name

/-- What a step does to the reader of its name: its outcome, and the reader that it leaves. -/
def effect [PowersOfTen] : Step → Option Reader → Outcome × Option Reader
  | start _ expression radius, _ => (.started, some (Reader.start expression radius))
  | next _, some r => (.answered r r.next.1, some r.next.2)
  | next _, none => (.unknown, none)

end Step

/-- What is seen of an outcome, if a reader was asked. -/
def Outcome.seen? : Outcome → Option Seen
  | .answered r answer => some (answer.seen r.expression r.radius)
  | _ => none

/-- The readers that steps leave. -/
def after [PowersOfTen] (readers : Readers) : List Step → Readers
  | [] => readers
  | s :: rest => after (readers.step s).2 rest

/-- Of the outcomes of steps, those of the steps about one name. -/
def outcomesOf (name : String) (steps : List Step) (outcomes : List Outcome) : List Outcome :=
  ((steps.zip outcomes).filter fun e => e.1.name == name).map (·.2)

section Run

variable [PowersOfTen] {readers others : Readers} {name : String} {s : Step} {r : Reader}

omit [PowersOfTen] in
theorem reader?_put (readers : Readers) (name other : String) (r : Reader) :
    (readers.put name r).reader? other = if other = name then some r else readers.reader? other :=
  find?_put readers name other r

/-- A step acts on the reader of its name and leaves every other. -/
theorem step_spec (readers : Readers) (s : Step) :
    (readers.step s).1 = (s.effect (readers.reader? s.name)).1 ∧
      ∀ other, (readers.step s).2.reader? other =
        if other = s.name then (s.effect (readers.reader? s.name)).2 else readers.reader? other := by
  cases s with
  | start target expression radius => exact ⟨rfl, fun other => reader?_put readers target other _⟩
  | next target =>
    cases found : readers.reader? target with
    | some r => exact ⟨by simp [step, Step.name, Step.effect, found],
        by simp [step, Step.name, Step.effect, found, reader?_put]⟩
    | none =>
      refine ⟨by simp [step, Step.name, Step.effect, found], fun other => ?_⟩
      simp only [step, Step.name, Step.effect, found]
      split
      · next same => rw [same, found]
      · rfl

omit [PowersOfTen] in
theorem outcomesOf_cons (s : Step) (steps : List Step) (outcome : Outcome)
    (outcomes : List Outcome) : outcomesOf name (s :: steps) (outcome :: outcomes) =
      if s.name = name then outcome :: outcomesOf name steps outcomes
      else outcomesOf name steps outcomes := by
  by_cases same : s.name = name <;> simp [outcomesOf, same]

/-- What the steps about one name give among others is what they give alone. -/
theorem outcomesOf_run (steps : List Step) (same : readers.reader? name = others.reader? name) :
    outcomesOf name steps (run readers steps) =
      run others (steps.filter fun s => s.name == name) := by
  induction steps generalizing readers others with
  | nil => rfl
  | cons s rest ih =>
    obtain ⟨outcome, left⟩ := step_spec readers s
    rw [run, outcomesOf_cons]
    by_cases named : s.name = name
    · subst named
      obtain ⟨outcome', left'⟩ := step_spec others s
      have equal : (readers.step s).1 = (others.step s).1 := by rw [outcome, outcome', same]
      rw [if_pos rfl, List.filter_cons_of_pos (by simp), run, equal, ih]
      rw [left, left', same]
    · rw [if_neg named, List.filter_cons_of_neg (by simpa using named), ih]
      rw [left, if_neg (Ne.symm named), same]

theorem run_append (readers : Readers) (early late : List Step) :
    run readers (early ++ late) = run readers early ++ run (after readers early) late := by
  induction early generalizing readers with
  | nil => rfl
  | cons s rest ih => simp [run, after, ih]

theorem length_run (readers : Readers) (steps : List Step) :
    (run readers steps).length = steps.length := by
  induction steps generalizing readers with
  | nil => rfl
  | cons s rest ih => simp [run, ih]

/-- A reader that is asked a number of times gives as many of its answers. -/
theorem seen_run_next (count : Nat) (found : readers.reader? name = some r) :
    (run readers (List.replicate count (.next name))).map Outcome.seen? =
      (List.range count).map fun asked => some ((r.answer asked).seen r.expression r.radius) := by
  induction count generalizing readers r with
  | zero => rfl
  | succ count ih =>
    obtain ⟨outcome, left⟩ := step_spec readers (.next name)
    have asked : (readers.step (.next name)).2.reader? name = some r.next.2 := by
      refine (left name).trans ((if_pos rfl).trans ?_)
      rw [Step.name, found]
      rfl
    obtain ⟨expression, radius⟩ := r.next_report
    rw [List.replicate_succ, run, List.map_cons, ih asked, outcome, Step.name, found,
      List.range_succ_eq_map, List.map_cons, List.map_map, expression, radius]
    rfl

/-- Whether a step starts the reader of a name. -/
def Step.Starts (name : String) (s : Step) : Prop :=
  ∃ expression radius, s = .start name expression radius

omit [PowersOfTen] in
/-- Steps about a name that do not start it ask it. -/
theorem filter_eq_replicate {steps : List Step} (asks : ∀ s ∈ steps, ¬ s.Starts name) :
    (steps.filter fun s => s.name == name) =
      List.replicate (steps.filter fun s => s.name == name).length (.next name) := by
  refine List.eq_replicate_of_mem fun s hs => ?_
  obtain ⟨listed, named⟩ := List.mem_filter.mp hs
  rw [beq_iff_eq] at named
  cases s with
  | start target expression radius =>
    obtain rfl : target = name := named
    exact absurd ⟨expression, radius, rfl⟩ (asks _ listed)
  | next target => exact congrArg Step.next named

/-- What one name gives among any steps is what its own steps give alone. Since it was last started
it has given, one for each time it was asked, the tokens of its expression, then the failure if there
is one, and then nothing more; so what is not a token has nothing more behind it. -/
theorem answers_of_reader (steps : List Step) (name : String) :
    outcomesOf name steps (run [] steps) = run [] (steps.filter fun s => s.name == name) ∧
    ∀ before expression radius since, steps = before ++ .start name expression radius :: since →
      (∀ s ∈ since, ¬ s.Starts name) →
      let answers := (outcomesOf name since ((run [] steps).drop (before.length + 1))).map Outcome.seen?
      answers = ((List.range (since.filter fun s => s.name == name).length).map fun asked =>
        some ((eager expression radius)[asked]?.getD .stop)) ∧
      answers.Pairwise fun first later => (∃ t, first = some (.token t)) ∨ later = some .stop := by
  refine ⟨outcomesOf_run steps rfl, ?_⟩
  rintro before expression radius since rfl asks answers
  have answers_eq : answers = (List.range (since.filter fun s => s.name == name).length).map
      fun asked => some ((eager expression radius)[asked]?.getD .stop) := by
    have started : ((after [] before).step (.start name expression radius)).2.reader? name =
        some (Reader.start expression radius) :=
      ((step_spec _ _).2 name).trans (if_pos rfl)
    have given := seen_run_next (since.filter fun s => s.name == name).length started
    rw [← filter_eq_replicate asks, ← outcomesOf_run since rfl] at given
    have behind : (run [] (before ++ .start name expression radius :: since)).drop
        (before.length + 1) =
          run ((after [] before).step (.start name expression radius)).2 since := by
      rw [run_append, List.drop_append, length_run, List.drop_eq_nil_of_le (by simp [length_run])]
      simp [run]
    show List.map _ _ = _
    rw [behind, given]
    refine List.map_congr_left fun asked _ => ?_
    exact congrArg some (seen_answer_start asked)
  refine ⟨answers_eq, ?_⟩
  rw [answers_eq, List.pairwise_map]
  refine List.pairwise_lt_range.imp fun {i j} before => ?_
  by_cases token : ∃ t, (eager expression radius)[i]?.getD .stop = .token t
  · exact Or.inl (token.imp fun t found => congrArg some found)
  · exact Or.inr (congrArg some (eager_eq_stop before (not_exists.mp token)))

end Run

/-- A reader of `(0` fails at the zero, while another reader is asked and started again. -/
theorem answers_of_reader_failing :
    let before : List Step := [.start "x" "1+2".toList 3, .next "x"]
    let since : List Step :=
      [.next "x", .next "y", .start "x" "3".toList 3, .next "y", .next "x", .next "y", .next "y"]
    (outcomesOf "y" since ((run [] (before ++ .start "y" "(0".toList 3 :: since)).drop 3)).map
        Outcome.seen? =
      [some (.token ⟨.openParen, 0, ['('], .text ['(']⟩),
        some (.failure 1 "Invalid quantity '0' at character index 1".toList "(0".toList),
        some .stop, some .stop] := by
  intro before since
  have asks : ∀ s ∈ since, ¬ s.Starts "y" := by
    rintro s hs ⟨expression, radius, rfl⟩
    simp [since] at hs
  have given : eager "(0".toList 3 = [.token ⟨.openParen, 0, ['('], .text ['(']⟩,
      .failure 1 "Invalid quantity '0' at character index 1".toList "(0".toList] := by
    decide +kernel
  have answers := ((answers_of_reader (before ++ .start "y" "(0".toList 3 :: since) "y").2 before
    "(0".toList 3 since rfl asks).1
  rw [given] at answers
  exact answers

end Readers

end SignificantFigures.Expression
