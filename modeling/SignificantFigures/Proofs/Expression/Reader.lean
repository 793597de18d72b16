import SignificantFigures.Expression.Reader
import SignificantFigures.Proofs.Expression.Fields

/-!
What a reader answers when it is asked again and again: the tokens of its expression, then the
failure if there is one, then nothing more. The tokens tile the expression.
-/

set_option autoImplicit false

namespace SignificantFigures.Expression

/-- The answer of a reader that has been asked a number of times before. -/
def Reader.answer [PowersOfTen] (r : Reader) : Nat → Answer
  | 0 => r.next.1
  | asked + 1 => r.next.2.answer asked

/-- The answers that tokens and a failure behind them make, from the first one on. -/
def answerOf : List Token → Option Failure → Nat → Answer
  | t :: _, _, 0 => .token t
  | _ :: rest, failure, asked + 1 => answerOf rest failure asked
  | [], some failure, 0 => .failure failure
  | [], _, _ => .stop

theorem Reader.answer_closed [PowersOfTen] (expression : List Char) (radius : Int) (asked : Nat) :
    answer ⟨expression, radius, .closed⟩ asked = .stop := by
  induction asked with
  | zero => rfl
  | succ asked ih => exact ih

/-- A reader answers with what scanning the rest of its text gives. -/
theorem Reader.answer_before [PowersOfTen] (expression : List Char) (radius : Int) (position : Nat)
    (rest : List Char) (asked : Nat) :
    answer ⟨expression, radius, .before position rest⟩ asked =
      answerOf (scan position rest).1 (scan position rest).2 asked := by
  fun_induction scan position rest generalizing asked with
  | case1 position rest taken =>
    cases asked with
    | zero => simp [answer, next, taken, answerOf]
    | succ asked =>
      simp only [answer, next, taken, answerOf]
      exact answer_closed expression radius asked
  | case2 position rest failure taken =>
    cases asked with
    | zero => simp [answer, next, taken, answerOf]
    | succ asked =>
      simp only [answer, next, taken, answerOf]
      exact answer_closed expression radius asked
  | case3 position rest t taken behind ih =>
    cases asked with
    | zero => simp [answer, next, taken, answerOf]
    | succ asked =>
      simp only [answer, next, taken, answerOf]
      exact ih asked

theorem Reader.answer_start [PowersOfTen] (expression : List Char) (radius : Int) (asked : Nat) :
    (start expression radius).answer asked =
      answerOf (scan 0 expression).1 (scan 0 expression).2 asked :=
  answer_before expression radius 0 expression asked

/-- Where the last of some tokens stops; without a token that is the start of the text. -/
def lastStop (tokens : List Token) : Nat :=
  (tokens.getLast?.map Token.stop).getD 0

/-- Tokens that tile an expression, each the lexeme at its position, to its end or to the position of
a failure whose reason holds there. -/
structure Tiling [PowersOfTen] (expression : List Char) (tokens : List Token)
    (failure : Option Failure) : Prop where
  starts : ∀ t ∈ tokens.head?, t.position = 0
  adjacent : tokens.IsChain fun t u => u.position = t.stop
  nonempty : ∀ t ∈ tokens, t.text ≠ []
  slice : ∀ t ∈ tokens, t.text = (expression.take t.stop).drop t.position
  lexeme : ∀ t ∈ tokens, lexeme? (expression.drop t.position) = some (t.kind, t.text)
  ends : failure = none →
    lastStop tokens = expression.length ∧ characters tokens = expression
  fails : ∀ f, failure = some f →
    f.position = lastStop tokens ∧ f.position < expression.length ∧
      characters tokens = expression.take f.position ∧ f.HoldsAt (expression.drop f.position)

theorem scan_tiling [PowersOfTen] (expression : List Char) :
    Tiling expression (scan 0 expression).1 (scan 0 expression).2 := by
  obtain ⟨adjoin, used⟩ := scan_spec 0 expression
  have lexemes : ∀ t ∈ (scan 0 expression).1,
      lexeme? (expression.drop t.position) = some (t.kind, t.text) :=
    fun t ht => (lexeme?_of_mem_scan ht).2.1
  have reasons : ∀ f, (scan 0 expression).2 = some f →
      f.HoldsAt (expression.drop f.position) :=
    fun f h => (holdsAt_of_scan h).2
  generalize (scan 0 expression).1 = tokens at adjoin used lexemes ⊢
  generalize (scan 0 expression).2 = failure at used reasons ⊢
  have last : lastStop tokens = (characters tokens).length := by
    rw [lastStop, adjoin.last_stop, Nat.zero_add]
  have cut : ∃ rest, characters tokens ++ rest = expression := by
    cases failure with
    | none => exact ⟨[], by rw [List.append_nil]; exact used⟩
    | some failure =>
      obtain ⟨-, rest, -, cut⟩ := used
      exact ⟨rest, cut⟩
  obtain ⟨rest, cut⟩ := cut
  refine ⟨?_, adjoin.isChain, fun t => adjoin.text_ne_nil, fun t => adjoin.text_eq_slice cut,
    lexemes, ?_, ?_⟩
  · intro t ht
    obtain ⟨behind, rfl⟩ := List.head?_eq_some_iff.mp ht
    exact adjoin.1
  · rintro rfl
    have all : characters tokens = expression := used
    exact ⟨by rw [last, all], all⟩
  · rintro f rfl
    obtain ⟨place, left, nonempty, cut⟩ := used
    rw [Nat.zero_add] at place
    have := List.length_pos_iff.mpr nonempty
    refine ⟨place.trans last.symm, ?_, ?_, reasons f rfl⟩
    · rw [← cut, List.length_append, place]
      omega
    · rw [← cut, place, List.take_left]

/-- A reader of an expression gives tokens that tile it, then the failure that they stop at or none,
and then nothing more, whatever the radius of its reports. No check but those of the failures is
ever broken: each token is built from its fields, and each quantity from its magnitude and its
precision. -/
theorem reader_tiles [PowersOfTen] (expression : List Char) :
    ∃ (tokens : List Token) (failure : Option Failure),
      (∀ radius asked, (Reader.start expression radius).answer asked =
        answerOf tokens failure asked) ∧
      Tiling expression tokens failure ∧
      ∀ t ∈ tokens, Token.ofFields t.fields = .ok t ∧ t.Fits ∧
        ∀ q, t.payload = .quantity q →
          Quantity.build (.double (.finite q.magnitude)) q.precision.value = .ok q := by
  refine ⟨(scan 0 expression).1, (scan 0 expression).2, ?_, scan_tiling expression, ?_⟩
  · intro radius asked
    exact Reader.answer_start expression radius asked
  · intro t ht
    have fits := Token.fits_of_payload? (lexeme?_of_mem_scan ht).2.2
    refine ⟨Token.ofFields_fields ((scan_tiling expression).nonempty t ht) fits, fits, ?_⟩
    intro q payload
    rw [Token.Fits, payload] at fits
    exact Quantity.build_eq_ok (Quantity.precision_of_ofLiteral? fits.2)

end SignificantFigures.Expression
