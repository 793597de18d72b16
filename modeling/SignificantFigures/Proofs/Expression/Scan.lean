import Mathlib.Data.List.Chain
import SignificantFigures.Expression.Scan

/-!
Scanning loses nothing: the tokens stand one behind the other from the start, none is empty, and
their characters are the text up to its end or up to the position of the failure.
-/

set_option autoImplicit false

namespace SignificantFigures.Expression

variable {position : Nat} {text : List Char}

section Pull

variable [PowersOfTen]

/-- All that taking a token can do: the text is over, no kind fits, the characters of a quantity
stand for none, or there is a token. -/
theorem pull_cases (position : Nat) (text : List Char) :
    (text = [] ∧ pull position text = .finished) ∨
    (text ≠ [] ∧ lexeme? text = none ∧ pull position text = .failed ⟨position, .unknown⟩) ∨
    (∃ kind lexeme, text ≠ [] ∧ lexeme? text = some (kind, lexeme) ∧ payload? kind lexeme = none ∧
      pull position text = .failed ⟨position, .noQuantity lexeme⟩) ∨
    (∃ kind lexeme payload, lexeme? text = some (kind, lexeme) ∧
      payload? kind lexeme = some payload ∧
      pull position text = .token ⟨kind, position, lexeme, payload⟩) := by
  by_cases empty : text = []
  · exact Or.inl ⟨empty, by simp [pull, empty]⟩
  · refine Or.inr ?_
    cases taken : lexeme? text with
    | none => exact Or.inl ⟨empty, rfl, by simp [pull, empty, taken]⟩
    | some found =>
      obtain ⟨kind, lexeme⟩ := found
      refine Or.inr ?_
      cases stands : payload? kind lexeme with
      | none => exact Or.inl ⟨kind, lexeme, empty, rfl, stands, by simp [pull, empty, taken, stands]⟩
      | some payload =>
        exact Or.inr ⟨kind, lexeme, payload, rfl, stands, by simp [pull, empty, taken, stands]⟩

theorem pull_finished (h : pull position text = .finished) : text = [] := by
  rcases pull_cases position text with ⟨empty, -⟩ | ⟨-, -, found⟩ | ⟨_, _, -, -, -, found⟩ |
    ⟨_, _, _, -, -, found⟩
  · exact empty
  all_goals exact nomatch found.symm.trans h

/-- The reason of a failure holds of the text that it stands before: no kind has a lexeme there, or
the characters of a quantity stand for none. -/
def Failure.HoldsAt (failure : Failure) (rest : List Char) : Prop :=
  match failure.reason with
  | .unknown => lexeme? rest = none
  | .noQuantity literal => ∃ kind, lexeme? rest = some (kind, literal) ∧ payload? kind literal = none

theorem pull_failed {failure : Failure} (h : pull position text = .failed failure) :
    failure.position = position ∧ text ≠ [] ∧ failure.HoldsAt text := by
  rcases pull_cases position text with ⟨-, found⟩ | ⟨filled, unknown, found⟩ |
    ⟨kind, _, filled, taken, nothing, found⟩ | ⟨_, _, _, -, -, found⟩
  · exact nomatch found.symm.trans h
  · obtain rfl := Pull.failed.inj (found.symm.trans h)
    exact ⟨rfl, filled, unknown⟩
  · obtain rfl := Pull.failed.inj (found.symm.trans h)
    exact ⟨rfl, filled, kind, taken, nothing⟩
  · exact nomatch found.symm.trans h

theorem pull_token {t : Token} (h : pull position text = .token t) :
    t.position = position ∧ lexeme? text = some (t.kind, t.text) ∧
      payload? t.kind t.text = some t.payload := by
  rcases pull_cases position text with ⟨-, found⟩ | ⟨-, -, found⟩ | ⟨_, _, -, -, -, found⟩ |
    ⟨_, _, _, taken, stands, found⟩
  · exact nomatch found.symm.trans h
  · exact nomatch found.symm.trans h
  · exact nomatch found.symm.trans h
  · obtain rfl := Pull.token.inj (found.symm.trans h)
    exact ⟨rfl, taken, stands⟩

/-- A lexeme that stands for something is taken as a token. -/
theorem pull_of_lexeme? {kind : Kind} {lexeme : List Char} {payload : Payload}
    (taken : lexeme? text = some (kind, lexeme)) (stands : payload? kind lexeme = some payload) :
    pull position text = .token ⟨kind, position, lexeme, payload⟩ := by
  have filled : text ≠ [] := by
    obtain ⟨nonempty, rest, rfl⟩ := lexeme?_append taken
    simp [nonempty]
  simp [pull, filled, taken, stands]

section Equations

theorem scan_of_finished (pulled : pull position text = .finished) :
    scan position text = ([], none) := by
  rw [scan]
  split <;> simp_all

theorem scan_of_failed {failure : Failure} (pulled : pull position text = .failed failure) :
    scan position text = ([], some failure) := by
  rw [scan]
  split <;> simp_all

theorem scan_of_token {t : Token} (pulled : pull position text = .token t) :
    scan position text = (t :: (scan t.stop (text.drop t.text.length)).1,
      (scan t.stop (text.drop t.text.length)).2) := by
  rw [scan]
  split <;> simp_all

/-- The first token of a scan is taken off the text, and the others are the scan of what is left. -/
theorem scan_eq_cons_iff {t : Token} {tokens : List Token} {failure : Option Failure} :
    scan position text = (t :: tokens, failure) ↔ pull position text = .token t ∧
      scan t.stop (text.drop t.text.length) = (tokens, failure) := by
  constructor
  · intro cut
    cases pulled : pull position text with
    | finished => exact nomatch (scan_of_finished pulled).symm.trans cut
    | failed failure => exact nomatch (scan_of_failed pulled).symm.trans cut
    | token u =>
      rw [scan_of_token pulled, Prod.mk.injEq, List.cons.injEq] at cut
      obtain ⟨⟨rfl, later⟩, failed⟩ := cut
      exact ⟨rfl, Prod.ext later failed⟩
  · rintro ⟨pulled, later⟩
    rw [scan_of_token pulled, later]

theorem tokens?_eq_ok_iff {tokens : List Token} :
    tokens? text = .ok tokens ↔ scan 0 text = (tokens, none) := by
  unfold tokens?
  rcases scan 0 text with ⟨found, failure | failure⟩ <;> simp

@[simp] theorem scan_nil (position : Nat) : scan position [] = ([], none) :=
  scan_of_finished rfl

end Equations

/-- A text that is one lexeme is cut into one token, or fails at its start if the lexeme stands for
nothing. -/
theorem scan_of_lexeme? {text : List Char} {kind : Kind} (position : Nat)
    (whole : lexeme? text = some (kind, text)) :
    scan position text =
      match payload? kind text with
      | some payload => ([⟨kind, position, text, payload⟩], none)
      | none => ([], some ⟨position, .noQuantity text⟩) := by
  have filled : text ≠ [] := (lexeme?_append whole).1
  cases stands : payload? kind text with
  | none => exact scan_of_failed (by simp [pull, filled, whole, stands])
  | some payload =>
    rw [scan_of_token (pull_of_lexeme? whole stands), List.drop_length, scan_nil]

end Pull

/-- Nonempty tokens that stand one behind the other from a position on. -/
def Adjoin : Nat → List Token → Prop
  | _, [] => True
  | position, t :: rest => t.position = position ∧ t.text ≠ [] ∧ Adjoin t.stop rest

/-- The characters of tokens in their order. -/
def characters (tokens : List Token) : List Char :=
  tokens.flatMap Token.text

@[simp] theorem characters_nil : characters [] = [] :=
  rfl

@[simp] theorem characters_cons (t : Token) (tokens : List Token) :
    characters (t :: tokens) = t.text ++ characters tokens :=
  rfl

@[simp] theorem characters_append (front back : List Token) :
    characters (front ++ back) = characters front ++ characters back := by
  simp [characters]

/-- Tokens use up a text that starts at a position, or a failure stands where they stop short. -/
def UsesUp (position : Nat) (text : List Char) (tokens : List Token) : Option Failure → Prop
  | none => characters tokens = text
  | some failure =>
    failure.position = position + (characters tokens).length ∧
      ∃ rest, rest ≠ [] ∧ characters tokens ++ rest = text

theorem UsesUp.cons {t : Token} {tokens : List Token} {failure : Option Failure}
    (start : t.position = position) {rest : List Char} (behind : UsesUp t.stop rest tokens failure) :
    UsesUp position (t.text ++ rest) (t :: tokens) failure := by
  cases failure with
  | none => exact congrArg (t.text ++ ·) behind
  | some failure =>
    obtain ⟨place, left, nonempty, cut⟩ := behind
    refine ⟨?_, left, nonempty, ?_⟩
    · rw [place, Token.stop, start, characters_cons, List.length_append, Nat.add_assoc]
    · rw [characters_cons, List.append_assoc, cut]

section Scan

variable [PowersOfTen]

/-- Scanning a text gives adjoining tokens that use it up. -/
theorem scan_spec (position : Nat) (text : List Char) :
    Adjoin position (scan position text).1 ∧
      UsesUp position text (scan position text).1 (scan position text).2 := by
  fun_induction scan position text with
  | case1 position text taken => exact ⟨trivial, (pull_finished taken).symm⟩
  | case2 position text failure taken =>
    obtain ⟨place, nonempty, -⟩ := pull_failed taken
    exact ⟨trivial, place, text, nonempty, rfl⟩
  | case3 position text t taken rest ih =>
    obtain ⟨nonempty, behind, cut⟩ := pull_eq_token taken
    obtain ⟨start, -⟩ := pull_token taken
    have dropped : text.drop t.text.length = behind := by rw [← cut, List.drop_left]
    have used := ih.2.cons start
    rw [dropped, cut, ← dropped] at used
    exact ⟨⟨start, nonempty, ih.1⟩, used⟩

/-- Each token is the lexeme of the first kind that has one at its position, and it stands for its
payload. -/
theorem lexeme?_of_mem_scan {t : Token} (ht : t ∈ (scan position text).1) :
    position ≤ t.position ∧ lexeme? (text.drop (t.position - position)) = some (t.kind, t.text) ∧
      payload? t.kind t.text = some t.payload := by
  fun_induction scan position text with
  | case1 => exact absurd ht List.not_mem_nil
  | case2 => exact absurd ht List.not_mem_nil
  | case3 position text u taken rest ih =>
    obtain ⟨start, lexeme, stands⟩ := pull_token taken
    rcases List.mem_cons.mp ht with rfl | later
    · refine ⟨start.ge, ?_, stands⟩
      rwa [start, Nat.sub_self, List.drop_zero]
    · obtain ⟨behind, lexeme, stands⟩ := ih later
      rw [Token.stop, start] at behind lexeme
      refine ⟨by omega, ?_, stands⟩
      rwa [List.drop_drop, show u.text.length + (t.position - (position + u.text.length)) =
        t.position - position by omega] at lexeme

theorem holdsAt_of_scan {failure : Failure} (h : (scan position text).2 = some failure) :
    position ≤ failure.position ∧ failure.HoldsAt (text.drop (failure.position - position)) := by
  fun_induction scan position text with
  | case1 => simp at h
  | case2 position text failure taken =>
    obtain rfl := Option.some.inj h
    obtain ⟨place, -, reason⟩ := pull_failed taken
    refine ⟨place.ge, ?_⟩
    rwa [place, Nat.sub_self, List.drop_zero]
  | case3 position text u taken rest ih =>
    obtain ⟨start, -⟩ := pull_token taken
    obtain ⟨behind, reason⟩ := ih h
    rw [Token.stop, start] at behind reason
    refine ⟨by omega, ?_⟩
    rwa [List.drop_drop, show u.text.length + (failure.position - (position + u.text.length)) =
      failure.position - position by omega] at reason

end Scan

namespace Adjoin

variable {tokens : List Token}

theorem isChain (h : Adjoin position tokens) :
    tokens.IsChain fun t u => u.position = t.stop := by
  induction tokens generalizing position with
  | nil => exact .nil
  | cons t tokens ih =>
    obtain ⟨-, -, behind⟩ := h
    cases tokens with
    | nil => exact .singleton t
    | cons u tokens => exact .cons_cons behind.1 (ih behind)

theorem text_ne_nil (h : Adjoin position tokens) {t : Token} (ht : t ∈ tokens) : t.text ≠ [] := by
  induction tokens generalizing position with
  | nil => exact nomatch ht
  | cons u tokens ih =>
    obtain ⟨-, nonempty, behind⟩ := h
    rcases List.mem_cons.mp ht with rfl | later
    · exact nonempty
    · exact ih behind later

/-- A token stands behind the characters of those before it. -/
theorem position_eq {front back : List Token} {t : Token}
    (h : Adjoin position (front ++ t :: back)) :
    t.position = position + (characters front).length := by
  induction front generalizing position with
  | nil => simpa using h.1
  | cons u front ih =>
    obtain ⟨start, -, behind⟩ := h
    rw [ih behind, Token.stop, start, characters_cons, List.length_append, Nat.add_assoc]

/-- The last token stops behind the characters of them all. -/
theorem last_stop (h : Adjoin position tokens) :
    (tokens.getLast?.map Token.stop).getD position = position + (characters tokens).length := by
  rcases List.eq_nil_or_concat tokens with rfl | ⟨front, t, rfl⟩
  · rfl
  · rw [List.concat_eq_append] at h ⊢
    have start := h.position_eq
    simp [Token.stop, start, Nat.add_assoc]

/-- The characters of a token are those of the text between its position and its stop. -/
theorem text_eq_slice {expression : List Char} (h : Adjoin 0 tokens) {rest : List Char}
    (cut : characters tokens ++ rest = expression) {t : Token} (ht : t ∈ tokens) :
    t.text = (expression.take t.stop).drop t.position := by
  obtain ⟨front, back, rfl⟩ := List.append_of_mem ht
  have start := h.position_eq
  rw [Nat.zero_add] at start
  have split : expression = characters front ++ (t.text ++ (characters back ++ rest)) := by
    rw [← cut]
    simp
  rw [split, List.drop_take, Token.stop, start, Nat.add_sub_cancel_left, List.drop_left,
    List.take_left]

end Adjoin

end SignificantFigures.Expression
