import SignificantFigures.Proofs.Except
import SignificantFigures.Proofs.Expression.QuantityForm
import SignificantFigures.Proofs.Expression.Scan

/-!
Scanning a text that is put together of two. A token does not depend on what stands before it, and
of what stands behind it only the next character matters, so the tokens of the two texts stand one
behind the other unless the second goes on with a quantity that the first ends in.
-/

set_option autoImplicit false

namespace SignificantFigures.Expression

open Numeral

/-- The same token a number of characters further on. -/
def Token.shift (count : Nat) (t : Token) : Token :=
  { t with position := count + t.position }

def Failure.shift (count : Nat) (failure : Failure) : Failure :=
  { failure with position := count + failure.position }

def Pull.shift (count : Nat) : Pull → Pull
  | finished => finished
  | failed failure => failed (failure.shift count)
  | token t => token (t.shift count)

@[simp] theorem Token.stop_shift (count : Nat) (t : Token) : (t.shift count).stop = count + t.stop :=
  Nat.add_assoc ..

@[simp] theorem Token.text_shift (count : Nat) (t : Token) : (t.shift count).text = t.text :=
  rfl

section Shift

variable [PowersOfTen]

/-- Where a text starts changes nothing but the positions. -/
theorem pull_shift (count position : Nat) (text : List Char) :
    pull (count + position) text = (pull position text).shift count := by
  unfold pull
  split
  · rfl
  · split
    · rfl
    · split <;> rfl

theorem scan_shift (count position : Nat) (text : List Char) :
    scan (count + position) text =
      ((scan position text).1.map (Token.shift count),
        (scan position text).2.map (Failure.shift count)) := by
  fun_induction scan position text with
  | case1 position text taken =>
    exact scan_of_finished (by rw [pull_shift, taken]; rfl)
  | case2 position text failure taken =>
    exact scan_of_failed (by rw [pull_shift, taken]; rfl)
  | case3 position text t taken rest ih =>
    have moved : pull (count + position) text = .token (t.shift count) := by
      rw [pull_shift, taken]
      rfl
    rw [scan_of_token moved, Token.stop_shift, Token.text_shift, ih]
    rfl

end Shift

variable {position : Nat} {text : List Char}

/-- A text that does not go on with a quantity. -/
def StopsQuantity (text : List Char) : Prop :=
  ∀ c ∈ text.head?, c.isDigit = false ∧ c ≠ '.' ∧ c ≠ exponentMark ∧ c ≠ exactMark

theorem StopsQuantity.stops (free : StopsQuantity text) (f : QuantityForm) : f.Stops text := by
  refine Or.inr fun c hc => ?_
  obtain ⟨digit, point, exponent, exact⟩ := free c hc
  exact ⟨exact, digit, fun _ => ⟨exponent, fun _ => point⟩⟩

/-- The last token is no quantity that a text goes on with. -/
def Parted (tokens : List Token) (text : List Char) : Prop :=
  ∀ t ∈ tokens.getLast?, t.kind = .quantity → StopsQuantity text

theorem Parted.tail {t : Token} {tokens : List Token} (parted : Parted (t :: tokens) text) :
    Parted tokens text := by
  intro u hu
  apply parted u
  rw [List.getLast?_cons, Option.mem_def.mp hu]
  rfl

/-- A token is taken off a longer text as well, if it is not the last one or the text behind does not
go on with it. -/
theorem pull_append [PowersOfTen] {u v : List Char} {t : Token} (taken : pull position u = .token t)
    (stops : u.drop t.text.length = [] → t.kind = .quantity → StopsQuantity v) :
    pull position (u ++ v) = .token t := by
  obtain ⟨start, lexeme, stands⟩ := pull_token taken
  obtain ⟨-, rest, rfl⟩ := pull_eq_token taken
  rw [List.drop_left] at stops
  have lexeme' : lexeme? (t.text ++ (rest ++ v)) = some (t.kind, t.text) := by
    refine lexeme?_replace lexeme fun quantity f behind => ?_
    cases rest with
    | nil => exact (stops rfl quantity).stops f
    | cons c rest => exact behind
  rw [← List.append_assoc] at lexeme'
  rw [← start]
  exact pull_of_lexeme? lexeme' stands

private theorem scan_append_from [PowersOfTen] {u v : List Char}
    (complete : (scan position u).2 = none)
    (parted : Parted (scan position u).1 v) :
    scan position (u ++ v) = ((scan position u).1 ++ (scan (position + u.length) v).1,
      (scan (position + u.length) v).2) := by
  fun_induction scan position u with
  | case1 position u taken =>
    obtain rfl := pull_finished taken
    rfl
  | case2 position u failure taken => exact absurd complete (Option.some_ne_none failure)
  | case3 position u t taken rest ih =>
    obtain ⟨start, -⟩ := pull_token taken
    have later := ih complete parted.tail
    have pulled : pull position (u ++ v) = .token t := by
      refine pull_append taken fun last => parted t ?_
      -- nothing is left behind the token, so it is the last one
      have none : rest = ([], .none) := by
        show scan t.stop (u.drop t.text.length) = _
        rw [last, scan_nil]
      rw [none]
      rfl
    have ends : t.stop + (u.drop t.text.length).length = position + u.length := by
      obtain ⟨-, behind, rfl⟩ := pull_eq_token taken
      rw [List.drop_left, List.length_append, Token.stop, start, Nat.add_assoc]
    have short : t.text.length ≤ u.length := by
      obtain ⟨-, behind, rfl⟩ := pull_eq_token taken
      simp
    rw [scan_of_token pulled, List.drop_append_of_le_length short, later, ends]
    rfl

/-- The tokens of a text, then those of a second one moved behind it, are the tokens of the two texts
put together, and they end or fail as those of the second do. The first text has to be cut to its
end, and the second must not go on with a quantity that the first ends in. -/
theorem scan_append [PowersOfTen] (u v : List Char) (tokens : List Token)
    (cut : tokens? u = .ok tokens)
    (parted : u = [] ∨ (∀ t ∈ tokens.getLast?, t.kind ≠ .quantity) ∨ v = [] ∨ StopsQuantity v) :
    scan 0 (u ++ v) = (tokens ++ (scan 0 v).1.map (Token.shift u.length),
      (scan 0 v).2.map (Failure.shift u.length)) := by
  have complete : scan 0 u = (tokens, none) := by
    unfold tokens? at cut
    split at cut
    · next found =>
      obtain rfl := Except.ok.inj cut
      exact found
    · exact nomatch cut
  have parted' : Parted tokens v := by
    intro t ht quantity
    rcases parted with rfl | other | rfl | free
    · rw [scan_nil] at complete
      obtain rfl := congrArg Prod.fst complete
      exact nomatch ht
    · exact absurd quantity (other t ht)
    · exact fun c hc => nomatch hc
    · exact free
  have moved := scan_shift u.length 0 v
  rw [Nat.add_zero] at moved
  rw [scan_append_from (by rw [complete]) (by rwa [complete]), complete, Nat.zero_add, moved]

/-- The text `1.5e` and behind it `+0`, in which the zero stands for no quantity. -/
theorem scan_append_failing :
    ∃ tokens, tokens? "1.5e".toList = .ok tokens ∧ StopsQuantity "+0".toList ∧
      scan 0 ("1.5e".toList ++ "+0".toList) =
        (tokens ++ [⟨.add, 4, ['+'], .text ['+']⟩], some ⟨5, .noQuantity ['0']⟩) := by
  have reads : (tokens? "1.5e".toList).isOk = true := by decide +kernel
  obtain ⟨tokens, cut⟩ := Except.isOk_iff.mp reads
  have free : StopsQuantity "+0".toList := by
    intro c hc
    obtain rfl : c = '+' := (Option.some.inj hc).symm
    decide
  have behind : scan 0 "+0".toList = ([⟨.add, 0, ['+'], .text ['+']⟩], some ⟨1, .noQuantity ['0']⟩) := by
    decide +kernel
  refine ⟨tokens, cut, free, ?_⟩
  rw [scan_append _ _ tokens cut (Or.inr (Or.inr (Or.inr free))), behind]
  rfl

end SignificantFigures.Expression
