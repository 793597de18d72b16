import SignificantFigures.Expression.Lexeme
import SignificantFigures.Expression.Token

/-!
Cutting an expression into tokens from left to right. `pull` takes one token; `scan` repeats it to
the end of the text or to the first failure. By `pull_eq_token` a token is a nonempty front part of
the text, so every token brings the end closer.
-/

set_option autoImplicit false

namespace SignificantFigures.Expression

variable [PowersOfTen]

open Numeral

/-- Why a text cannot be cut further. -/
inductive Reason where
  /-- No kind of token starts here. -/
  | unknown
  /-- The characters of a quantity that has no significant figure or no finite magnitude. -/
  | noQuantity (literal : List Char)
  deriving DecidableEq

structure Failure where
  position : Nat
  reason : Reason
  deriving DecidableEq

/-- What a lexeme stands for; the lexeme of a quantity may stand for none. -/
def payload? (kind : Kind) (lexeme : List Char) : Option Payload :=
  if kind = .quantity then (Quantity.ofLiteral? lexeme).map .quantity else some (.text lexeme)

/-- The outcome of taking one token. -/
inductive Pull where
  | finished
  | failed (failure : Failure)
  | token (t : Token)
  deriving DecidableEq

/-- Takes the token at the front of a text, which starts at a position. -/
def pull (position : Nat) (text : List Char) : Pull :=
  if text.isEmpty then .finished
  else
    match lexeme? text with
    | none => .failed ⟨position, .unknown⟩
    | some (kind, lexeme) =>
      match payload? kind lexeme with
      | none => .failed ⟨position, .noQuantity lexeme⟩
      | some payload => .token ⟨kind, position, lexeme, payload⟩

/-- A token that is taken has at least one character, and it stands at the front of the text. -/
theorem pull_eq_token {position : Nat} {text : List Char} {t : Token}
    (h : pull position text = .token t) : t.text ≠ [] ∧ ∃ rest, t.text ++ rest = text := by
  unfold pull at h
  split at h
  · simp at h
  · split at h
    · simp at h
    · next kind lexeme taken =>
      split at h
      · simp at h
      · simp only [Pull.token.injEq] at h
        subst h
        exact lexeme?_append taken

theorem length_drop_lt_of_pull {position : Nat} {text : List Char} {t : Token}
    (h : pull position text = .token t) : (text.drop t.text.length).length < text.length := by
  obtain ⟨nonempty, rest, rfl⟩ := pull_eq_token h
  have := List.length_pos_iff.2 nonempty
  simp
  omega

/-- The tokens of a text that starts at a position, and the failure that ends them, if any. -/
def scan (position : Nat) (text : List Char) : List Token × Option Failure :=
  match _taken : pull position text with
  | .finished => ([], none)
  | .failed failure => ([], some failure)
  | .token t =>
    let rest := scan t.stop (text.drop t.text.length)
    (t :: rest.1, rest.2)
termination_by text.length
decreasing_by exact length_drop_lt_of_pull _taken

/-- The tokens of an expression, or the failure that keeps it from being cut to its end. -/
def tokens? (expression : List Char) : Except Failure (List Token) :=
  match scan 0 expression with
  | (tokens, none) => .ok tokens
  | (_, some failure) => .error failure

end SignificantFigures.Expression
