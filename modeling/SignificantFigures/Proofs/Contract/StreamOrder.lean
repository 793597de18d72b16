import Mathlib.Data.List.Basic
import Mathlib.Order.Bounds.Defs
import SignificantFigures.Contract.Stream
import SignificantFigures.Proofs.Contract.Formats
import SignificantFigures.Proofs.Text.Integer

/-!
The order of a stream of token documents whose positions are integers. Each element is compared
with the end of the one before it only. An element ends no earlier than it starts, so this puts every
two of them one behind the other, and no text is empty, so their positions increase. The check fails
at the first element with which the stream is not in order any more.
-/

set_option autoImplicit false

namespace SignificantFigures.Contract

variable {v : Value}

/-- Where the document of a token starts, if its position is an integer. -/
def startOf (v : Value) : Int :=
  match v.get? "position" with
  | some (.integer n) => n
  | _ => 0

/-- The number of characters of the document of a token. -/
def lengthOf (v : Value) : Nat :=
  match v.get? "text" with
  | some (.string text) => text.length
  | _ => 0

def stopOf (v : Value) : Int :=
  startOf v + lengthOf v

/-- The document of a token with an integer position, as it is checked. -/
theorem spanOf_of_accepts (accepted : accepts tokenSchema v = true) {n : Int}
    (position : v.get? "position" = some (.integer n)) :
    spanOf v = .ok ⟨.integer (startOf v), lengthOf v⟩ ∧ 0 ≤ startOf v ∧ 0 < lengthOf v := by
  obtain ⟨entries, kind, place, text, quantity, rfl, same, ⟨start, integer, low⟩, filled, -⟩ :=
    accepts_token_format_iff.mp accepted
  have text_eq : Value.get? (.object entries) "text" = some (.string text) := same "text"
  have place_eq : Value.get? (.object entries) "position" = some place := same "position"
  obtain rfl := Option.some.inj (place_eq.symm.trans position)
  cases integer
  have start_eq : startOf (.object entries) = n := by rw [startOf, position]
  have length_eq : lengthOf (.object entries) = text.length := by rw [lengthOf, text_eq]
  have span : Span.ofValue? (.object entries) = some ⟨.integer n, text.length⟩ := by
    rw [Span.ofValue?, position, text_eq]
    rfl
  rw [start_eq, length_eq]
  refine ⟨?_, low, ?_⟩
  · rw [spanOf, accepts_iff.mp accepted, span]
  · rw [Nat.pos_iff_ne_zero, ne_eq, String.length_eq_zero_iff]
    exact filled

/-- A document of a token has its position as an integer. -/
def AtInteger (v : Value) : Prop :=
  accepts tokenSchema v = true → ∃ n : Int, v.get? "position" = some (.integer n)

section Order

/-- Elements that are all accepted, each one behind every one before it. -/
structure InOrder (items : List Value) : Prop where
  accepted : ∀ v ∈ items, accepts tokenSchema v = true
  apart : items.Pairwise fun v w => stopOf v ≤ startOf w

theorem InOrder.of_sublist {items kept : List Value} (order : InOrder items)
    (sublist : kept.Sublist items) : InOrder kept :=
  ⟨fun v hv => order.accepted v (sublist.subset hv), order.apart.sublist sublist⟩

/-- Elements that are accepted and start no earlier than the one before them ends, the first one no
earlier than a position. -/
def Chained : Int → List Value → Prop
  | _, [] => True
  | position, v :: rest =>
    accepts tokenSchema v = true ∧ position ≤ startOf v ∧ Chained (stopOf v) rest

theorem start_le_stop (v : Value) : startOf v ≤ stopOf v := by
  unfold stopOf
  omega

/-- To compare neighbours is to compare every two elements. -/
theorem chained_iff {position : Int} {items : List Value} :
    Chained position items ↔ InOrder items ∧ ∀ v ∈ items, position ≤ startOf v := by
  induction items generalizing position with
  | nil => exact iff_of_true trivial ⟨⟨by simp, List.Pairwise.nil⟩, by simp⟩
  | cons v rest ih =>
    rw [Chained, ih]
    constructor
    · rintro ⟨accepted, low, order, behind⟩
      refine ⟨⟨?_, List.Pairwise.cons behind order.apart⟩, ?_⟩
      · exact List.forall_mem_cons.mpr ⟨accepted, order.accepted⟩
      · refine List.forall_mem_cons.mpr ⟨low, fun w hw => ?_⟩
        have inside := start_le_stop v
        have later := behind w hw
        omega
    · rintro ⟨order, low⟩
      obtain ⟨behind, apart⟩ := List.pairwise_cons.mp order.apart
      exact ⟨order.accepted v List.mem_cons_self, low v List.mem_cons_self,
        order.of_sublist (List.sublist_cons_self v rest), behind⟩

/-- The end of the last element, or the position before all of them. -/
def endOf : Int → List Value → Int
  | position, [] => position
  | _, v :: rest => endOf (stopOf v) rest

theorem endOf_append_singleton (position : Int) (front : List Value) (v : Value) :
    endOf position (front ++ [v]) = stopOf v := by
  induction front generalizing position with
  | nil => rfl
  | cons u front ih => exact ih (stopOf u)

theorem chained_append_singleton {position : Int} {front : List Value} :
    Chained position (front ++ [v]) ↔
      Chained position front ∧ accepts tokenSchema v = true ∧ endOf position front ≤ startOf v := by
  induction front generalizing position with
  | nil => simp [Chained, endOf]
  | cons u front ih => simp [Chained, endOf, ih, and_assoc]

end Order

section Check

variable {items rest : List Value} {index : Nat} {position : Int}

theorem checkElements_of_accepts (accepted : accepts tokenSchema v = true) {n : Int}
    (whole : v.get? "position" = some (.integer n)) :
    checkElements index (.integer position) (v :: rest) =
      if startOf v < position then
        .error (overlapFault index (.integer (startOf v)) (.integer position))
      else checkElements (index + 1) (.integer (stopOf v)) rest := by
  have compared : (Offset.integer (startOf v)).value < (Offset.integer position).value ↔
      startOf v < position := Rat.intCast_lt_intCast
  rw [checkElements, (spanOf_of_accepts accepted whole).1]
  simp only [compared]
  rfl

/-- What the check does with one element: it is refused, it overlaps, or the rest is checked from
its end on. -/
theorem checkElements_cons (integer : AtInteger v) :
    (∃ first others, violations tokenSchema v = first :: others ∧
      checkElements index (.integer position) (v :: rest) = .error (.broken first)) ∨
    (accepts tokenSchema v = true ∧ startOf v < position ∧
      checkElements index (.integer position) (v :: rest) =
        .error (overlapFault index (.integer (startOf v)) (.integer position))) ∨
    (accepts tokenSchema v = true ∧ position ≤ startOf v ∧
      checkElements index (.integer position) (v :: rest) =
        checkElements (index + 1) (.integer (stopOf v)) rest) := by
  cases broken : violations tokenSchema v with
  | cons first others =>
    have refused : spanOf v = .error (.broken first) := by rw [spanOf, broken]
    exact Or.inl ⟨first, others, rfl, by rw [checkElements, refused]⟩
  | nil =>
    have accepted := accepts_iff.mpr broken
    obtain ⟨n, whole⟩ := integer accepted
    rw [checkElements_of_accepts accepted whole]
    rcases lt_or_ge (startOf v) position with early | behind
    · exact Or.inr (Or.inl ⟨accepted, early, if_pos early⟩)
    · exact Or.inr (Or.inr ⟨accepted, behind, if_neg (not_lt.mpr behind)⟩)

theorem checkElements_eq_ok_iff (integers : ∀ v ∈ items, AtInteger v) :
    checkElements index (.integer position) items = .ok () ↔ Chained position items := by
  induction items generalizing index position with
  | nil => exact iff_of_true rfl trivial
  | cons v rest ih =>
    obtain ⟨integer, integers⟩ := List.forall_mem_cons.mp integers
    rw [Chained]
    rcases checkElements_cons integer with ⟨first, others, broken, check⟩ |
      ⟨-, early, check⟩ | ⟨accepted, behind, check⟩
    · rw [check, accepts_iff, broken]
      simp
    · rw [check]
      simp [not_le.mpr early]
    · rw [check, ih integers]
      simp [accepted, behind]

/-- Where the check fails: behind elements in order stands one that is refused or overlaps. -/
theorem exists_failure (index : Nat) (integers : ∀ v ∈ items, AtInteger v)
    (failed : ¬ Chained position items) :
    ∃ front v back, items = front ++ v :: back ∧ Chained position front ∧
      ((∃ first others, violations tokenSchema v = first :: others ∧
        checkElements index (.integer position) items = .error (.broken first)) ∨
      (accepts tokenSchema v = true ∧ startOf v < endOf position front ∧
        checkElements index (.integer position) items = .error
          (overlapFault (index + front.length) (.integer (startOf v))
            (.integer (endOf position front))))) := by
  induction items generalizing index position with
  | nil => exact absurd trivial failed
  | cons v rest ih =>
    obtain ⟨integer, integers⟩ := List.forall_mem_cons.mp integers
    rcases checkElements_cons integer with ⟨first, others, broken, check⟩ |
      ⟨accepted, early, check⟩ | ⟨accepted, behind, check⟩
    · exact ⟨[], v, rest, rfl, trivial, Or.inl ⟨first, others, broken, check⟩⟩
    · exact ⟨[], v, rest, rfl, trivial, Or.inr ⟨accepted, early, check⟩⟩
    · rw [Chained, not_and, not_and] at failed
      obtain ⟨front, w, back, rfl, chained, stopped⟩ :=
        ih (index + 1) integers (failed accepted behind)
      refine ⟨v :: front, w, back, rfl, ⟨accepted, behind, chained⟩, ?_⟩
      rw [check, List.length_cons, Nat.add_comm front.length 1, ← Nat.add_assoc]
      exact stopped

end Check

section Stream

variable {items : List Value} (integers : ∀ v ∈ items, AtInteger v)

include integers

theorem start_nonneg (hv : v ∈ items) (accepted : accepts tokenSchema v = true) :
    0 ≤ startOf v := by
  obtain ⟨n, position⟩ := integers v hv accepted
  exact (spanOf_of_accepts accepted position).2.1

/-- No text is empty, so elements in order start one behind the other. -/
theorem InOrder.start_lt (order : InOrder items) :
    items.Pairwise fun v w => startOf v < startOf w := by
  refine order.apart.imp_of_mem fun {v w} hv _ apart => ?_
  have accepted := order.accepted v hv
  obtain ⟨n, position⟩ := integers v hv accepted
  have filled := (spanOf_of_accepts accepted position).2.2
  unfold stopOf at apart
  omega

theorem chained_zero_iff : Chained 0 items ↔ InOrder items := by
  rw [chained_iff, and_iff_left_iff_imp]
  exact fun order v hv => start_nonneg integers hv (order.accepted v hv)

end Stream

/-- Elements in order that an element does not go on with are the longest front in order. -/
theorem isLeast_length {front back : List Value} (integers : ∀ w ∈ front ++ v :: back, AtInteger w)
    (order : InOrder front) (stops : ¬ (accepts tokenSchema v = true ∧ endOf 0 front ≤ startOf v)) :
    IsLeast {k | ¬ InOrder ((front ++ v :: back).take (k + 1))} front.length := by
  constructor
  · rw [Set.mem_ofPred_eq, List.take_length_add_append, List.take_succ_cons, List.take_zero]
    intro longer
    have chained : Chained 0 (front ++ [v]) := by
      refine (chained_zero_iff fun w hw => integers w ?_).mpr longer
      exact ((List.singleton_sublist.mpr List.mem_cons_self).append_left front).subset hw
    exact stops (chained_append_singleton.mp chained).2
  · intro k bad
    by_contra early
    refine bad (order.of_sublist ?_)
    rw [List.take_append_of_le_length (by omega)]
    exact List.take_sublist _ _

/-- The message of the overlap of an element with the one before it. -/
def overlapText (index : Nat) (start stop : Int) : List Char :=
  "Token ".toList ++ Nat.toDigits 10 index ++ " at position ".toList ++ integerText start ++
    " overlaps previous token ending at ".toList ++ integerText stop

section Message

variable {start stop : Int} (index : Nat)

theorem message?_overlap (writable : Text.Writable start ∧ Text.Writable stop) :
    (StreamFault.overlap index (.integer start) (.integer stop)).message? =
      some (overlapText index start stop) := by
  simp only [StreamFault.message?, Offset.text?, Text.ofInteger?_of_writable writable.1,
    Text.ofInteger?_of_writable writable.2]
  rfl

theorem overlapFault_of_writable (writable : Text.Writable start ∧ Text.Writable stop) :
    overlapFault index (.integer start) (.integer stop) =
      .overlap index (.integer start) (.integer stop) := by
  rw [overlapFault, message?_overlap index writable]
  rfl

theorem overlapFault_of_not_writable (long : ¬ (Text.Writable start ∧ Text.Writable stop)) :
    overlapFault index (.integer start) (.integer stop) = .unwritable := by
  rw [not_and_or] at long
  rcases long with long | long <;>
    simp [overlapFault, StreamFault.message?, Offset.text?, Text.ofInteger?_of_not_writable long]

end Message

/-- A stream of values whose tokens have integer positions passes just when every element is accepted
and every two of them stand one behind the other. If it does not pass, the error is about the first
element with which the elements so far are not in order: its first violation if it is not accepted,
and otherwise the overlap with the end of the element right before it. Where its start or that end
has too many digits, the overlap is found, but it cannot be reported. -/
theorem stream_order (items : List Value)
    (integers : ∀ v ∈ items, accepts tokenSchema v = true →
      ∃ n : Int, v.get? "position" = some (.integer n)) :
    (checkStream (.list items) = .ok () ↔ InOrder items) ∧
    (InOrder items → items.Pairwise fun v w => startOf v < startOf w) ∧
    (¬ InOrder items → ∃ k v, IsLeast {k | ¬ InOrder (items.take (k + 1))} k ∧
      items[k]? = some v ∧
      ((∃ first others, violations tokenSchema v = first :: others ∧
        checkStream (.list items) = .error (.broken first)) ∨
      (accepts tokenSchema v = true ∧ ∃ j previous, k = j + 1 ∧ items[j]? = some previous ∧
        startOf v < stopOf previous ∧ ∃ fault, checkStream (.list items) = .error fault ∧
          (Text.Writable (startOf v) ∧ Text.Writable (stopOf previous) →
            fault = .overlap k (.integer (startOf v)) (.integer (stopOf previous)) ∧
            fault.message? = some (overlapText k (startOf v) (stopOf previous))) ∧
          (¬ (Text.Writable (startOf v) ∧ Text.Writable (stopOf previous)) →
            fault = .unwritable)))) := by
  refine ⟨?_, InOrder.start_lt integers, ?_⟩
  · rw [← chained_zero_iff integers]
    exact checkElements_eq_ok_iff integers
  · intro disordered
    rw [← chained_zero_iff integers] at disordered
    obtain ⟨front, v, back, rfl, chained, stopped⟩ := exists_failure 0 integers disordered
    have order : InOrder front := (chained_iff.mp chained).1
    have low (accepted : accepts tokenSchema v = true) : 0 ≤ startOf v :=
      start_nonneg integers (by simp) accepted
    have least := isLeast_length integers order <| by
      rintro ⟨accepted, behind⟩
      rcases stopped with ⟨first, others, broken, -⟩ | ⟨-, early, -⟩
      · exact List.cons_ne_nil first others (broken.symm.trans (accepts_iff.mp accepted))
      · exact absurd behind (not_le.mpr early)
    refine ⟨front.length, v, least, by simp, stopped.imp_right ?_⟩
    rintro ⟨accepted, early, check⟩
    refine ⟨accepted, ?_⟩
    rcases List.eq_nil_or_concat' front with rfl | ⟨before, previous, rfl⟩
    · exact absurd early (not_lt.mpr (low accepted))
    · rw [endOf_append_singleton] at early check
      rw [Nat.zero_add] at check
      refine ⟨before.length, previous, by simp, by simp, early, _, check, ?_⟩
      refine ⟨fun writable => ?_, overlapFault_of_not_writable _⟩
      rw [overlapFault_of_writable _ writable]
      exact ⟨rfl, message?_overlap _ writable⟩

/-- Of two tokens the second starts at the last character of the first. -/
theorem stream_order_overlap :
    let first : Value := .object
      [("kind", .string "whitespace"), ("position", .integer 0), ("text", .string "  ")]
    let second : Value := .object
      [("kind", .string "add"), ("position", .integer 1), ("text", .string "+")]
    (∀ v ∈ [first, second], accepts tokenSchema v = true →
      ∃ n : Int, v.get? "position" = some (.integer n)) ∧
    IsLeast {k | ¬ InOrder ([first, second].take (k + 1))} 1 ∧
    checkStream (.list [first, second]) = .error (.overlap 1 (.integer 1) (.integer 2)) := by
  intro first second
  have integers : ∀ v ∈ [first, second], accepts tokenSchema v = true →
      ∃ n : Int, v.get? "position" = some (.integer n) := by
    intro v hv _
    rcases List.mem_pair.mp hv with rfl | rfl
    · exact ⟨0, rfl⟩
    · exact ⟨1, rfl⟩
  have accepted_first : accepts tokenSchema first = true := by decide +kernel
  have accepted_second : accepts tokenSchema second = true := by decide +kernel
  have disordered : ¬ InOrder [first, second] := by
    intro order
    have apart : (2 : Int) ≤ 1 := List.rel_of_pairwise_cons order.apart List.mem_cons_self
    omega
  have alone : InOrder [first] :=
    ⟨List.forall_mem_singleton.mpr accepted_first, List.pairwise_singleton _ _⟩
  obtain ⟨k, v, least, found, stopped⟩ := (stream_order [first, second] integers).2.2 disordered
  obtain rfl : k = 1 := by
    rcases k with _ | _ | k
    · exact absurd alone least.1
    · rfl
    · simp at found
  obtain rfl := Option.some.inj found
  rcases stopped with ⟨broken, others, violated, -⟩ | ⟨-, j, previous, next, before, -, stopped⟩
  · exact absurd (violated.symm.trans (accepts_iff.mp accepted_second)) (List.cons_ne_nil _ _)
  · obtain rfl : j = 0 := by omega
    obtain rfl := Option.some.inj before
    obtain ⟨fault, check, written, -⟩ := stopped
    have small : Text.Writable 1 ∧ Text.Writable 2 :=
      ⟨Nat.one_lt_pow (by decide) (by decide),
        lt_of_lt_of_le (by decide) (Nat.le_self_pow (by decide) 10)⟩
    rw [(written small).1] at check
    exact ⟨integers, least, check⟩

/-- A token that ends at the first position with too many digits, and one that starts before it. Both
are accepted, and their overlap is not reported. -/
theorem stream_order_unwritable :
    let first : Value := .object [("kind", .string "add"),
      ("position", .integer (10 ^ Text.digitLimit - 1)), ("text", .string "+")]
    let second : Value := .object
      [("kind", .string "add"), ("position", .integer 0), ("text", .string "+")]
    (∀ v ∈ [first, second], accepts tokenSchema v = true) ∧ startOf second < stopOf first ∧
      ¬ InOrder [first, second] ∧ checkStream (.list [first, second]) = .error .unwritable := by
  intro first second
  have accepted_first : accepts tokenSchema first = true := by decide +kernel
  have accepted_second : accepts tokenSchema second = true := by decide +kernel
  have early : startOf second < stopOf first := by decide +kernel
  have stop : stopOf first = 10 ^ Text.digitLimit := by decide +kernel
  refine ⟨?_, early, ?_, ?_⟩
  · exact List.forall_mem_cons.mpr ⟨accepted_first, List.forall_mem_singleton.mpr accepted_second⟩
  · intro order
    exact absurd early (not_lt.mpr (List.rel_of_pairwise_cons order.apart List.mem_cons_self))
  · have behind : ¬ startOf first < 0 := by decide +kernel
    calc checkStream (.list [first, second])
        = checkElements 1 (.integer (stopOf first)) [second] := by
          rw [checkStream, elements?]
          dsimp only
          rw [checkElements_of_accepts accepted_first rfl, if_neg behind]
      _ = .error (overlapFault 1 (.integer (startOf second)) (.integer (stopOf first))) := by
          rw [checkElements_of_accepts accepted_second rfl, if_pos early]
      _ = .error .unwritable := by
          rw [overlapFault_of_not_writable 1 fun writable => ?_]
          exact Text.not_writable_pow (stop ▸ writable.2)

end SignificantFigures.Contract
