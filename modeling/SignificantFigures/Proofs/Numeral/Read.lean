import Mathlib.Data.List.TakeWhile
import Mathlib.Tactic.SplitIfs
import SignificantFigures.Numeral.Basic

/-!
Written numbers are read back: the reader takes each part of a well-formed numeral off its text,
and the whole text gives the numeral with nothing left over.
-/

set_option autoImplicit false

namespace SignificantFigures.Numeral

/-- What a reader takes off a text, whatever part of the rest follows, is as long as anything in front
of the text that the reader takes as a whole. -/
theorem length_le_of_taken {α : Type} {read : List Char → Option (α × List Char)} {a b : α}
    {front whole rest : List Char}
    (taken : ∀ extra, extra <+: rest → read (front ++ extra) = some (a, extra))
    (all : read whole = some (b, [])) (inFront : whole <+: front ++ rest) :
    whole.length ≤ front.length := by
  by_contra longer
  obtain ⟨extra, rfl⟩ : front <+: whole :=
    List.prefix_of_prefix_length_le (List.prefix_append _ _) inFront (by omega)
  have nothing : extra = [] := by
    rw [taken extra ((List.prefix_append_right_inj front).mp inFront)] at all
    exact congrArg Prod.snd (Option.some.inj all)
  rw [nothing, List.append_nil] at longer
  exact longer le_rfl

theorem mem_head?_of_front {front text : List Char} (inFront : front <+: text) {c : Char}
    (hc : c ∈ front.head?) : c ∈ text.head? := by
  obtain ⟨rest, rfl⟩ := inFront
  obtain ⟨behind, rfl⟩ := List.head?_eq_some_iff.mp hc
  exact Option.mem_some_self c

/-- A text that does not go on with a digit. -/
def StopsDigits (rest : List Char) : Prop :=
  ∀ c ∈ rest.head?, c.isDigit = false

theorem stopsDigits_nil : StopsDigits [] := by
  simp [StopsDigits]

theorem stopsDigits_cons {c : Char} {rest : List Char} (h : c.isDigit = false) :
    StopsDigits (c :: rest) := by
  simp [StopsDigits, h]

theorem stopsDigits_point (rest : List Char) : StopsDigits ('.' :: rest) :=
  stopsDigits_cons rfl

theorem readDigits_digits_append {digits rest : List Char}
    (all : ∀ c ∈ digits, c.isDigit = true) (stops : StopsDigits rest) :
    readDigits (digits ++ rest) = (digits, rest) := by
  induction digits with
  | nil =>
    cases rest with
    | nil => rfl
    | cons c rest => simp [readDigits, stops c rfl]
  | cons c digits ih =>
    have first := all c List.mem_cons_self
    have behind := ih fun d hd => all d (List.mem_cons_of_mem c hd)
    simp only [readDigits, Prod.mk.injEq] at behind ⊢
    simp [first, behind]

theorem readDigits_digits {digits : List Char} (all : ∀ c ∈ digits, c.isDigit = true) :
    readDigits digits = (digits, []) := by
  simpa using readDigits_digits_append all stopsDigits_nil

theorem isDigit_of_mem_readDigits {text : List Char} {c : Char} (hc : c ∈ (readDigits text).1) :
    c.isDigit = true :=
  List.mem_takeWhile_imp hc

theorem stopsDigits_readDigits (text : List Char) : StopsDigits (readDigits text).2 := by
  intro c hc
  have stopped := List.head?_dropWhile_not Char.isDigit text
  rw [show (text.dropWhile Char.isDigit).head? = some c from hc] at stopped
  simpa using stopped

theorem ne_point_of_isDigit {c : Char} (digit : c.isDigit = true) : c ≠ '.' := by
  rintro rfl
  exact absurd digit (by decide)

namespace Sign

theorem ne_sign_of_isDigit {c : Char} (digit : c.isDigit = true) : c ≠ '+' ∧ c ≠ '-' := by
  constructor <;> rintro rfl <;> exact absurd digit (by decide)

theorem read_text_append {rest : List Char} (sign : Option Sign)
    (unsigned : ∀ c ∈ rest.head?, c ≠ '+' ∧ c ≠ '-') : read (text sign ++ rest) = (sign, rest) := by
  rcases sign with _ | _ | _
  · cases rest with
    | nil => rfl
    | cons c rest =>
      obtain ⟨plus, minus⟩ := unsigned c rfl
      simp [text, read, plus, minus]
  · rfl
  · rfl

theorem text_append_read (rest : List Char) : text (read rest).1 ++ (read rest).2 = rest := by
  cases rest with
  | nil => rfl
  | cons c rest =>
    simp only [read]
    split_ifs with plus minus
    · rw [plus]
      rfl
    · rw [minus]
      rfl
    · rfl

end Sign

namespace Mantissa

variable {m : Mantissa}

theorem WellFormed.whole (wf : m.WellFormed) : ∀ c ∈ m.whole, c.isDigit = true :=
  fun c hc => wf.2 c (List.mem_append_left _ hc)

theorem WellFormed.fraction (wf : m.WellFormed) {behind : List Char}
    (written : m.fraction = some behind) : ∀ c ∈ behind, c.isDigit = true := by
  intro c hc
  apply wf.2 c (List.mem_append_right _ _)
  rwa [written, Option.getD_some]

theorem text_of_none (written : m.fraction = none) : m.text = m.whole := by
  simp [text, written]

theorem text_of_some {behind : List Char} (written : m.fraction = some behind) :
    m.text = m.whole ++ '.' :: behind := by
  simp [text, written]

/-- A mantissa starts with a digit or the point. -/
theorem WellFormed.head (wf : m.WellFormed) (rest : List Char) :
    ∀ c ∈ (m.text ++ rest).head?, c.isDigit = true ∨ c = '.' := by
  intro c hc
  cases whole : m.whole with
  | cons d digits =>
    have first := wf.whole d (whole ▸ List.mem_cons_self)
    simp only [text, whole, List.cons_append, List.head?_cons, Option.mem_some_iff] at hc
    exact Or.inl (hc ▸ first)
  | nil =>
    cases written : m.fraction with
    | none => exact absurd (by simp [digits, whole, written]) wf.1
    | some behind =>
      rw [text_of_some written, whole] at hc
      exact Or.inr (Option.mem_some_iff.mp hc).symm

/-- A mantissa does not start with a sign. -/
theorem WellFormed.unsigned (wf : m.WellFormed) (rest : List Char) :
    ∀ c ∈ (m.text ++ rest).head?, c ≠ '+' ∧ c ≠ '-' := by
  intro c hc
  rcases wf.head rest c hc with digit | rfl
  · exact Sign.ne_sign_of_isDigit digit
  · decide

/-- What may follow a mantissa without being taken for a part of it. -/
def Stops (m : Mantissa) (rest : List Char) : Prop :=
  StopsDigits rest ∧ (m.fraction = none → ∀ c ∈ rest.head?, c ≠ '.')

/-- There is a mantissa at the front of a text that starts with one, whatever follows. -/
theorem WellFormed.read_append_ne_none (wf : m.WellFormed) (rest : List Char) :
    read (m.text ++ rest) ≠ none := by
  obtain ⟨whole, fraction⟩ := m
  cases whole with
  | cons c whole =>
    have digit : c.isDigit = true := wf.whole c List.mem_cons_self
    simp only [text, List.cons_append, read, readDigits, List.takeWhile_cons_of_pos digit]
    unfold complete
    split <;> simp
  | nil =>
    rcases fraction with _ | _ | ⟨c, behind⟩
    · exact absurd rfl wf.1
    · exact absurd rfl wf.1
    · have digit : c.isDigit = true := wf.fraction rfl c List.mem_cons_self
      simp [text, read, readDigits, complete, digit]

theorem read_text_append {rest : List Char} (wf : m.WellFormed) (stops : m.Stops rest) :
    read (m.text ++ rest) = some (m, rest) := by
  obtain ⟨whole, fraction⟩ := m
  cases fraction with
  | none =>
    have nonempty : whole ≠ [] := by
      intro empty
      exact wf.1 (by simp [digits, empty])
    rw [text_of_none rfl, read, readDigits_digits_append wf.whole stops.1]
    unfold complete
    split
    · next point => exact absurd rfl (stops.2 rfl '.' (by rw [show rest = _ from point]; rfl))
    · simp [nonempty]
  | some behind =>
    rw [text_of_some rfl, read, List.append_assoc, List.cons_append,
      readDigits_digits_append wf.whole (stopsDigits_point _), complete,
      readDigits_digits_append (wf.fraction rfl) stops.1, if_neg]
    intro empty
    apply wf.1
    simpa [digits] using empty

private theorem of_complete {whole text rest : List Char} (all : ∀ c ∈ whole, c.isDigit = true)
    (stops : StopsDigits text) (taken : complete whole text = some (m, rest)) :
    m.WellFormed ∧ m.Stops rest := by
  unfold complete at taken
  split at taken
  · next behind =>
    simp only [Option.ite_none_left_eq_some, Option.some.injEq, Prod.mk.injEq] at taken
    obtain ⟨filled, rfl, rfl⟩ := taken
    refine ⟨⟨by simpa [digits] using filled, ?_⟩, stopsDigits_readDigits behind, by simp⟩
    intro c hc
    rcases List.mem_append.mp hc with front | behind
    · exact all c front
    · exact isDigit_of_mem_readDigits behind
  · next pointless =>
    simp only [Option.ite_none_left_eq_some, Option.some.injEq, Prod.mk.injEq] at taken
    obtain ⟨filled, rfl, rfl⟩ := taken
    refine ⟨⟨by simpa [digits] using filled, by simpa [digits] using all⟩, stops, ?_⟩
    rintro - c hc rfl
    obtain ⟨behind, point⟩ := List.head?_eq_some_iff.mp hc
    exact pointless behind point

/-- What is taken off a text as a mantissa is one that the rest does not go on with. -/
theorem read_eq_some_iff {text rest : List Char} :
    read text = some (m, rest) ↔ m.WellFormed ∧ m.Stops rest ∧ text = m.text ++ rest := by
  constructor
  · intro taken
    obtain ⟨wf, stops⟩ := of_complete (fun c hc => isDigit_of_mem_readDigits hc)
      (stopsDigits_readDigits text) taken
    exact ⟨wf, stops, (read_append taken).1.symm⟩
  · rintro ⟨wf, stops, rfl⟩
    exact read_text_append wf stops

end Mantissa

namespace Exponent

/-- At least one digit, and nothing else behind the sign. -/
def WellFormed (e : Exponent) : Prop :=
  e.digits ≠ [] ∧ ∀ c ∈ e.digits, c.isDigit = true

section Reading

variable {e : Exponent} {rest : List Char} (wf : e.WellFormed)

include wf

/-- The sign of an exponent is taken off what follows the mark. -/
theorem WellFormed.read_sign (rest : List Char) :
    Sign.read (Sign.text e.sign ++ e.digits ++ rest) = (e.sign, e.digits ++ rest) := by
  rw [List.append_assoc]
  apply Sign.read_text_append
  intro c hc
  obtain ⟨d, digits, cut⟩ := List.exists_cons_of_ne_nil wf.1
  have first : d ∈ e.digits := cut ▸ List.mem_cons_self
  obtain rfl : d = c := by simpa [cut] using hc
  exact Sign.ne_sign_of_isDigit (wf.2 d first)

/-- An exponent is taken off a text that does not go on with a digit. -/
theorem WellFormed.read_append (stops : StopsDigits rest) :
    read (text (some e) ++ rest) = (some e, rest) := by
  simp only [text, List.cons_append, read, wf.read_sign, readDigits_digits_append wf.2 stops]
  rw [if_pos ⟨trivial, wf.1⟩]

end Reading

theorem read_text {exponent : Option Exponent} (wf : ∀ e, exponent = some e → e.WellFormed) :
    read (text exponent) = (exponent, []) := by
  cases exponent with
  | none => rfl
  | some e => simpa using (wf e rfl).read_append stopsDigits_nil

end Exponent

/-- A numeral with digits where digits belong. -/
structure WellFormed (n : Numeral) : Prop where
  mantissa : n.mantissa.WellFormed
  exponent : ∀ e, n.exponent = some e → e.WellFormed

theorem stops_exponent (m : Mantissa) (exponent : Option Exponent) :
    m.Stops (Exponent.text exponent) := by
  cases exponent with
  | none => exact ⟨stopsDigits_nil, fun _ => by simp [Exponent.text]⟩
  | some e => exact ⟨stopsDigits_cons rfl, fun _ => by simp [Exponent.text, exponentMark]⟩

/-- A sign and a mantissa are taken off a text that does not go on with the mantissa, and what
follows is looked at for an exponent. -/
theorem read_append {sign : Option Sign} {m : Mantissa} {rest : List Char} (wf : m.WellFormed)
    (stops : m.Stops rest) :
    read (Sign.text sign ++ (m.text ++ rest)) =
      some (⟨sign, m, (Exponent.read rest).1⟩, (Exponent.read rest).2) := by
  rw [read, Sign.read_text_append sign (wf.unsigned rest)]
  dsimp only
  rw [Mantissa.read_text_append wf stops, Option.map_some]

/-- What is taken off a text as a numeral: a sign, a mantissa that is not gone on with, and the
exponent at the front of what follows. -/
theorem read_eq_some_iff {text rest : List Char} {n : Numeral} :
    read text = some (n, rest) ↔ ∃ tail, n.mantissa.WellFormed ∧ n.mantissa.Stops tail ∧
      text = Sign.text n.sign ++ (n.mantissa.text ++ tail) ∧
      Exponent.read tail = (n.exponent, rest) := by
  constructor
  · intro taken
    obtain ⟨⟨mantissa, tail⟩, body, found⟩ := Option.map_eq_some_iff.mp taken
    obtain ⟨rfl, rfl⟩ := Prod.mk.inj found
    obtain ⟨wf, stops, cut⟩ := Mantissa.read_eq_some_iff.mp body
    refine ⟨tail, wf, stops, ?_, rfl⟩
    dsimp only
    rw [← cut, Sign.text_append_read]
  · rintro ⟨tail, wf, stops, rfl, exponent⟩
    rw [read_append wf stops, exponent]

/-- The text of a numeral is read back to it. -/
theorem read_text {n : Numeral} (wf : n.WellFormed) : read n.text = some (n, []) := by
  rw [text, List.append_assoc, read_append wf.mantissa (stops_exponent _ _),
    Exponent.read_text wf.exponent]

/-- The number at the front of a text: of the sign, the mantissa and the exponent behind it. -/
theorem leadingDouble?_append {sign : Option Sign} {m : Mantissa} {tail : List Char}
    (wf : m.WellFormed) (stops : m.Stops tail) :
    leadingDouble? (Sign.text sign ++ (m.text ++ tail)) =
      some (⟨sign, m, (Exponent.read tail).1⟩ : Numeral).value.nearest := by
  rw [leadingDouble?, read_append wf stops, Option.map_some]

/-- There is a number at the front of a text just when it starts with a mantissa after an optional
sign. -/
theorem leadingDouble?_eq_some_iff {text : List Char} {d : Double} :
    leadingDouble? text = some d ↔ ∃ (sign : Option Sign) (m : Mantissa) (tail : List Char),
      m.WellFormed ∧ m.Stops tail ∧ text = Sign.text sign ++ (m.text ++ tail) ∧
      (⟨sign, m, (Exponent.read tail).1⟩ : Numeral).value.nearest = d := by
  constructor
  · intro found
    obtain ⟨⟨n, rest⟩, taken, value⟩ := Option.map_eq_some_iff.mp found
    obtain ⟨tail, wf, stops, cut, exponent⟩ := read_eq_some_iff.mp taken
    refine ⟨n.sign, n.mantissa, tail, wf, stops, cut, ?_⟩
    rw [exponent]
    exact value
  · rintro ⟨sign, m, tail, wf, stops, rfl, rfl⟩
    exact leadingDouble?_append wf stops

theorem leadingDouble?_text {n : Numeral} (wf : n.WellFormed) :
    leadingDouble? n.text = some n.value.nearest := by
  rw [leadingDouble?, read_text wf, Option.map_some]

end SignificantFigures.Numeral
