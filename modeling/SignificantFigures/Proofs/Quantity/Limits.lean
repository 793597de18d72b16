import SignificantFigures.Proofs.Contract.Restore
import SignificantFigures.Proofs.Quantity.Display
import SignificantFigures.Proofs.Quantity.Scientific
import SignificantFigures.Quantity.Document

/-!
The limits within which a quantity can be shown. A quantity may have any last place, but it is
rounded under the limits of decimal arithmetic, and whatever is shown of it is rounded first. So all
views of a quantity have a text or fail alike, and its last place alone decides which.
-/

set_option autoImplicit false

namespace SignificantFigures.Quantity

open Double.Finite

/-- The limit of decimal arithmetic that the last place of a quantity breaks: it is too far from the
units, or it is above every leading exponent. -/
def limit (q : Quantity) : Option Decimal.Fault :=
  match q.lastPlace with
  | .exact => none
  | .place place =>
    if 2000054 < |place| then some .invalid
    else if 999999 < place then some .overflow
    else none

/-- Whether no figure is significant: the magnitude is zero, or it lies below the last place. -/
def isInsignificant [PowersOfTen] (q : Quantity) : Bool :=
  q.magnitude.isZero || match q.precision with
    | .exact => false
    | .figures count => count < 1

/-- A computation that has a result, or fails for the limit that is broken. -/
def Within {α : Type} (limit : Option Decimal.Fault) (x : Except Decimal.Fault α) : Prop :=
  match limit with
  | none => ∃ a, x = .ok a
  | some fault => x = .error fault

namespace Within

variable {α β : Type} {limit : Option Decimal.Fault} {x : Except Decimal.Fault α}

theorem map (within : Within limit x) (f : α → β) : Within limit (x.map f) := by
  cases limit with
  | none =>
    obtain ⟨a, found⟩ := within
    exact ⟨f a, by rw [found, Except.map]⟩
  | some fault => exact congrArg (Except.map f) within

/-- Where a result is enough to go on, nothing else can fail. -/
theorem bind (within : Within limit x) {f : α → Except Decimal.Fault β}
    (rest : ∀ a, x = .ok a → ∃ b, f a = .ok b) : Within limit (x >>= f) := by
  cases limit with
  | none =>
    obtain ⟨a, found⟩ := within
    obtain ⟨b, done⟩ := rest a found
    exact ⟨b, Except.bind_eq_ok_iff.mpr ⟨a, found, done⟩⟩
  | some fault => exact congrArg (· >>= f) within

end Within

theorem within_checkPlace (magnitude : Double.Finite) (place : Int) :
    Within (limit ⟨magnitude, .place place⟩) (Decimal.checkPlace place) := by
  have far : 2000054 < |place| ↔ Decimal.shiftLimit < place.natAbs := by
    rw [Int.abs_eq_natAbs]
    exact Iff.rfl
  have great : 999999 < place ↔ Decimal.leadingLimit < place := Iff.rfl
  unfold limit Decimal.checkPlace
  simp only [far, great]
  split_ifs
  · rfl
  · rfl
  · exact ⟨(), rfl⟩

section Shown

variable [PowersOfTen] {q : Quantity} {style : ExponentStyle}

theorem within_rounded (q : Quantity) : Within q.limit q.rounded := by
  obtain ⟨magnitude, lastPlace⟩ := q
  cases lastPlace with
  | exact => exact ⟨_, rfl⟩
  | place place => exact (within_checkPlace magnitude place).map _

theorem within_positional (q : Quantity) : Within q.limit q.positional := by
  cases place_eq : q.lastPlace with
  | exact =>
    rw [limit, positional, place_eq]
    exact ⟨_, rfl⟩
  | place place =>
    rw [positional, place_eq]
    exact q.within_rounded.map _

theorem within_display [PowersOfTen.Close] (q : Quantity) (style : ExponentStyle) :
    Within q.limit (q.display style) := by
  have rounded := q.within_rounded
  cases broken : q.limit with
  | none =>
    rw [broken] at rounded
    obtain ⟨r, rounded⟩ := rounded
    exact exists_display rounded style
  | some fault =>
    rw [broken] at rounded
    have unrounded : q.rounded = .error fault := rounded
    unfold display layout
    rw [unrounded]
    rfl

section Scientific

/-- Without a significant figure the scientific text is a zero, and nothing is rounded. -/
theorem scientific_of_isInsignificant (none : q.isInsignificant = true) :
    q.scientific style = .ok ['0'] := by
  unfold scientific
  rw [isInsignificant] at none
  cases zero : q.magnitude.isZero with
  | true => exact if_pos rfl
  | false =>
    rw [zero, Bool.false_or] at none
    rw [if_neg Bool.false_ne_true]
    cases figures : q.precision with
    | exact =>
      rw [figures] at none
      exact nomatch none
    | figures count =>
      rw [figures] at none
      exact if_pos (of_decide_eq_true none)

private theorem significant_cases (some : q.isInsignificant = false) :
    q.magnitude.isZero = false ∧
      (q.precision = .exact ∨ ∃ count, q.precision = .figures count ∧ 1 ≤ count) := by
  rw [isInsignificant, Bool.or_eq_false_iff] at some
  refine ⟨some.1, ?_⟩
  cases figures : q.precision with
  | exact => exact Or.inl rfl
  | figures count =>
    rw [figures] at some
    exact Or.inr ⟨count, rfl, not_lt.mp (of_decide_eq_false some.2)⟩

private theorem exists_scientific_of_exact [PowersOfTen.Close] (nonzero : q.magnitude.isZero = false)
    (exact : q.precision = .exact) : ∃ text, q.scientific style = .ok text := by
  obtain ⟨m, found⟩ := exists_mantissa_decade (isZero_eq_false_iff.mp nonzero)
  refine ⟨(Double.finite m).plainText ++ style.render q.magnitude.decade, ?_⟩
  rw [scientific, nonzero, if_neg Bool.false_ne_true, exact]
  dsimp only
  rw [found]
  rfl

theorem within_scientific [PowersOfTen.Close] (q : Quantity) (style : ExponentStyle) :
    Within (if q.isInsignificant then none else q.limit) (q.scientific style) := by
  cases significant : q.isInsignificant with
  | true =>
    rw [if_pos rfl]
    exact ⟨_, scientific_of_isInsignificant significant⟩
  | false =>
    rw [if_neg Bool.false_ne_true]
    obtain ⟨nonzero, exact | ⟨count, figures, least⟩⟩ := significant_cases significant
    · rw [limit, precision_eq_exact.mp exact]
      exact exists_scientific_of_exact nonzero exact
    · rw [scientific_eq_bind figures least nonzero]
      refine q.within_rounded.bind fun r rounded => ?_
      obtain ⟨positive, -⟩ := positive_of_figures figures least nonzero rounded
      obtain ⟨m, found⟩ := exists_mantissa_decade positive
      exact ⟨_, Except.bind_eq_ok_iff.mpr ⟨.finite m, found, rfl⟩⟩

end Scientific

/-- No limit is broken by a number of figures below two millions. -/
theorem limit_eq_none_of_figures [PowersOfTen.Close] {count : Int} (figures : q.precision = .figures count)
    (least : 1 ≤ count) (most : count ≤ 1999731) : q.limit = none := by
  obtain ⟨place, place_eq, inside⟩ := exists_lastPlace_of_figures figures least
  have lowest := neg_324_le_decade q.magnitude
  have highest := decade_le q.magnitude
  rw [precision, place_eq] at figures
  have count_eq : q.magnitude.decade - place + 1 = count := Precision.figures.inj figures
  have near : |place| ≤ 2000054 := abs_le.mpr ⟨by omega, by omega⟩
  rw [limit, place_eq]
  dsimp only
  rw [if_neg (not_lt.mpr near), if_neg (by omega)]

/-- A quantity is rounded, written in positional form, displayed and turned into a document if its
last place breaks no limit, and otherwise each of these fails for the limit; so does scientific text
unless no figure is significant. -/
theorem shown_within_limits [PowersOfTen.Close] (q : Quantity) :
    Within q.limit q.rounded ∧ Within q.limit q.positional ∧
      (∀ style, Within q.limit (q.display style)) ∧ Within q.limit q.document ∧
      ∀ style, Within (if q.isInsignificant then none else q.limit) (q.scientific style) :=
  ⟨q.within_rounded, q.within_positional, q.within_display, (q.within_display .letter).map _,
    q.within_scientific⟩

end Shown

/-- A last place more than 2000054 below the units is too far for every view. -/
theorem shown_within_limits_below :
    let q : Quantity := ⟨⟨false, 4503599627370496, -52, by decide⟩, .place (-2000055)⟩
    q.rounded = .error .invalid ∧ q.positional = .error .invalid ∧
      (∀ style, q.display style = .error .invalid) ∧ q.document = .error .invalid ∧
      ∀ style, q.scientific style = .error .invalid := by
  intro q
  have broken : q.limit = some .invalid := by decide
  have significant : q.isInsignificant = false := by decide +kernel
  have shown := shown_within_limits q
  rw [significant, if_neg Bool.false_ne_true, broken] at shown
  exact shown

/-- A document with a last place a million above the units keeps the contract, but the quantity that
it gives is not displayed again and makes no document. -/
theorem shown_within_limits_restored :
    let one : Double.Finite := ⟨false, 4503599627370496, -52, by decide⟩
    let document : Value := .object [("magnitude", .double (.finite one)),
      ("precision", .integer (-999999)), ("last_sig_place", .integer 1000000),
      ("display", .string "0")]
    ∃ q, Contract.restore document = .ok q ∧ q.rounded = .error .overflow ∧
      q.display .letter = .error .overflow ∧ q.document = .error .overflow := by
  intro one document
  have accepted : Contract.accepts Contract.quantitySchema document = true := by decide +kernel
  refine ⟨⟨one, .place 1000000⟩, ?_, rfl, rfl, rfl⟩
  rw [Contract.restore, Contract.validate_eq_ok_iff.mpr accepted]
  rfl

end SignificantFigures.Quantity
