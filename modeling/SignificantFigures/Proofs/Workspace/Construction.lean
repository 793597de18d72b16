import SignificantFigures.Proofs.Contract.Restore
import SignificantFigures.Proofs.Double.Arithmetic
import SignificantFigures.Proofs.Quantity.Error
import SignificantFigures.Proofs.Workspace.Step

/-!
Which values make a quantity, and which are refused. A magnitude is looked at before what it is
significant to, and the setters take just the values that a new quantity takes. A refusal names a
value, which has to be one that can be written. The one other failure is that of an integer past the
range of doubles.
-/

set_option autoImplicit false

namespace SignificantFigures

open Contract (HasDouble)
open Double (rangeEnd isRounded_nearest)

namespace Quantity

/-- What a quantity is to be significant to: a number of figures or a last place, as a value. -/
inductive Significance where
  | precision (v : Value)
  | lastPlace (v : Value)

namespace Significance

/-- The error that names the value, where it is neither. -/
def refusal : Significance → Error
  | precision v => .badPrecision v
  | lastPlace v => .badPlace v

theorem refusal_ne_unwritable (s : Significance) : s.refusal ≠ .unwritable := by
  cases s <;> exact nofun

section Check

variable [PowersOfTen]

/-- The quantity that a magnitude makes with a value that is a precision or a last place. -/
inductive Gives (x : Double.Finite) : Significance → Quantity → Prop
  | unbounded : Gives x (.precision (.double (.infinite false))) (ofExact x)
  | figures {count : Int} (least : 1 ≤ count) :
    Gives x (.precision (.integer count)) (ofPrecision x (.figures count))
  | endless : Gives x (.lastPlace (.double (.infinite true))) (ofExact x)
  | place (exponent : Int) : Gives x (.lastPlace (.integer exponent)) ⟨x, .place exponent⟩

/-- The quantity of a magnitude, or the error. -/
def check (s : Significance) (x : Double.Finite) : Except Error Quantity :=
  match s with
  | precision v => (precisionOf v).map (ofPrecision x)
  | lastPlace v => (lastPlaceOf v).map (Quantity.mk x)

theorem build_eq (m v : Value) : build m v = magnitudeOf m >>= (precision v).check := by
  unfold build
  cases magnitudeOf m with
  | error e => rfl
  | ok x =>
    show (precisionOf v >>= _) = (precisionOf v).map (ofPrecision x)
    cases precisionOf v <;> rfl

theorem buildAtPlace_eq (m v : Value) :
    buildAtPlace m v = magnitudeOf m >>= (lastPlace v).check := by
  unfold buildAtPlace
  cases magnitudeOf m with
  | error e => rfl
  | ok x =>
    show (lastPlaceOf v >>= _) = (lastPlaceOf v).map (Quantity.mk x)
    cases lastPlaceOf v <;> rfl

variable {s : Significance} {x : Double.Finite} {r : Quantity}

theorem Gives.check_eq (gives : s.Gives x r) : s.check x = .ok r := by
  cases gives with
  | figures least =>
    rw [check, precisionOf, if_neg (not_lt.mpr least)]
    rfl
  | unbounded | endless | place => rfl

private theorem precision_cases (v : Value) :
    (∃ r, (precision v).Gives x r) ∨ precisionOf v = .error (Error.badPrecision v).raised := by
  cases v with
  | double d =>
    cases d with
    | infinite negative =>
      cases negative with
      | false => exact Or.inl ⟨_, .unbounded⟩
      | true => exact Or.inr rfl
    | finite | nan => exact Or.inr rfl
  | integer count =>
    rcases lt_or_ge count 1 with none | least
    · exact Or.inr (if_pos none)
    · exact Or.inl ⟨_, .figures least⟩
  | null | bool | string | list | object | quantity => exact Or.inr rfl

private theorem lastPlace_cases (v : Value) :
    (∃ r, (lastPlace v).Gives x r) ∨ lastPlaceOf v = .error (Error.badPlace v).raised := by
  cases v with
  | double d =>
    cases d with
    | infinite negative =>
      cases negative with
      | false => exact Or.inr rfl
      | true => exact Or.inl ⟨_, .endless⟩
    | finite | nan => exact Or.inr rfl
  | integer exponent => exact Or.inl ⟨_, .place exponent⟩
  | null | bool | string | list | object | quantity => exact Or.inr rfl

theorem check_of_not_gives (other : ¬ ∃ r, s.Gives x r) : s.check x = .error s.refusal.raised := by
  cases s with
  | precision v =>
    rw [check, (precision_cases v).resolve_left other]
    rfl
  | lastPlace v =>
    rw [check, (lastPlace_cases v).resolve_left other]
    rfl

theorem check_eq_ok_iff : s.check x = .ok r ↔ s.Gives x r := by
  refine ⟨fun given => ?_, Gives.check_eq⟩
  by_cases gives : ∃ r, s.Gives x r
  · obtain ⟨r', gives⟩ := gives
    rw [gives.check_eq, Except.ok.injEq] at given
    rwa [← given]
  · rw [check_of_not_gives gives] at given
    exact nomatch given

end Check

end Significance

/-- An integer for which there is no finite double. -/
def PastRange (m : Value) : Prop :=
  ∃ n : Int, m = .integer n ∧ rangeEnd ≤ |(n : Rat)|

/-- A value that is no finite number, with the error that names it. -/
inductive NoMagnitude : Value → Error → Prop
  | notANumber {m : Value} (other : m.isNumber = false) : NoMagnitude m (.notANumber m)
  | notFinite {d : Double} (other : d.isFinite = false) : NoMagnitude (.double d) (.notFinite d)

/-- The errors that a magnitude and what it is to be significant to are refused with. The magnitude
is named if it is none, whatever stands beside it. -/
inductive Refused [PowersOfTen] (s : Significance) (m : Value) : Error → Prop
  | magnitude {e : Error} (none : NoMagnitude m e) : Refused s m e
  | significance {x : Double.Finite} (double : HasDouble m x) (none : ¬ ∃ r, s.Gives x r) :
    Refused s m s.refusal

section Built

variable {m : Value} {x : Double.Finite} {e : Error} {s : Significance} {r : Quantity}

/-- A value is a magnitude, an integer past the range of doubles, or no finite number. -/
theorem magnitude_cases (m : Value) :
    (∃ x, HasDouble m x) ∨ PastRange m ∨ ∃ e, NoMagnitude m e := by
  cases m with
  | double d =>
    cases d with
    | finite x => exact Or.inl ⟨x, .double x⟩
    | infinite | nan => exact Or.inr (Or.inr ⟨_, .notFinite rfl⟩)
  | integer n =>
    rcases lt_or_ge |(n : Rat)| rangeEnd with inside | past
    · obtain ⟨x, nearest⟩ := (isRounded_nearest n).exists_finite inside
      exact Or.inl ⟨x, .integer nearest⟩
    · exact Or.inr (Or.inl ⟨n, rfl, past⟩)
  | null | bool | string | list | object | quantity =>
    exact Or.inr (Or.inr ⟨_, .notANumber rfl⟩)

variable [PowersOfTen]

theorem NoMagnitude.magnitudeOf (none : NoMagnitude m e) : magnitudeOf m = .error e.raised := by
  cases none with
  | @notANumber m other =>
    cases m with
    | integer | double => exact nomatch other
    | null | bool | string | list | object | quantity => rfl
  | @notFinite d other =>
    cases d with
    | finite => exact nomatch other
    | infinite | nan => rfl

theorem PastRange.magnitudeOf (past : PastRange m) : magnitudeOf m = .error .tooGreat := by
  obtain ⟨n, rfl, past⟩ := past
  rw [Quantity.magnitudeOf, Double.ofInteger, (isRounded_nearest n).eq_infinite past]

theorem magnitudeOf_eq_ok_iff : magnitudeOf m = .ok x ↔ HasDouble m x := by
  refine ⟨fun found => ?_, HasDouble.magnitudeOf⟩
  rcases magnitude_cases m with ⟨x', double⟩ | past | ⟨e, none⟩
  · rw [double.magnitudeOf, Except.ok.injEq] at found
    rwa [← found]
  · exact nomatch past.magnitudeOf.symm.trans found
  · exact nomatch none.magnitudeOf.symm.trans found

theorem Refused.ne (refused : Refused s m e) : e ≠ .tooGreat ∧ e ≠ .unwritable := by
  cases refused with
  | magnitude none => cases none <;> exact ⟨nofun, nofun⟩
  | significance => cases s <;> exact ⟨nofun, nofun⟩

theorem checked_eq_ok_iff :
    (magnitudeOf m >>= s.check) = .ok r ↔ ∃ x, HasDouble m x ∧ s.Gives x r := by
  simp only [Except.bind_eq_ok_iff, magnitudeOf_eq_ok_iff, Significance.check_eq_ok_iff]

theorem PastRange.checked (past : PastRange m) :
    (Quantity.magnitudeOf m >>= s.check) = .error .tooGreat := by
  rw [past.magnitudeOf]
  rfl

theorem Refused.checked (refused : Refused s m e) :
    (Quantity.magnitudeOf m >>= s.check) = .error e.raised := by
  cases refused with
  | magnitude none =>
    rw [none.magnitudeOf]
    rfl
  | significance double none =>
    rw [double.magnitudeOf]
    exact Significance.check_of_not_gives none

/-- What is neither taken nor an integer past the range of doubles is refused. -/
theorem exists_refused_iff :
    (∃ e, Refused s m e) ↔ ¬ PastRange m ∧ ¬ ∃ x r, HasDouble m x ∧ s.Gives x r := by
  constructor
  · rintro ⟨e, refused⟩
    refine ⟨fun past => ?_, ?_⟩
    · have failed := refused.checked.symm.trans past.checked
      exact Error.raised_ne_tooGreat refused.ne.1 (Except.error.inj failed)
    · rintro ⟨x, r, given⟩
      exact nomatch (checked_eq_ok_iff.mpr ⟨x, given⟩).symm.trans refused.checked
  · rintro ⟨inside, other⟩
    rcases magnitude_cases m with ⟨x, double⟩ | past | ⟨e, none⟩
    · exact ⟨s.refusal, .significance double fun ⟨r, gives⟩ => other ⟨x, r, double, gives⟩⟩
    · exact absurd past inside
    · exact ⟨e, .magnitude none⟩

theorem checked_eq_tooGreat_iff :
    (magnitudeOf m >>= s.check) = .error .tooGreat ↔ PastRange m := by
  refine ⟨fun failed => ?_, PastRange.checked⟩
  by_contra inside
  by_cases taken : ∃ x r, HasDouble m x ∧ s.Gives x r
  · obtain ⟨x, r, given⟩ := taken
    exact nomatch (checked_eq_ok_iff.mpr ⟨x, given⟩).symm.trans failed
  · obtain ⟨e, refused⟩ := exists_refused_iff.mpr ⟨inside, taken⟩
    exact Error.raised_ne_tooGreat refused.ne.1 (Except.error.inj (refused.checked.symm.trans failed))

end Built

end Quantity

open Quantity (Significance PastRange Refused ofExact ofPrecision)

namespace Workspace

/-- The step that makes a quantity of a magnitude and what it is to be significant to. -/
def Step.construct (target : String) (m : Value) : Significance → Step
  | .precision v => .build target m (some v)
  | .lastPlace v => .buildAtPlace target m v

/-- The setter call for what a quantity is to be significant to. -/
def Step.assign (source : String) : Significance → Step
  | .precision v => .setPrecision source v
  | .lastPlace v => .setLastPlace source v

variable {w : Workspace} {s : Significance} {m : Value} {target source : String} {index : Nat}
  {q : Quantity}

/-- What a step answers and leaves once its result is checked. -/
def outcome (w : Workspace) (result : Except Quantity.Error Quantity)
    (next : Quantity → Workspace) : Except StepFault Answer × Workspace :=
  match result with
  | .ok r => (.ok (.state r), next r)
  | .error e => (.error (.quantity e), w)

section Outcome

variable {result : Except Quantity.Error Quantity} {next : Quantity → Workspace}

theorem outcome_eq_ok_iff {r : Quantity} :
    w.outcome result next = (.ok (.state r), next r) ↔ result = .ok r := by
  cases result with
  | error e => exact iff_of_false (fun built => nomatch built) fun found => nomatch found
  | ok r' =>
    simp only [outcome, Prod.mk.injEq, Except.ok.injEq, Answer.state.injEq, and_iff_left_iff_imp]
    rintro rfl
    rfl

theorem outcome_eq_error_iff {e : Quantity.Error} :
    w.outcome result next = (.error (.quantity e), w) ↔ result = .error e := by
  cases result with
  | error e' => simp [outcome]
  | ok r => exact iff_of_false (fun failed => nomatch failed) fun found => nomatch found

/-- A failure stays as it is just where its message can be written. -/
theorem outcome_of_raised [PowersOfTen] {e : Quantity.Error} (other : e ≠ .unwritable)
    (failed : result = .error e.raised) :
    (w.outcome result next = (.error (.quantity e), w) ↔ e.Writable) ∧
    (w.outcome result next = (.error (.quantity .unwritable), w) ↔ ¬ e.Writable) := by
  simp only [outcome_eq_error_iff, failed, Except.error.injEq]
  exact ⟨Quantity.Error.raised_eq_self_iff other, Quantity.Error.raised_eq_unwritable_iff other⟩

end Outcome

section Performed

variable [PowersOfTen]

omit [PowersOfTen] in
private theorem run_store (result : Except Quantity.Error Quantity) :
    ((liftM (ofQuantity result) : Action Quantity) >>= store target).run.run w =
      w.outcome result (w.add target) := by
  rw [run_bind]
  cases result <;> rfl

/-- A new quantity is checked before it is stored. -/
theorem perform_construct :
    w.perform (.construct target m s) =
      w.outcome (Quantity.magnitudeOf m >>= s.check) (w.add target) := by
  cases s with
  | precision v =>
    rw [← Significance.build_eq]
    exact run_store _
  | lastPlace v =>
    rw [← Significance.buildAtPlace_eq]
    exact run_store _

section Named

variable (refers : w.index? source = some index) (stands : w.quantities[index]? = some q)

include refers stands

omit [PowersOfTen] in
private theorem run_update_named (set : Quantity → Except Quantity.Error Quantity) :
    (update source set).run.run w = w.outcome (set q) (w.change index) := by
  rw [run_update, find_eq_ok_iff.mpr ⟨refers, stands⟩]
  dsimp only
  cases set q <;> rfl

/-- A setter checks its value before it assigns. -/
theorem perform_assign :
    w.perform (.assign source s) = w.outcome (s.check q.magnitude) (w.change index) := by
  cases s with
  | precision v => exact run_update_named refers stands fun q => q.withPrecision v
  | lastPlace v => exact run_update_named refers stands fun q => q.withLastPlace v

end Named

end Performed

/-- A new quantity is made of a finite number and what it can be significant to, and the setters
take just the same. Anything else is refused and changes nothing. The refusal names the value, and
where an integer in this has too many digits, the failure is that it cannot be written. Only an
integer past the range of doubles fails in another way, whatever stands beside it. -/
theorem construction_ends [PowersOfTen] (w : Workspace) (s : Significance) (m : Value)
    (target : String) :
    let built := w.perform (.construct target m s)
    (∀ r, built = (.ok (.state r), w.add target r) ↔ ∃ x, HasDouble m x ∧ s.Gives x r) ∧
    (built = (.error (.quantity .tooGreat), w) ↔ PastRange m) ∧
    ((∃ e, Refused s m e) ↔ ¬ PastRange m ∧ ¬ ∃ x r, HasDouble m x ∧ s.Gives x r) ∧
    (∀ e, Refused s m e →
      (built = (.error (.quantity e), w) ↔ e.Writable) ∧
      (built = (.error (.quantity .unwritable), w) ↔ ¬ e.Writable)) ∧
    ∀ source index q, w.index? source = some index → w.quantities[index]? = some q →
      let set := w.perform (.assign source s)
      (∀ r, set = (.ok (.state r), w.change index r) ↔ s.Gives q.magnitude r) ∧
      ((¬ ∃ r, s.Gives q.magnitude r) →
        (set = (.error (.quantity s.refusal), w) ↔ s.refusal.Writable) ∧
        (set = (.error (.quantity .unwritable), w) ↔ ¬ s.refusal.Writable)) := by
  intro built
  have performed : built = _ := perform_construct
  rw [performed]
  refine ⟨fun r => ?_, ?_, Quantity.exists_refused_iff, fun e refused => ?_,
    fun source index q refers stands => ?_⟩
  · exact outcome_eq_ok_iff.trans Quantity.checked_eq_ok_iff
  · exact outcome_eq_error_iff.trans Quantity.checked_eq_tooGreat_iff
  · exact outcome_of_raised refused.ne.2 refused.checked
  · dsimp only
    rw [perform_assign refers stands]
    refine ⟨fun r => outcome_eq_ok_iff.trans Significance.check_eq_ok_iff, fun none => ?_⟩
    exact outcome_of_raised s.refusal_ne_unwritable (Significance.check_of_not_gives none)

/-- The greatest integer that has a finite double, and no figures at all. -/
theorem construction_ends_greatest :
    let greatest : Double.Finite := ⟨false, 2 ^ 53 - 1, 971, by decide⟩
    let w := empty.add "x" (ofExact greatest)
    w.perform (.construct "y" (.integer (2 ^ 1024 - 2 ^ 970 - 1)) (.precision (.integer 3))) =
        (.ok (.state (ofPrecision greatest (.figures 3))),
          w.add "y" (ofPrecision greatest (.figures 3))) ∧
      w.perform (.assign "x" (.precision (.integer 0))) =
        (.error (.quantity (.badPrecision (.integer 0))), w) := by
  intro greatest w
  have double : HasDouble (.integer (2 ^ 1024 - 2 ^ 970 - 1)) greatest :=
    .integer (by decide +kernel)
  have writable : (Significance.precision (.integer 0)).refusal.Writable := by
    intro v names
    obtain rfl := Option.some.inj names
    exact Value.writable_integer_iff.mpr (Nat.pow_pos (by decide))
  have none : ¬ ∃ r, (Significance.precision (.integer 0)).Gives greatest r := by
    rintro ⟨r, gives⟩
    cases gives with
    | figures least => exact absurd least (by decide)
  refine ⟨?_, ?_⟩
  · exact ((construction_ends w (.precision (.integer 3)) _ "y").1 _).mpr
      ⟨greatest, double, .figures (by decide)⟩
  · obtain ⟨-, -, -, -, assigned⟩ := construction_ends w (.precision (.integer 0)) .null "y"
    exact ((assigned "x" 0 (ofExact greatest) (by decide +kernel) rfl).2 none).1.mpr writable

/-- `10 ^ 400` is past the range of doubles, so that no quantity has it, but it is not refused. -/
theorem construction_ends_past_range :
    let m : Value := .integer (10 ^ 400)
    let s : Significance := .precision (.integer 3)
    let built := empty.perform (.construct "x" m s)
    built = (.error (.quantity .tooGreat), empty) ∧ (¬ ∃ x r, HasDouble m x ∧ s.Gives x r) ∧
      ¬ ∃ e, Refused s m e ∧ built = (.error (.quantity e), empty) := by
  intro m s built
  have past : PastRange m := ⟨10 ^ 400, rfl, by decide +kernel⟩
  have failed : built = (.error (.quantity .tooGreat), empty) := by
    rw [show built = _ from perform_construct]
    exact outcome_eq_error_iff.mpr past.checked
  refine ⟨failed, ?_, ?_⟩
  · rintro ⟨x, r, given⟩
    exact nomatch past.checked.symm.trans (Quantity.checked_eq_ok_iff.mpr ⟨x, given⟩)
  · rintro ⟨e, refused, failed'⟩
    exact refused.ne.1 (by simpa [failed] using failed'.symm)

end Workspace

end SignificantFigures
