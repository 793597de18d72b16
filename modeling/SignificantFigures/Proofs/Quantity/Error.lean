import SignificantFigures.Proofs.Value.Text
import SignificantFigures.Quantity.Error

/-!
Which messages can be written: those that name no value with an integer of too many digits.
-/

set_option autoImplicit false

namespace SignificantFigures.Quantity.Error

/-- The value that the message of a failure names. -/
def named? : Error → Option Value
  | notANumber v | badPrecision v | badPlace v => some v
  | divisionByZero dividend => some (.quantity dividend)
  | _ => none

variable [PowersOfTen] {e : Error}

/-- A failure that names no value with an integer of too many digits. -/
def Writable (e : Error) : Prop :=
  ∀ v, e.named? = some v → v.Writable

theorem writable_divisionByZero_iff {dividend : Quantity} :
    (divisionByZero dividend).Writable ↔ dividend.Writable := by
  simp [Writable, named?, Value.writable_quantity_iff]

theorem message?_eq_none_iff : e.message? = none ↔ e.hasMessage = false ∨ ¬ e.Writable := by
  have named {v : Value} (names : e.named? = some v) : e.Writable ↔ v.Writable := by
    simp [Writable, names]
  cases e with
  | notANumber v | badPrecision v | badPlace v =>
    simp [message?, hasMessage, named rfl, Value.text?_eq_none_iff]
  | divisionByZero dividend =>
    have text : (Value.quantity dividend).text? = dividend.describe? := by rw [Value.text?]
    simp [message?, hasMessage, named rfl, ← Value.text?_eq_none_iff, text]
  | notFinite | unreadable | tooGreat | decimal | unwritable =>
    simp [message?, hasMessage, Writable, named?]

theorem raised_of_writable (writable : e.Writable) : e.raised = e := by
  rw [raised, if_neg]
  simp [message?_eq_none_iff, writable]

theorem raised_of_not_writable (long : ¬ e.Writable) : e.raised = .unwritable := by
  have named : e.hasMessage = true := by
    cases e with
    | tooGreat | decimal | unwritable => exact absurd (fun v names => nomatch names) long
    | _ => rfl
  rw [raised, if_pos]
  simp [message?_eq_none_iff, named, long]

theorem raised_eq_self_iff (other : e ≠ .unwritable) : e.raised = e ↔ e.Writable := by
  refine ⟨fun kept => ?_, raised_of_writable⟩
  by_contra long
  exact other (kept.symm.trans (raised_of_not_writable long))

theorem raised_eq_unwritable_iff (other : e ≠ .unwritable) :
    e.raised = .unwritable ↔ ¬ e.Writable := by
  refine ⟨fun lost writable => ?_, raised_of_not_writable⟩
  exact other ((raised_of_writable writable).symm.trans lost)

theorem raised_ne_tooGreat (other : e ≠ .tooGreat) : e.raised ≠ .tooGreat := by
  rw [raised]
  split_ifs
  · exact nofun
  · exact other

end SignificantFigures.Quantity.Error
