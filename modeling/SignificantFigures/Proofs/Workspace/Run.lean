import SignificantFigures.Proofs.Workspace.Step

/-!
What a run of steps does to the quantities of a workspace. A quantity keeps its magnitude, its
figures always reach from the decade of the magnitude to the last place, and its state is the one it
was stored with or the one that the last successful setter call on it, through any of its names, gave
it.
-/

set_option autoImplicit false

namespace SignificantFigures

/-- An exact quantity has neither a last place nor a bound on its figures; those of any other reach
from the decade of its magnitude down to its last place. -/
def Quantity.Coherent [PowersOfTen] (q : Quantity) : Prop :=
  (q.lastPlace = .exact ∧ q.precision = .exact) ∨
    ∃ place count : Int, q.lastPlace = .place place ∧ q.precision = .figures count ∧
      count + place = q.magnitude.decade + 1

theorem Quantity.coherent [PowersOfTen] (q : Quantity) : q.Coherent := by
  cases place : q.lastPlace with
  | exact => exact Or.inl ⟨place, by rw [Quantity.precision, place]⟩
  | place exponent =>
    refine Or.inr ⟨exponent, q.magnitude.decade - exponent + 1, place, ?_, by omega⟩
    rw [Quantity.precision, place]

namespace Workspace

section Run

variable [PowersOfTen] {w : Workspace} {i : Nat} {q : Quantity}

/-- A setter call on the quantity at an index succeeds and gives it a state. -/
def Assigns (w : Workspace) (index : Nat) (s : Step) (r : Quantity) : Prop :=
  w.Sets index s ∧ w.step s = .ok (.state r, w.next s)

theorem exists_next (s : Step) (stands : w.quantities[i]? = some q) :
    ∃ r, (w.next s).quantities[i]? = some r ∧ r.magnitude = q.magnitude ∧
      (r = q ∨ w.Assigns i s r) := by
  obtain ⟨r, found, magnitude, change⟩ := (effect_perform w s).exists_quantity stands
  refine ⟨r, found, magnitude, change.imp_right ?_⟩
  rintro ⟨sets, done⟩
  exact ⟨sets, step_eq_ok_iff.mpr (Prod.ext done rfl)⟩

/-- A run keeps every quantity and its magnitude; its state is the one it had or the one that a
successful setter call on it gave it. -/
theorem exists_after (steps : List Step) (stands : w.quantities[i]? = some q) :
    ∃ r, (w.after steps).quantities[i]? = some r ∧ r.magnitude = q.magnitude ∧
      (r = q ∨ ∃ early s late, steps = early ++ s :: late ∧ (w.after early).Assigns i s r) := by
  induction steps generalizing w q with
  | nil => exact ⟨q, stands, rfl, Or.inl rfl⟩
  | cons s rest ih =>
    obtain ⟨p, between, kept, change⟩ := exists_next s stands
    obtain ⟨r, last, magnitude, origin⟩ := ih between
    refine ⟨r, last, magnitude.trans kept, ?_⟩
    -- The latest assignment decides: one in the rest of the run, or else one by its first step.
    rcases origin with rfl | ⟨early, t, late, rfl, assigns⟩
    · rcases change with rfl | assigns
      · exact Or.inl rfl
      · exact Or.inr ⟨[], s, rest, rfl, assigns⟩
    · exact Or.inr ⟨s :: early, t, late, rfl, assigns⟩

omit [PowersOfTen] in
/-- The quantity at an index that is changed is the new one. -/
theorem getElem?_change (stands : w.quantities[i]? = some q) (r : Quantity) :
    (w.change i r).quantities[i]? = some r :=
  List.getElem?_set_self (List.getElem?_eq_some_iff.mp stands).1

/-- The workspaces that steps lead to. -/
def Reached (w : Workspace) : Prop :=
  ∃ steps, empty.after steps = w

theorem Scoped.after (inside : w.Scoped) (steps : List Step) : (w.after steps).Scoped := by
  induction steps generalizing w with
  | nil => exact inside
  | cons s rest ih => exact ih ((effect_perform w s).preserves_scoped inside)

theorem Reached.scoped (reached : w.Reached) : w.Scoped := by
  obtain ⟨steps, rfl⟩ := reached
  apply Scoped.after
  intro name index found
  exact nomatch found

/-- Through any steps on a workspace that is reached, every quantity stays coherent and keeps its
magnitude, and only a successful setter call on it gives it another state. A step that fails leaves
the workspace as it was. Every name refers to a quantity, on which a setter call with a value that it
takes succeeds, so that it has the new state, and of which a copy is another quantity and an alias
the same. What a step stores is a quantity of its own: setter calls on it leave those from before as
they are at any later time, and setter calls on those leave it. -/
theorem history_of_quantities (w : Workspace) (reached : w.Reached) :
    (∀ i q, w.quantities[i]? = some q → q.Coherent ∧ ∀ back, ∃ r,
      (w.after back).quantities[i]? = some r ∧ r.magnitude = q.magnitude ∧
        (r = q ∨ ∃ early s late, back = early ++ s :: late ∧ (w.after early).Assigns i s r)) ∧
    (∀ s fault left, w.perform s = (.error fault, left) → left = w) ∧
    (∀ source i, w.index? source = some i → ∃ q, w.quantities[i]? = some q ∧
      (∀ v p, Quantity.precisionOf v = .ok p →
        w.step (.setPrecision source v) =
          .ok (.state (.ofPrecision q.magnitude p), w.change i (.ofPrecision q.magnitude p)) ∧
        (w.next (.setPrecision source v)).quantities[i]? = some (.ofPrecision q.magnitude p)) ∧
      (∀ v p, Quantity.lastPlaceOf v = .ok p →
        w.step (.setLastPlace source v) =
          .ok (.state ⟨q.magnitude, p⟩, w.change i ⟨q.magnitude, p⟩) ∧
        (w.next (.setLastPlace source v)).quantities[i]? = some ⟨q.magnitude, p⟩) ∧
      ∀ target, w.step (.copy source target) = .ok (.state q, w.add target q) ∧
        w.step (.alias source target) = .ok (.state q, w.refer target i)) ∧
    (∀ s target answer v, s.target? = some target → w.step s = .ok (answer, v) →
      ∃ q, answer = .state q ∧ v.quantities = w.quantities ++ [q] ∧
        (∀ name, v.index? name = some w.quantities.length ↔ name = target) ∧
        ∀ i < w.quantities.length, ∀ back t,
          ((v.after back).Sets w.quantities.length t →
            ((v.after back).next t).quantities[i]? = (v.after back).quantities[i]?) ∧
          ((v.after back).Sets i t →
            ((v.after back).next t).quantities[w.quantities.length]? =
              (v.after back).quantities[w.quantities.length]?)) := by
  refine ⟨?_, ?_, ?_, ?_⟩
  · intro i q stands
    exact ⟨q.coherent, fun back => exists_after back stands⟩
  · intro s fault left failed
    have effect := effect_perform w s
    rw [failed] at effect
    exact effect.eq_of_fault rfl
  · intro source i refers
    have stands := List.getElem?_eq_getElem (reached.scoped source i refers)
    refine ⟨_, stands, ?_, ?_, ?_⟩
    · intro v p valid
      have done := step_setPrecision refers stands valid
      exact ⟨done, next_of_step done ▸ getElem?_change stands _⟩
    · intro v p valid
      have done := step_setLastPlace refers stands valid
      exact ⟨done, next_of_step done ▸ getElem?_change stands _⟩
    · intro target
      exact ⟨step_copy refers stands, step_alias refers stands⟩
  · intro s target answer v stores done
    have effect := effect_perform w s
    rw [step_eq_ok_iff.mp done] at effect
    obtain ⟨q, state, added, named⟩ := effect.of_stores reached.scoped stores rfl
    refine ⟨q, state, added, named, ?_⟩
    intro i before back t
    have apart : i ≠ w.quantities.length := Nat.ne_of_lt before
    have later := effect_perform (v.after back) t
    exact ⟨fun sets => later.of_sets sets apart, fun sets => later.of_sets sets apart.symm⟩

end Run

/-- Two names of one quantity, and a copy of it under a third. -/
theorem history_of_quantities_copied :
    let w := empty.after [.literal "x" "3.49".toList, .alias "x" "y"]
    let v := (w.next (.copy "x" "z")).after [.setPrecision "z" (.integer 1)]
    w.next (.setPrecision "y" (.integer 0)) = w ∧
      v.Sets 1 (.setLastPlace "z" (.integer 4)) ∧
      (v.next (.setLastPlace "z" (.integer 4))).quantities[0]? = v.quantities[0]? ∧
      v.Sets 0 (.setLastPlace "y" (.integer 4)) ∧
      (v.next (.setLastPlace "y" (.integer 4))).quantities[1]? = v.quantities[1]? := by
  intro w v
  obtain ⟨-, faults, -, results⟩ := history_of_quantities w ⟨_, rfl⟩
  have one : w.quantities.length = 1 := by decide +kernel
  have copied : v.Sets 1 (.setLastPlace "z" (.integer 4)) := ⟨"z", rfl, by decide +kernel⟩
  have shared : v.Sets 0 (.setLastPlace "y" (.integer 4)) := ⟨"y", rfl, by decide +kernel⟩
  have refused : (w.perform (.setPrecision "y" (.integer 0))).1.isOk = false := by
    decide +kernel
  obtain ⟨fault, failed⟩ := Except.isOk_eq_false_iff.mp refused
  have unchanged := faults (.setPrecision "y" (.integer 0)) fault _ (Prod.ext failed rfl)
  have taken : (w.step (.copy "x" "z")).isOk = true := by decide +kernel
  obtain ⟨⟨answer, u⟩, done⟩ := Except.isOk_iff.mp taken
  obtain ⟨q, -, -, -, apart⟩ := results (.copy "x" "z") "z" answer u rfl done
  rw [one, ← next_of_step done] at apart
  have setter := apart 0 Nat.one_pos [.setPrecision "z" (.integer 1)]
  exact ⟨unchanged, copied, (setter (.setLastPlace "z" (.integer 4))).1 copied, shared,
    (setter (.setLastPlace "y" (.integer 4))).2 shared⟩

end Workspace

end SignificantFigures
