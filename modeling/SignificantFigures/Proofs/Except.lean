import Mathlib.Data.List.Forall2

/-!
Results that are not errors: what a mapped or chained computation with a result consists of.
-/

set_option autoImplicit false

namespace Except

variable {ε α β : Type}

/-- Two computations that end alike: with results of which one relation holds, or with errors of
which another does. -/
inductive Alike (errors : ε → ε → Prop) (results : α → α → Prop) :
    Except ε α → Except ε α → Prop
  | ok {a b : α} (related : results a b) : Alike errors results (.ok a) (.ok b)
  | error {e f : ε} (related : errors e f) : Alike errors results (.error e) (.error f)

theorem Alike.refl {errors : ε → ε → Prop} {results : α → α → Prop} (reflErrors : ∀ e, errors e e)
    (reflResults : ∀ a, results a a) (x : Except ε α) : Alike errors results x x := by
  cases x with
  | ok a => exact .ok (reflResults a)
  | error e => exact .error (reflErrors e)

theorem map_eq_ok_iff {x : Except ε α} {f : α → β} {b : β} :
    x.map f = .ok b ↔ ∃ a, x = .ok a ∧ f a = b := by
  cases x <;> simp [Except.map]

theorem bind_eq_ok_iff {x : Except ε α} {f : α → Except ε β} {b : β} :
    x >>= f = .ok b ↔ ∃ a, x = .ok a ∧ f a = .ok b := by
  cases x <;> simp [bind, Except.bind]

theorem isOk_iff {x : Except ε α} : x.isOk = true ↔ ∃ a, x = .ok a := by
  cases x <;> simp [Except.isOk, Except.toBool]

theorem isOk_eq_false_iff {x : Except ε α} : x.isOk = false ↔ ∃ e, x = .error e := by
  cases x <;> simp [Except.isOk, Except.toBool]

/-- A computation that has a result on every element of a list has one on the list. -/
theorem exists_mapM_eq_ok {f : α → Except ε β} {xs : List α} (all : ∀ x ∈ xs, ∃ y, f x = .ok y) :
    ∃ ys, xs.mapM f = .ok ys ∧ List.Forall₂ (fun x y => f x = .ok y) xs ys := by
  induction xs with
  | nil => exact ⟨[], rfl, .nil⟩
  | cons x xs ih =>
    obtain ⟨y, first⟩ := all x List.mem_cons_self
    obtain ⟨ys, rest, each⟩ := ih fun x hx => all x (List.mem_cons_of_mem _ hx)
    refine ⟨y :: ys, ?_, .cons first each⟩
    rw [List.mapM_cons, first]
    show (xs.mapM f >>= _) = _
    rw [rest]
    rfl

end Except
