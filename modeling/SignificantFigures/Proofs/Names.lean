/-!
Values under names. One that is put under a name hides the older one of that name and no other.
-/

set_option autoImplicit false

namespace SignificantFigures

variable {α : Type}

theorem find?_put (entries : List (String × α)) (name other : String) (v : α) :
    (((name, v) :: entries.filter fun e => e.1 != name).find? fun e => e.1 == other).map (·.2) =
      if other = name then some v else (entries.find? fun e => e.1 == other).map (·.2) := by
  by_cases same : other = name
  · subst same
    simp
  · have behind : (entries.filter fun e => e.1 != name).find? (fun e => e.1 == other) =
        entries.find? fun e => e.1 == other := by
      rw [List.find?_filter]
      congr 1
      ext e
      by_cases found : e.1 = other
      · simp [found, same]
      · simp [found]
    have passed : (name == other) = false := beq_eq_false_iff_ne.mpr (Ne.symm same)
    rw [if_neg same, List.find?_cons, passed]
    exact congrArg (Option.map Prod.snd) behind

end SignificantFigures
