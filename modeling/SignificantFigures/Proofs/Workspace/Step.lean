import SignificantFigures.Proofs.Except
import SignificantFigures.Proofs.Names
import SignificantFigures.Workspace.Step

/-!
What one step does with a workspace. Every step reads first and writes at its end: it fails or
answers without a change, stores a new quantity, gives a quantity one more name, or assigns to the
quantity that a setter call names.
-/

set_option autoImplicit false

namespace SignificantFigures.Workspace

variable {w : Workspace} {s : Step} {index : Nat}

section Names

variable {name other : String} {q : Quantity}

theorem index?_refer :
    (w.refer name index).index? other = if other = name then some index else w.index? other :=
  find?_put w.names name other index

theorem index?_add :
    (w.add name q).index? other =
      if other = name then some w.quantities.length else w.index? other :=
  index?_refer

end Names

namespace Step

/-- The name under which a step stores a new quantity. -/
def target? : Step → Option String
  | build target _ _ => some target
  | buildAtPlace target _ _ => some target
  | literal target _ => some target
  | restore target _ => some target
  | combine _ _ _ target => some target
  | copy _ target => some target
  | round _ target => some target
  | roundTrip _ target => some target
  | _ => none

/-- The name through which a setter call assigns to a quantity. -/
def subject? : Step → Option String
  | setPrecision source _ => some source
  | setLastPlace source _ => some source
  | _ => none

theorem target?_eq_none_of_subject? {source : String} (sets : s.subject? = some source) :
    s.target? = none := by
  cases s <;> first | rfl | exact nomatch sets

end Step

/-- What a step does, by its kind: what it answers and the workspace that it leaves. -/
inductive Effect (w : Workspace) (s : Step) : Except StepFault Answer × Workspace → Prop where
  | failed (fault : StepFault) : Effect w s (.error fault, w)
  | answered (answer : Answer) (stores : s.target? = none) (sets : s.subject? = none) :
      Effect w s (.ok answer, w)
  | stored {target : String} (q : Quantity) (stores : s.target? = some target) :
      Effect w s (.ok (.state q), w.add target q)
  | shared {source target : String} {index : Nat} {q : Quantity}
      (names : s = .alias source target) (refers : w.index? source = some index)
      (stands : w.quantities[index]? = some q) :
      Effect w s (.ok (.state q), w.refer target index)
  | assigned {source : String} {index : Nat} {q r : Quantity}
      (sets : s.subject? = some source) (refers : w.index? source = some index)
      (stands : w.quantities[index]? = some q) (magnitude : r.magnitude = q.magnitude) :
      Effect w s (.ok (.state r), w.change index r)

section Actions

variable {α β : Type} {x : Action α} {f : α → Action β}

theorem run_bind :
    (x >>= f).run.run w =
      match x.run.run w with
      | (.ok a, left) => (f a).run.run left
      | (.error fault, left) => (.error fault, left) := by
  show (match x.run.run w with | (result, left) => ExceptT.bindCont f result left) = _
  rcases x.run.run w with ⟨_ | _, _⟩ <;> rfl

/-- An action that leaves every workspace as it is, whether it has a result or fails. -/
def Reads (x : Action α) : Prop :=
  ∀ w, ∃ result, x.run.run w = (result, w)

theorem reads_pure (a : α) : Reads (pure a : Action α) :=
  fun _ => ⟨_, rfl⟩

theorem reads_of_except (result : Except StepFault α) : Reads (liftM result : Action α) :=
  fun _ => ⟨_, rfl⟩

theorem Reads.bind (first : Reads x) (rest : ∀ a, Reads (f a)) : Reads (x >>= f) := by
  intro w
  obtain ⟨result, same⟩ := first w
  rw [run_bind, same]
  cases result with
  | ok a => exact rest a w
  | error fault => exact ⟨_, rfl⟩

theorem find_eq_ok_iff {name : String} {q : Quantity} :
    w.find name = .ok (index, q) ↔ w.index? name = some index ∧ w.quantities[index]? = some q := by
  unfold find quantity?
  cases refers : w.index? name with
  | none => simp
  | some j =>
    cases stands : w.quantities[j]? with
    | none =>
      simp only [Option.bind_some, stands, Option.some.injEq]
      refine iff_of_false (fun found => nomatch found) ?_
      rintro ⟨rfl, found⟩
      exact nomatch stands.symm.trans found
    | some found =>
      simp only [Option.bind_some, stands, Except.ok.injEq, Prod.mk.injEq, Option.some.injEq]
      refine and_congr_right ?_
      rintro rfl
      rw [stands, Option.some.injEq]

theorem run_reference {name : String} : (reference name).run.run w = (w.find name, w) :=
  rfl

theorem run_lookUp {name : String} :
    (lookUp name).run.run w = ((w.find name).map Prod.snd, w) := by
  show (reference name >>= _).run.run w = _
  rw [run_bind, run_reference]
  cases w.find name <;> rfl

/-- A setter checks its value before it assigns. -/
theorem run_update {source : String} {set : Quantity → Except Quantity.Error Quantity} :
    (update source set).run.run w =
      match w.find source with
      | .error fault => (.error fault, w)
      | .ok (index, q) =>
        match set q with
        | .error e => (.error (.quantity e), w)
        | .ok r => (.ok (.state r), w.change index r) := by
  show (reference source >>= _).run.run w = _
  rw [run_bind, run_reference]
  cases w.find source with
  | error fault => rfl
  | ok found =>
    obtain ⟨index, q⟩ := found
    show ((liftM (ofQuantity (set q)) : Action Quantity) >>= _).run.run w = _
    rw [run_bind]
    dsimp only
    cases set q <;> rfl

theorem run_share {source target : String} :
    (share source target).run.run w =
      match w.find source with
      | .error fault => (.error fault, w)
      | .ok (index, q) => (.ok (.state q), w.refer target index) := by
  show (reference source >>= _).run.run w = _
  rw [run_bind, run_reference]
  cases w.find source <;> rfl

theorem reads_lookUp (name : String) : Reads (lookUp name) :=
  fun _ => ⟨_, run_lookUp⟩

theorem reads_operand (operand : Operand) : Reads (Workspace.operand operand) := by
  cases operand with
  | name name => exact (reads_lookUp name).bind fun q => reads_pure (Value.quantity q)
  | value v => exact reads_pure v

namespace Effect

/-- Reading first does not change what a step does. -/
theorem bind {f : α → Action Answer} (reads : Reads x)
    (rest : ∀ a, Effect w s ((f a).run.run w)) : Effect w s ((x >>= f).run.run w) := by
  obtain ⟨result, same⟩ := reads w
  rw [run_bind, same]
  cases result with
  | ok a => exact rest a
  | error fault => exact .failed fault

theorem update {source : String} {set : Quantity → Except Quantity.Error Quantity}
    (sets : s.subject? = some source)
    (magnitude : ∀ {q r}, set q = .ok r → r.magnitude = q.magnitude) :
    Effect w s ((Workspace.update source set).run.run w) := by
  rw [run_update]
  cases found : w.find source with
  | error fault => exact .failed fault
  | ok named =>
    obtain ⟨refers, stands⟩ := find_eq_ok_iff.mp found
    dsimp only
    cases changed : set named.2 with
    | error e => exact .failed _
    | ok r => exact .assigned sets refers stands (magnitude changed)

theorem share {source target : String} (names : s = .alias source target) :
    Effect w s ((Workspace.share source target).run.run w) := by
  rw [run_share]
  cases found : w.find source with
  | error fault => exact .failed fault
  | ok named =>
    obtain ⟨refers, stands⟩ := find_eq_ok_iff.mp found
    exact .shared names refers stands

end Effect

end Actions

theorem magnitude_of_withPrecision [PowersOfTen] {q r : Quantity} {precision : Value}
    (set : q.withPrecision precision = .ok r) : r.magnitude = q.magnitude := by
  obtain ⟨p, -, rfl⟩ := Except.map_eq_ok_iff.mp set
  rfl

theorem magnitude_of_withLastPlace [PowersOfTen] {q r : Quantity} {place : Value}
    (set : q.withLastPlace place = .ok r) : r.magnitude = q.magnitude := by
  obtain ⟨p, -, rfl⟩ := Except.map_eq_ok_iff.mp set
  rfl

/-- Every step has one of the effects. -/
theorem effect_perform [PowersOfTen] (w : Workspace) (s : Step) : Effect w s (w.perform s) := by
  show Effect w s ((action s).run.run w)
  cases s with
  | build target magnitude precision =>
    cases precision with
    | none => exact .bind (reads_of_except _) fun q => .stored q rfl
    | some precision => exact .bind (reads_of_except _) fun q => .stored q rfl
  | buildAtPlace target magnitude place => exact .bind (reads_of_except _) fun q => .stored q rfl
  | literal target text => exact .bind (reads_of_except _) fun q => .stored q rfl
  | restore target document => exact .bind (reads_of_except _) fun q => .stored q rfl
  | setPrecision source precision =>
    show Effect w _ ((update source fun q => q.withPrecision precision).run.run w)
    exact .update rfl magnitude_of_withPrecision
  | setLastPlace source place =>
    show Effect w _ ((update source fun q => q.withLastPlace place).run.run w)
    exact .update rfl magnitude_of_withLastPlace
  | setMagnitude source => exact .bind (reads_lookUp source) fun _ => .failed _
  | combine operation a b target =>
    exact .bind (reads_operand a) fun _ => .bind (reads_operand b) fun _ =>
      .bind (reads_of_except _) fun q => .stored q rfl
  | copy source target => exact .bind (reads_lookUp source) fun q => .stored q rfl
  | round source target =>
    exact .bind (reads_lookUp source) fun _ => .bind (reads_of_except _) fun q => .stored q rfl
  | «alias» source target =>
    show Effect w _ ((share source target).run.run w)
    exact .share rfl
  | get source => exact .bind (reads_lookUp source) fun _ => .answered _ rfl rfl
  | equal a b =>
    exact .bind (reads_operand a) fun _ => .bind (reads_operand b) fun _ => .answered _ rfl rfl
  | «show» source => exact .bind (reads_lookUp source) fun _ => .answered _ rfl rfl
  | display source style =>
    exact .bind (reads_lookUp source) fun _ => .bind (reads_of_except _) fun _ =>
      .answered _ rfl rfl
  | document source =>
    exact .bind (reads_lookUp source) fun _ => .bind (reads_of_except _) fun _ =>
      .answered _ rfl rfl
  | roundTrip source target =>
    exact .bind (reads_lookUp source) fun _ => .bind (reads_of_except _) fun _ =>
      .bind (reads_of_except _) fun q => .stored q rfl

/-- A setter call on the quantity at an index, through one of its names. -/
def Sets (w : Workspace) (index : Nat) (s : Step) : Prop :=
  ∃ source, s.subject? = some source ∧ w.index? source = some index

/-- Every name refers to a quantity that there is. -/
def Scoped (w : Workspace) : Prop :=
  ∀ name index, w.index? name = some index → index < w.quantities.length

namespace Effect

variable {outcome : Except StepFault Answer × Workspace} {i j : Nat} {q : Quantity}
  (effect : Effect w s outcome)

include effect

theorem eq_of_fault {fault : StepFault} (failed : outcome.1 = .error fault) : outcome.2 = w := by
  cases effect with
  | failed | answered => rfl
  | stored | shared | assigned => exact nomatch failed

theorem preserves_scoped (inside : w.Scoped) : outcome.2.Scoped := by
  intro name index found
  cases effect with
  | failed | answered => exact inside name index found
  | stored q =>
    show index < (w.quantities ++ [q]).length
    rw [index?_add] at found
    rw [List.length_append]
    split at found
    · rw [← Option.some.inj found]
      exact Nat.lt_succ_self _
    · exact Nat.lt_succ_of_lt (inside name index found)
  | shared names refers stands =>
    show index < w.quantities.length
    rw [index?_refer] at found
    split at found
    · rw [← Option.some.inj found]
      exact (List.getElem?_eq_some_iff.mp stands).1
    · exact inside name index found
  | assigned =>
    show index < (List.set _ _ _).length
    rw [List.length_set]
    exact inside name index found

/-- A step keeps every quantity and its magnitude, and its state too unless the step is a successful
setter call on it. -/
theorem exists_quantity (stands : w.quantities[i]? = some q) :
    ∃ r, outcome.2.quantities[i]? = some r ∧ r.magnitude = q.magnitude ∧
      (r = q ∨ w.Sets i s ∧ outcome.1 = .ok (.state r)) := by
  have before := (List.getElem?_eq_some_iff.mp stands).1
  cases effect with
  | failed | answered | shared => exact ⟨q, stands, rfl, Or.inl rfl⟩
  | stored => exact ⟨q, (List.getElem?_append_left before).trans stands, rfl, Or.inl rfl⟩
  | @assigned source index old r sets refers found magnitude =>
    by_cases same : index = i
    · subst same
      obtain rfl := Option.some.inj (stands.symm.trans found)
      exact ⟨r, List.getElem?_set_self before, magnitude, Or.inr ⟨⟨source, sets, refers⟩, rfl⟩⟩
    · exact ⟨q, (List.getElem?_set_ne same).trans stands, rfl, Or.inl rfl⟩

/-- A setter call on one quantity leaves every other as it is. -/
theorem of_sets (sets : w.Sets j s) (other : i ≠ j) :
    outcome.2.quantities[i]? = w.quantities[i]? := by
  obtain ⟨source, setter, subject⟩ := sets
  cases effect with
  | failed | answered | shared => rfl
  | stored q stores => exact nomatch (Step.target?_eq_none_of_subject? setter).symm.trans stores
  | @assigned source' index old r setter' refers =>
    obtain rfl := Option.some.inj (setter.symm.trans setter')
    obtain rfl := Option.some.inj (subject.symm.trans refers)
    exact List.getElem?_set_ne (Ne.symm other)

/-- A step that stores and does not fail adds one quantity, to which only its target refers. -/
theorem of_stores {target : String} {answer : Answer} (inside : w.Scoped)
    (stores : s.target? = some target) (done : outcome.1 = .ok answer) :
    ∃ q, answer = .state q ∧ outcome.2.quantities = w.quantities ++ [q] ∧
      ∀ name, outcome.2.index? name = some w.quantities.length ↔ name = target := by
  cases effect with
  | failed => exact nomatch done
  | answered _ none => exact nomatch none.symm.trans stores
  | @stored target' q stores' =>
    obtain rfl := Option.some.inj (stores.symm.trans stores')
    refine ⟨q, (Except.ok.inj done).symm, rfl, ?_⟩
    intro name
    rw [index?_add]
    by_cases same : name = target
    · simp [same]
    · rw [if_neg same]
      refine iff_of_false ?_ same
      intro found
      exact Nat.lt_irrefl _ (inside name _ found)
  | shared names =>
    subst names
    exact nomatch stores
  | assigned setter => exact nomatch (Step.target?_eq_none_of_subject? setter).symm.trans stores

end Effect

section Outcome

variable [PowersOfTen]

theorem step_eq_ok_iff {answer : Answer} {v : Workspace} :
    w.step s = .ok (answer, v) ↔ w.perform s = (.ok answer, v) := by
  unfold step
  rcases w.perform s with ⟨fault | result, left⟩ <;> simp [Except.map]

theorem next_of_step {answer : Answer} {v : Workspace} (done : w.step s = .ok (answer, v)) :
    w.next s = v := by
  unfold next
  rw [step_eq_ok_iff.mp done]

section Named

variable {source target : String} {q r : Quantity} (refers : w.index? source = some index)
  (stands : w.quantities[index]? = some q)

include refers stands

omit [PowersOfTen] in
private theorem perform_update (set : Quantity → Except Quantity.Error Quantity)
    (changed : set q = .ok r) :
    (update source set).run.run w = (.ok (.state r), w.change index r) := by
  rw [run_update, find_eq_ok_iff.mpr ⟨refers, stands⟩]
  dsimp only
  rw [changed]

/-- A precision that is one is taken, and the magnitude is kept. -/
theorem step_setPrecision {v : Value} {p : Precision} (valid : Quantity.precisionOf v = .ok p) :
    w.step (.setPrecision source v) =
      .ok (.state (.ofPrecision q.magnitude p), w.change index (.ofPrecision q.magnitude p)) := by
  apply step_eq_ok_iff.mpr
  have changed : q.withPrecision v = .ok (.ofPrecision q.magnitude p) := by
    rw [Quantity.withPrecision, valid]
    rfl
  exact perform_update refers stands (fun q => q.withPrecision v) changed

/-- A last place that is one is taken, and the magnitude is kept. -/
theorem step_setLastPlace {v : Value} {p : LastPlace} (valid : Quantity.lastPlaceOf v = .ok p) :
    w.step (.setLastPlace source v) =
      .ok (.state ⟨q.magnitude, p⟩, w.change index ⟨q.magnitude, p⟩) := by
  apply step_eq_ok_iff.mpr
  have changed : q.withLastPlace v = .ok ⟨q.magnitude, p⟩ := by
    rw [Quantity.withLastPlace, valid]
    rfl
  exact perform_update refers stands (fun q => q.withLastPlace v) changed

theorem step_copy : w.step (.copy source target) = .ok (.state q, w.add target q) := by
  apply step_eq_ok_iff.mpr
  show (lookUp source >>= store target).run.run w = _
  rw [run_bind, run_lookUp, find_eq_ok_iff.mpr ⟨refers, stands⟩]
  rfl

theorem step_alias : w.step (.alias source target) = .ok (.state q, w.refer target index) := by
  apply step_eq_ok_iff.mpr
  show (share source target).run.run w = _
  rw [run_share, find_eq_ok_iff.mpr ⟨refers, stands⟩]

end Named

end Outcome

theorem find_of_quantity? {name : String} {q : Quantity} (found : w.quantity? name = some q) :
    ∃ index, w.find name = .ok (index, q) := by
  obtain ⟨index, refers, stands⟩ := Option.bind_eq_some_iff.mp found
  exact ⟨index, find_eq_ok_iff.mpr ⟨refers, stands⟩⟩

/-- An operation on two quantities adds its result, or fails and leaves the workspace. -/
theorem perform_combine [PowersOfTen] {x y : String} {a b : Quantity} (operation : Quantity.Operation)
    (target : String) (left : w.quantity? x = some a) (right : w.quantity? y = some b) :
    w.perform (.combine operation (.name x) (.name y) target) =
      match operation.apply a b with
      | .ok r => (.ok (.state r), w.add target r)
      | .error e => (.error (.quantity e), w) := by
  obtain ⟨i, left⟩ := find_of_quantity? left
  obtain ⟨j, right⟩ := find_of_quantity? right
  have first : (operand (.name x)).run.run w = (.ok (.quantity a), w) := by
    show (lookUp x >>= _).run.run w = _
    rw [run_bind, run_lookUp, left]
    rfl
  have second : (operand (.name y)).run.run w = (.ok (.quantity b), w) := by
    show (lookUp y >>= _).run.run w = _
    rw [run_bind, run_lookUp, right]
    rfl
  show (operand (.name x) >>= _).run.run w = _
  rw [run_bind, first]
  show (operand (.name y) >>= _).run.run w = _
  rw [run_bind, second]
  show ((liftM (ofQuantity (operation.apply a b)) : Action Quantity) >>= store target).run.run w = _
  rw [run_bind]
  cases operation.apply a b <;> rfl

end SignificantFigures.Workspace
