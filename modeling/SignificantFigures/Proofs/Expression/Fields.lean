import SignificantFigures.Proofs.Except
import SignificantFigures.Proofs.Expression.Token

/-!
The fields that a token is built from, whatever their order and whatever else is among them: one
field of each name, and a payload of the sort that the kind carries. Fields that build no token are
refused with errors that each name one of the four.
-/

set_option autoImplicit false

namespace SignificantFigures.Expression

theorem Kind.ofName?_eq_some_iff {name : String} {kind : Kind} :
    ofName? name = some kind ↔ name = kind.name := by
  constructor
  · intro found
    unfold ofName? at found
    have named := List.find?_some found
    exact (beq_iff_eq.mp named).symm
  · rintro rfl
    cases kind <;> decide

section Values

variable {v : Value}

theorem Field.kindOf_eq_ok_iff {kind : Kind} : kindOf v = .ok kind ↔ v = .string kind.name := by
  cases v with
  | string text =>
    rw [Value.string.injEq, ← Kind.ofName?_eq_some_iff]
    cases found : Kind.ofName? text <;> simp [kindOf, found]
  | _ => simp [kindOf]

theorem Field.positionOf_eq_ok_iff {position : Nat} :
    positionOf v = .ok position ↔ integerOf v = .ok (position : Int) := by
  unfold positionOf
  cases integerOf v with
  | error fault => simp
  | ok n =>
    by_cases negative : n < 0
    · have other : n ≠ position := by omega
      simp [negative, other]
    · have same : n.toNat = position ↔ n = position := by omega
      simp [negative, same]

theorem Field.textOf_eq_ok_iff {text : List Char} :
    textOf v = .ok text ↔ v = .string (String.ofList text) ∧ text ≠ [] := by
  cases v with
  | string characters =>
    rw [Value.string.injEq]
    by_cases void : characters = ""
    · subst void
      simp [textOf]
    · have filled : characters.isEmpty = false := by simpa using void
      have listed : characters.toList ≠ [] := by simpa using void
      rw [textOf, filled]
      constructor
      · intro taken
        obtain rfl := Except.ok.inj taken
        exact ⟨String.ofList_toList.symm, listed⟩
      · rintro ⟨rfl, -⟩
        exact congrArg Except.ok String.toList_ofList
  | _ => simp [textOf]

theorem Field.payloadOf_eq_ok_iff {payload : Payload} :
    payloadOf v = .ok payload ↔ v = payload.value := by
  cases payload with
  | quantity q => cases v <;> simp [payloadOf, Payload.value]
  | text characters =>
    cases v with
    | string text =>
      have same : text.toList = characters ↔ text = String.ofList characters := by
        rw [← String.toList_inj, String.toList_ofList]
      simp [payloadOf, Payload.value, same]
    | _ => simp [payloadOf, Payload.value]

theorem Field.fits_eq_ok_iff {kind : Kind} {payload taken : Payload} :
    fits kind payload = .ok taken ↔ payload = taken ∧ payload.Suits kind := by
  cases payload <;> by_cases quantity : kind = .quantity <;> simp [fits, Payload.Suits, quantity]

end Values

section Fields

variable {fields : List (String × Value)} {t : Token}

theorem Field.read_eq_ok_iff {α : Type} {name : String} {of : Value → Except (List FieldError) α}
    {a : α} : read fields name of = .ok a ↔ ∃ v, Value.entry? fields name = some v ∧ of v = .ok a := by
  unfold read
  cases Value.entry? fields name <;> simp

/-- The payload is read whatever the kind, and what is read has to fit a kind that is a good one. -/
theorem Token.payloadOfFields_eq_ok_iff {kind : Kind} {payload : Payload} :
    payloadOfFields fields (.ok kind) = .ok payload ↔
      Value.entry? fields "payload" = some payload.value ∧ payload.Suits kind := by
  show Field.read fields "payload" Field.payloadOf >>= Field.fits kind = _ ↔ _
  simp only [Except.bind_eq_ok_iff, Field.fits_eq_ok_iff, Field.read_eq_ok_iff,
    Field.payloadOf_eq_ok_iff]
  constructor
  · rintro ⟨_, ⟨_, entry, rfl⟩, rfl, suits⟩
    exact ⟨entry, suits⟩
  · rintro ⟨entry, suits⟩
    exact ⟨payload, ⟨_, entry, rfl⟩, rfl, suits⟩

theorem Token.ofFields_eq_ok_iff_reads : ofFields fields = .ok t ↔
    Field.read fields "kind" Field.kindOf = .ok t.kind ∧
    Field.read fields "position" Field.positionOf = .ok t.position ∧
    Field.read fields "text" Field.textOf = .ok t.text ∧
    payloadOfFields fields (.ok t.kind) = .ok t.payload := by
  obtain ⟨kind, position, text, payload⟩ := t
  unfold ofFields
  dsimp only
  constructor
  · intro built
    split at built
    · next readKind readPosition readText readPayload =>
      obtain ⟨rfl, rfl, rfl, rfl⟩ := Token.mk.injEq .. ▸ Except.ok.inj built
      exact ⟨readKind, readPosition, readText, readKind ▸ readPayload⟩
    · exact nomatch built
  · rintro ⟨readKind, readPosition, readText, readPayload⟩
    rw [readKind, readPosition, readText, readPayload]

/-- The fields of a token: the name of its kind, a value that is read as its position, its
characters, of which there are some, and a payload of the sort that the kind carries. -/
structure Token.BuiltFrom (t : Token) (fields : List (String × Value)) : Prop where
  kind : Value.entry? fields "kind" = some (.string t.kind.name)
  position : ∃ v, Value.entry? fields "position" = some v ∧
    Field.integerOf v = .ok (t.position : Int)
  text : Value.entry? fields "text" = some (.string (String.ofList t.text))
  nonempty : t.text ≠ []
  payload : Value.entry? fields "payload" = some t.payload.value
  suits : t.payload.Suits t.kind

theorem Token.ofFields_eq_ok_iff : ofFields fields = .ok t ↔ t.BuiltFrom fields := by
  simp only [ofFields_eq_ok_iff_reads, payloadOfFields_eq_ok_iff, Field.read_eq_ok_iff,
    Field.kindOf_eq_ok_iff, Field.positionOf_eq_ok_iff, Field.textOf_eq_ok_iff]
  constructor
  · rintro ⟨⟨_, kind, rfl⟩, position, ⟨_, text, rfl, nonempty⟩, payload, suits⟩
    exact ⟨kind, position, text, nonempty, payload, suits⟩
  · rintro ⟨kind, position, text, nonempty, payload, suits⟩
    exact ⟨⟨_, kind, rfl⟩, position, ⟨_, text, rfl, nonempty⟩, payload, suits⟩

/-- A token with characters and a payload that fits is built from its fields. -/
theorem Token.ofFields_fields [PowersOfTen] (nonempty : t.text ≠ []) (fits : t.Fits) :
    ofFields t.fields = .ok t :=
  ofFields_eq_ok_iff.mpr
    ⟨rfl, ⟨.integer t.position, rfl, rfl⟩, rfl, nonempty, rfl, fits.suits⟩

end Fields

section Errors

variable {fields : List (String × Value)} {name : String} {α : Type}

/-- What has no errors has a result, and every error is one of the field of the given name. -/
structure Field.Blames (name : String) (x : Except (List FieldError) α) : Prop where
  silent : errors x = [] → ∃ a, x = .ok a
  located : ∀ e ∈ errors x, e.location.head? = some name

theorem Field.blames_ok (a : α) : Blames name (.ok a) :=
  ⟨fun _ => ⟨a, rfl⟩, fun _ he => absurd he List.not_mem_nil⟩

theorem Field.blames_error {es : List FieldError} (nonempty : es ≠ [])
    (located : ∀ e ∈ es, e.location.head? = some name) :
    Blames name (.error es : Except (List FieldError) α) :=
  ⟨fun none => absurd none nonempty, located⟩

theorem Field.blames_fault (fault : FieldFault) :
    Blames name (.error [⟨[name], fault⟩] : Except (List FieldError) α) :=
  blames_error (List.cons_ne_nil _ _) (by simp)

section Values

variable (v : Value)

theorem Field.blames_kindOf : Blames "kind" (kindOf v) := by
  unfold kindOf
  split
  · split
    · exact blames_ok _
    · exact blames_fault _
  · exact blames_fault _

theorem Field.blames_positionOf : Blames "position" (positionOf v) := by
  unfold positionOf
  split
  · exact blames_fault _
  · split
    · exact blames_fault _
    · exact blames_ok _

theorem Field.blames_textOf : Blames "text" (textOf v) := by
  unfold textOf
  split
  · split
    · exact blames_fault _
    · exact blames_ok _
  · exact blames_fault _

theorem Field.blames_payloadOf : Blames "payload" (payloadOf v) := by
  unfold payloadOf
  split
  · exact blames_ok _
  · exact blames_ok _
  · exact blames_error (List.cons_ne_nil _ _) (by simp)

end Values

theorem Field.blames_fits (kind : Kind) (payload : Payload) :
    Blames "payload" (fits kind payload) := by
  unfold fits
  split <;> split
  · exact blames_ok _
  · exact blames_fault _
  · exact blames_fault _
  · exact blames_ok _

theorem Field.blames_read {of : Value → Except (List FieldError) α}
    (blames : ∀ v, Blames name (of v)) : Blames name (read fields name of) := by
  unfold read
  split
  · exact blames _
  · exact blames_fault _

theorem Field.blames_bind {β : Type} {x : Except (List FieldError) α}
    {f : α → Except (List FieldError) β} (first : Blames name x) (second : ∀ a, Blames name (f a)) :
    Blames name (x.bind f) := by
  cases x with
  | ok a => exact second a
  | error es =>
    refine blames_error (fun none => ?_) first.located
    obtain ⟨a, impossible⟩ := first.silent none
    exact nomatch impossible

theorem Token.blames_payloadOfFields (kind : Except (List FieldError) Kind) :
    Field.Blames "payload" (payloadOfFields fields kind) := by
  have given : Field.Blames "payload" (Field.read fields "payload" Field.payloadOf) :=
    Field.blames_read Field.blames_payloadOf
  cases kind with
  | error es => exact given
  | ok kind => exact Field.blames_bind given (Field.blames_fits kind)

theorem Token.errors_of_refused {es : List FieldError} (refused : ofFields fields = .error es) :
    es = Field.errors (Field.read fields "kind" Field.kindOf) ++
      Field.errors (Field.read fields "position" Field.positionOf) ++
      Field.errors (Field.read fields "text" Field.textOf) ++
      Field.errors (payloadOfFields fields (Field.read fields "kind" Field.kindOf)) := by
  unfold ofFields at refused
  dsimp only at refused
  split at refused
  · exact nomatch refused
  · exact (Except.error.inj refused).symm

theorem Token.blames_kindField : Field.Blames "kind" (Field.read fields "kind" Field.kindOf) :=
  Field.blames_read Field.blames_kindOf

theorem Token.blames_positionField :
    Field.Blames "position" (Field.read fields "position" Field.positionOf) :=
  Field.blames_read Field.blames_positionOf

theorem Token.blames_textField : Field.Blames "text" (Field.read fields "text" Field.textOf) :=
  Field.blames_read Field.blames_textOf

/-- Fields that build no token have an error, and every error is one of the four fields. -/
theorem Token.blames_of_refused {es : List FieldError} (refused : ofFields fields = .error es) :
    es ≠ [] ∧ ∀ e ∈ es, ∃ name ∈ ["kind", "position", "text", "payload"],
      e.location.head? = some name := by
  have combined := errors_of_refused refused
  constructor
  · rintro rfl
    obtain ⟨⟨⟨noKind, noPosition⟩, noText⟩, noPayload⟩ := by
      simpa only [List.nil_eq, List.append_eq_nil_iff] using combined
    obtain ⟨kind, readKind⟩ := blames_kindField.silent noKind
    obtain ⟨position, readPosition⟩ := blames_positionField.silent noPosition
    obtain ⟨text, readText⟩ := blames_textField.silent noText
    obtain ⟨payload, readPayload⟩ := (blames_payloadOfFields _).silent noPayload
    have built : ofFields fields = .ok ⟨kind, position, text, payload⟩ :=
      ofFields_eq_ok_iff_reads.mpr ⟨readKind, readPosition, readText, readKind ▸ readPayload⟩
    exact nomatch built.symm.trans refused
  · intro e he
    rw [combined] at he
    simp only [List.mem_append] at he
    rcases he with ((he | he) | he) | he
    · exact ⟨"kind", by simp, blames_kindField.located e he⟩
    · exact ⟨"position", by simp, blames_positionField.located e he⟩
    · exact ⟨"text", by simp, blames_textField.located e he⟩
    · exact ⟨"payload", by simp, (blames_payloadOfFields _).located e he⟩

/-- Where the kind is no good one, a payload of either sort is let pass. -/
theorem Token.payload_let_pass {es : List FieldError} {payload : Payload}
    (refused : ofFields fields = .error es)
    (noKind : ∀ kind : Kind, Value.entry? fields "kind" ≠ some (.string kind.name))
    (given : Value.entry? fields "payload" = some payload.value) :
    ∀ e ∈ es, e.location.head? ≠ some "payload" := by
  have taken : Field.read fields "payload" Field.payloadOf = .ok payload :=
    Field.read_eq_ok_iff.mpr ⟨_, given, Field.payloadOf_eq_ok_iff.mpr rfl⟩
  have silent :
      Field.errors (payloadOfFields fields (Field.read fields "kind" Field.kindOf)) = [] := by
    cases kind : Field.read fields "kind" Field.kindOf with
    | ok k =>
      obtain ⟨v, entry, named⟩ := Field.read_eq_ok_iff.mp kind
      exact absurd (Field.kindOf_eq_ok_iff.mp named ▸ entry) (noKind k)
    | error es => exact congrArg Field.errors taken
  intro e he
  rw [errors_of_refused refused, silent, List.append_nil] at he
  simp only [List.mem_append] at he
  rcases he with (he | he) | he
  · rw [blames_kindField.located e he]
    decide
  · rw [blames_positionField.located e he]
    decide
  · rw [blames_textField.located e he]
    decide

end Errors

end SignificantFigures.Expression
