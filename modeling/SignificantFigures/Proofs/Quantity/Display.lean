import SignificantFigures.Proofs.Double.DecadeMantissa
import SignificantFigures.Proofs.Except
import SignificantFigures.Proofs.Quantity.Rounding

/-!
The display of a quantity that rounding does not change: its positional text in the form that the
layout gives it, or the scientific text in its place.
-/

set_option autoImplicit false

namespace SignificantFigures.Quantity

/-- Digits keep a character when the point is put among them. -/
private theorem pointed_ne_nil {digits : List Char} (nonempty : digits ≠ []) (places : Nat) :
    Decimal.pointed digits places ≠ [] := by
  unfold Decimal.pointed
  split
  · exact nonempty
  · simp

private theorem fixedText_ne_nil (x : Double.Finite) (places : Nat) : x.fixedText places ≠ [] := by
  have digits (units zeros : Nat) :
      Nat.toDigits 10 units ++ List.replicate zeros '0' ≠ [] := by
    simp [Nat.toDigits_ne_nil]
  unfold Double.Finite.fixedText signed
  split
  · simp
  · exact pointed_ne_nil (digits _ _) places

private theorem render_ne_nil (style : ExponentStyle) (exponent : Int) :
    style.render exponent ≠ [] := by
  cases style with
  | letter => exact List.cons_ne_nil _ _
  | superscript =>
    intro empty
    exact nomatch (List.append_eq_nil_iff.mp (List.append_eq_nil_iff.mp empty).1).1

variable [PowersOfTen] {magnitude : Double.Finite} {place : Int}

theorem display_exact (magnitude : Double.Finite) (style : ExponentStyle) :
    (⟨magnitude, .exact⟩ : Quantity).display style =
      .ok ((Double.finite magnitude).plainText ++ [Numeral.exactMark]) :=
  rfl

private theorem layout_eq
    (kept : (⟨magnitude, .place place⟩ : Quantity).rounded = .ok ⟨magnitude, .place place⟩) :
    layout ⟨magnitude, .place place⟩ =
      .ok (layoutOf ⟨magnitude, .place place⟩ (magnitude.fixedText (-place).toNat)) := by
  have text : positional ⟨magnitude, .place place⟩ = .ok (magnitude.fixedText (-place).toNat) := by
    unfold positional
    dsimp only
    rw [kept]
    rfl
  unfold layout
  rw [kept]
  show (positional _).map _ = _
  rw [text]
  rfl

/-- The text of a quantity that is rounded already, by the layout of its positional text. -/
theorem display_of_rounded_eq
    (kept : (⟨magnitude, .place place⟩ : Quantity).rounded = .ok ⟨magnitude, .place place⟩)
    (style : ExponentStyle) :
    display ⟨magnitude, .place place⟩ style =
      match layoutOf ⟨magnitude, .place place⟩ (magnitude.fixedText (-place).toNat) with
      | .exact text => .ok (text ++ [Numeral.exactMark])
      | .plain text => .ok text
      | .pointed text => .ok (text ++ ['.'])
      | .ambiguous _ => scientific ⟨magnitude, .place place⟩ style := by
  unfold display
  rw [layout_eq kept]
  show (match layoutOf _ _ with
    | .exact text => _
    | .plain text => _
    | .pointed text => _
    | .ambiguous _ => rounded _ >>= _) = _
  rw [kept]
  rfl

/-- With figures the scientific text is that of the rounded magnitude and its mantissa. -/
theorem scientific_eq_bind {q : Quantity} {style : ExponentStyle} {count : Int}
    (figures : q.precision = .figures count) (least : 1 ≤ count)
    (nonzero : q.magnitude.isZero = false) :
    q.scientific style = q.rounded >>= fun r =>
      r.magnitude.mantissa r.magnitude.decade >>= fun m =>
        .ok (m.fixedText (count - 1).toNat ++ style.render r.magnitude.decade) := by
  rw [scientific, nonzero, if_neg Bool.false_ne_true, figures]
  dsimp only
  rw [if_neg (not_lt.mpr least)]

private theorem scientific_ne_nil {q : Quantity} {style : ExponentStyle} {text : List Char}
    (shown : q.scientific style = .ok text) : text ≠ [] := by
  have filled (front : List Char) (exponent : Int) : front ++ style.render exponent ≠ [] := by
    simp [render_ne_nil]
  unfold scientific at shown
  split at shown
  · cases shown
    simp
  · split at shown
    · obtain ⟨m, -, rfl⟩ := Except.map_eq_ok_iff.mp shown
      exact filled _ _
    · split at shown
      · cases shown
        simp
      · obtain ⟨r, -, shown⟩ := Except.bind_eq_ok_iff.mp shown
        obtain ⟨m, -, shown⟩ := Except.bind_eq_ok_iff.mp shown
        obtain rfl := Except.ok.inj shown
        exact filled _ _

private theorem layoutOf_eq_plain {q : Quantity} {text shown : List Char}
    (h : q.layoutOf text = .plain shown) :
    shown = text ∧ ∃ place, q.lastPlace = .place place := by
  unfold layoutOf at h
  cases place_eq : q.lastPlace with
  | exact =>
    rw [place_eq] at h
    exact nomatch h
  | place place =>
    rw [place_eq] at h
    refine ⟨?_, place, rfl⟩
    dsimp only at h
    split_ifs at h <;> exact (Layout.plain.inj h).symm

private theorem positional_ne_nil {q : Quantity} {text : List Char} {place : Int}
    (place_eq : q.lastPlace = .place place) (written : q.positional = .ok text) : text ≠ [] := by
  unfold positional at written
  rw [place_eq] at written
  obtain ⟨r, -, rfl⟩ := Except.map_eq_ok_iff.mp written
  exact fixedText_ne_nil r.magnitude _

/-- A displayed text is never empty. -/
theorem display_ne_nil {q : Quantity} {style : ExponentStyle} {text : List Char}
    (shown : q.display style = .ok text) : text ≠ [] := by
  obtain ⟨form, laid, shown⟩ := Except.bind_eq_ok_iff.mp shown
  obtain ⟨r, -, laid⟩ := Except.bind_eq_ok_iff.mp laid
  obtain ⟨body, written, rfl⟩ := Except.map_eq_ok_iff.mp laid
  cases form_eq : r.layoutOf body with
  | exact marked =>
    rw [form_eq] at shown
    obtain rfl := Except.ok.inj shown
    simp
  | pointed units =>
    rw [form_eq] at shown
    obtain rfl := Except.ok.inj shown
    simp
  | ambiguous _ =>
    rw [form_eq] at shown
    obtain ⟨r, -, shown⟩ := Except.bind_eq_ok_iff.mp shown
    exact scientific_ne_nil shown
  | plain digits =>
    rw [form_eq] at shown
    obtain rfl := Except.ok.inj shown
    obtain ⟨rfl, place, place_eq⟩ := layoutOf_eq_plain form_eq
    exact positional_ne_nil place_eq written

section Total

variable {q r : Quantity}

private theorem exists_positional (kept : r.rounded = .ok r) :
    ∃ text, r.positional = .ok text := by
  unfold positional
  cases r.lastPlace with
  | exact => exact ⟨_, rfl⟩
  | place place =>
    dsimp only
    rw [kept]
    exact ⟨_, rfl⟩

variable [PowersOfTen.Close]

/-- A nonzero magnitude has a mantissa in its decade, so the scientific text of a quantity that is
rounded already is always there. -/
private theorem exists_scientific (kept : r.rounded = .ok r) (style : ExponentStyle) :
    ∃ text, r.scientific style = .ok text := by
  unfold scientific
  cases zero : r.magnitude.isZero with
  | true => exact ⟨_, if_pos rfl⟩
  | false =>
    rw [if_neg Bool.false_ne_true]
    obtain ⟨m, mantissa⟩ :=
      Double.Finite.exists_mantissa_decade (Double.Finite.isZero_eq_false_iff.mp zero)
    cases r.precision with
    | exact =>
      dsimp only
      rw [mantissa]
      exact ⟨_, rfl⟩
    | figures count =>
      dsimp only
      by_cases none : count < 1
      · exact ⟨_, if_pos none⟩
      · rw [if_neg none, kept]
        refine ⟨(Double.finite m).fixedText (count - 1).toNat ++
          style.render r.magnitude.decade, ?_⟩
        show (r.magnitude.mantissa r.magnitude.decade >>= _) = _
        rw [mantissa]
        rfl

/-- A quantity that can be rounded has a displayed text. -/
theorem exists_display (rounded : q.rounded = .ok r) (style : ExponentStyle) :
    ∃ text, q.display style = .ok text := by
  have kept := rounded_rounded rounded
  obtain ⟨body, written⟩ := exists_positional kept
  have laid : q.layout = .ok (r.layoutOf body) :=
    Except.bind_eq_ok_iff.mpr ⟨r, rounded, by rw [written]; rfl⟩
  cases form : r.layoutOf body with
  | exact text => exact ⟨_, Except.bind_eq_ok_iff.mpr ⟨_, laid, by rw [form]⟩⟩
  | plain text => exact ⟨_, Except.bind_eq_ok_iff.mpr ⟨_, laid, by rw [form]⟩⟩
  | pointed text => exact ⟨_, Except.bind_eq_ok_iff.mpr ⟨_, laid, by rw [form]⟩⟩
  | ambiguous text =>
    obtain ⟨text, shown⟩ := exists_scientific kept style
    refine ⟨text, Except.bind_eq_ok_iff.mpr ⟨_, laid, ?_⟩⟩
    rw [form]
    exact Except.bind_eq_ok_iff.mpr ⟨r, rounded, shown⟩

end Total

end SignificantFigures.Quantity
