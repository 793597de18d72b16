import Mathlib.Data.List.Forall2
import SignificantFigures.Contract.Lexed
import SignificantFigures.Proofs.Contract.RoundTrip
import SignificantFigures.Proofs.Expression.Literal
import SignificantFigures.Proofs.Expression.Token

/-!
The tokens of an expression have documents, and these are accepted as a stream: every quantity can be
displayed, its document and that of its token keep their contracts, and no token starts before the
one in front of it ends.
-/

set_option autoImplicit false

namespace SignificantFigures

namespace Expression

variable [PowersOfTen] {f : QuantityForm} {q : Quantity}

/-- The last place of a literal lies below the decade of its magnitude by at most as many places as
it has characters. -/
private theorem lastPlace_of_literal (wf : f.WellFormed)
    (read : Quantity.ofLiteral? f.text = some q) :
    q.lastPlace = .exact ∨ ∃ count : Nat, count ≤ f.text.length ∧
      q.lastPlace = .place (q.magnitude.decade - count + 1) := by
  have filled : ¬ f.Void := by
    rw [← QuantityForm.ofLiteral?_text_eq_none_iff wf, read]
    exact Option.some_ne_none q
  obtain ⟨_, read', -, exact, figures⟩ := QuantityForm.exists_ofLiteral?_text wf filled
  obtain rfl := Option.some.inj (read.symm.trans read')
  cases marked : f.marked with
  | true => exact Or.inl (beq_iff_eq.mp (exact.mpr marked))
  | false =>
    have length : f.mantissa.text.length ≤ f.text.length := by
      simp [QuantityForm.text]
    refine Or.inr ⟨_, f.mantissa.length_figures_le.trans length, ?_⟩
    rw [← Quantity.ofPrecision_precision q, figures marked]
    rfl

/-- The last place of a literal of up to a million characters is one that numbers can be rounded at.
-/
theorem exists_rounded_of_literal [PowersOfTen.Close] (wf : f.WellFormed)
    (short : f.text.length ≤ 1000000)
    (read : Quantity.ofLiteral? f.text = some q) : ∃ r, q.rounded = .ok r := by
  have low := q.magnitude.neg_324_le_decade
  have high := q.magnitude.decade_le
  unfold Quantity.rounded
  rcases lastPlace_of_literal wf read with exact | ⟨count, bound, place⟩
  · rw [exact]
    exact ⟨q, rfl⟩
  · rw [place]
    have range : Decimal.checkPlace (q.magnitude.decade - count + 1) = .ok () := by
      rw [Decimal.checkPlace_eq_ok_iff]
      simp only [Decimal.shiftLimit, Decimal.leadingLimit, Decimal.digitLimit]
      omega
    dsimp only
    rw [range]
    exact ⟨_, rfl⟩

end Expression

namespace Contract

open Expression

section Documents

variable [PowersOfTen] {t : Token}

section Token

variable {v : Value} (nonempty : t.text ≠ []) (suits : t.payload.Suits t.kind)
  (documented : t.document = .ok v)

include nonempty suits documented

/-- The document of a token with characters and a payload of its kind keeps the contract of tokens,
and has a quantity just for that kind. -/
theorem accepts_document_token : accepts tokenSchema v = true ∧
    ((v.get? "quantity").isSome = true ↔ t.kind = .quantity) := by
  obtain ⟨entries, payload, rfl⟩ := Except.map_eq_ok_iff.mp documented
  have low : isBelow 0 (.integer (t.position : Int)) = false := by simp [isBelow]
  cases stands : t.payload with
  | text characters =>
    rw [stands] at suits payload
    obtain rfl := Except.ok.inj payload
    have absent : t.kind ≠ .quantity := suits
    refine ⟨(accepts_token_iff rfl rfl rfl).mpr
      ⟨rfl, rfl, low, ⟨_, rfl, ofList_ne_empty nonempty⟩, t.kind, rfl, absent⟩, ?_⟩
    exact iff_of_false Bool.false_ne_true absent
  | quantity q =>
    rw [stands] at suits payload
    obtain ⟨d, written, rfl⟩ := Except.map_eq_ok_iff.mp payload
    refine ⟨(accepts_token_iff rfl rfl rfl).mpr
      ⟨rfl, rfl, low, ⟨_, rfl, ofList_ne_empty nonempty⟩, t.kind, rfl, suits,
        accepts_document written⟩, ?_⟩
    exact iff_of_true rfl suits

/-- It spans the characters of the token. -/
theorem spanOf_document : spanOf v = .ok ⟨.integer t.position, t.text.length⟩ := by
  have accepted := (accepts_document_token nonempty suits documented).1
  obtain ⟨entries, -, rfl⟩ := Except.map_eq_ok_iff.mp documented
  have span : Span.ofValue? (.object ([("kind", .string t.kind.name),
      ("position", .integer t.position), ("text", .string (String.ofList t.text))] ++ entries)) =
      some ⟨.integer t.position, (String.ofList t.text).length⟩ := rfl
  rw [spanOf, accepts_iff.mp accepted, span, String.length_ofList]

end Token

/-- The documents of adjoining tokens are accepted from the position on that the first one has. -/
theorem checkElements_documents {position : Nat} {tokens : List Token} {documents : List Value}
    (adjoin : Adjoin position tokens) (fits : ∀ t ∈ tokens, t.Fits)
    (documented : List.Forall₂ (fun t v => t.document = .ok v) tokens documents) (index : Nat) :
    checkElements index (.integer position) documents = .ok () := by
  induction documented generalizing position index with
  | nil => rfl
  | @cons t v tokens documents first rest ih =>
    obtain ⟨start, nonempty, behind⟩ := adjoin
    have later := ih behind (fun u hu => fits u (List.mem_cons_of_mem t hu)) (index + 1)
    rw [checkElements, spanOf_document nonempty (fits t List.mem_cons_self).suits first]
    have ordered : ¬ (Offset.integer t.position).value < (Offset.integer position).value := by
      rw [start]
      exact lt_irrefl _
    dsimp only
    rw [if_neg ordered]
    exact later

/-- A token of a text of up to a million characters has a document. -/
theorem exists_document [PowersOfTen.Close] {expression : List Char}
    (short : expression.length ≤ 1000000) (ht : t ∈ (scan 0 expression).1) : ∃ v, t.document = .ok v := by
  obtain ⟨-, taken, stands⟩ := lexeme?_of_mem_scan ht
  have fits := Token.fits_of_payload? stands
  unfold Token.Fits at fits
  cases payload : t.payload with
  | text characters => exact ⟨_, by rw [Token.document, payload]; rfl⟩
  | quantity q =>
    rw [payload] at fits
    obtain ⟨kind, read⟩ := fits
    rw [kind] at taken
    obtain ⟨-, rest, cut⟩ := lexeme?_append taken
    have length : t.text.length ≤ 1000000 := by
      have := congrArg List.length cut
      rw [List.length_append, List.length_drop] at this
      omega
    obtain ⟨f, wf, text⟩ := exists_form_of_lexeme? (lexeme?_eq_some_iff.mp taken)
    rw [← text] at read length
    obtain ⟨r, rounded⟩ := exists_rounded_of_literal wf length read
    obtain ⟨shown, display⟩ := Quantity.exists_display rounded .letter
    exact ⟨_, by rw [Token.document, payload, Token.payloadEntries, Quantity.document, display]; rfl⟩

/-- The tokens of an expression of up to a million characters that is cut to its end have documents,
and these are accepted as a stream. -/
theorem stream_of_expression [PowersOfTen.Close] (expression : List Char) (tokens : List Token)
    (short : expression.length ≤ 1000000) (cut : tokens? expression = .ok tokens) :
    ∃ items, List.Forall₂ (fun t v => t.document = .ok v) tokens items ∧
      documents tokens = .ok items ∧ checkStream (.list items) = .ok () := by
  have scanned : (scan 0 expression).1 = tokens := by
    unfold tokens? at cut
    split at cut
    · next found =>
      rw [found]
      exact Except.ok.inj cut
    · exact nomatch cut
  have each : ∀ t ∈ tokens, ∃ v, t.document = .ok v := fun t ht =>
    exists_document short (scanned ▸ ht)
  obtain ⟨items, mapped, documented⟩ := Except.exists_mapM_eq_ok each
  refine ⟨items, documented, mapped, ?_⟩
  have adjoin := (scan_spec 0 expression).1
  rw [scanned] at adjoin
  have fits : ∀ t ∈ tokens, t.Fits := fun t ht =>
    Token.fits_of_payload? (lexeme?_of_mem_scan (scanned ▸ ht)).2.2
  exact checkElements_documents adjoin fits documented 0

end Documents

/-- The text `1200e2 - (0.05c)`, all of whose characters are cut into tokens. -/
theorem stream_of_expression_in_parentheses :
    ∃ tokens, tokens? "1200e2 - (0.05c)".toList = .ok tokens ∧ ∃ items,
      List.Forall₂ (fun t v => t.document = .ok v) tokens items ∧
        documents tokens = .ok items ∧ checkStream (.list items) = .ok () := by
  have reads : (tokens? "1200e2 - (0.05c)".toList).isOk = true := by decide +kernel
  obtain ⟨tokens, cut⟩ := Except.isOk_iff.mp reads
  exact ⟨tokens, cut, stream_of_expression _ tokens (by decide) cut⟩

end Contract

end SignificantFigures
