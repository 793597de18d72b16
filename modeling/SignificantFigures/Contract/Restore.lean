import SignificantFigures.Contract.Catalogue
import SignificantFigures.Quantity.Construction

/-!
Restoring a quantity from its document. The document has to keep the contract; the quantity is then
built by its last place, so that results with no significant figure are restored too.
-/

set_option autoImplicit false

namespace SignificantFigures.Contract

variable [PowersOfTen]

/-- Why a document gives no quantity. -/
inductive RestoreFault where
  /-- The document breaks the contract. -/
  | broken (violation : Violation)
  /-- The entries make no quantity. -/
  | refused (error : Quantity.Error)

/-- The quantity of the entries of a document that keeps the contract. -/
def quantityOfEntries (v : Value) : Except Quantity.Error Quantity :=
  let magnitude := (v.get? "magnitude").getD .null
  if isAmong [exactWord] ((v.get? "precision").getD .null) then Quantity.buildExact magnitude
  else Quantity.buildAtPlace magnitude ((v.get? "last_sig_place").getD .null)

def restore (v : Value) : Except RestoreFault Quantity :=
  match validate quantitySchema v with
  | .error violation => .error (.broken violation)
  | .ok () => (quantityOfEntries v).mapError .refused

end SignificantFigures.Contract
