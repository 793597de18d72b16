import SignificantFigures.Journal
import SignificantFigures.Workspace.Step

/-!
What the steps on a workspace note in the journal: every time a step displays a quantity.
-/

set_option autoImplicit false

namespace SignificantFigures.Workspace

variable [PowersOfTen]

/-- The quantities that a step displays, as often as it does. -/
def displayed (w : Workspace) : Step → List Quantity
  | .show source => ((w.quantity? source).map fun q => [q, q, q]).getD []
  | .display source _ => (w.quantity? source).toList
  | .document source => (w.quantity? source).toList
  | .roundTrip source _ => (w.quantity? source).toList
  | _ => []

def journal (w : Workspace) : List Step → List Journal.Entry
  | [] => []
  | s :: rest => (w.displayed s).flatMap Journal.ofDisplay ++ (w.next s).journal rest

end SignificantFigures.Workspace
