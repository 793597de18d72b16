import SignificantFigures.Quantity.Basic

/-!
A workspace: quantities under names. A name refers to a quantity rather than holding it, so two
names can share one, and changing it through one name changes it for the other.
-/

set_option autoImplicit false

namespace SignificantFigures

/-- Quantities, and the names that refer to them by index. -/
structure Workspace where
  quantities : List Quantity
  names : List (String × Nat)

namespace Workspace

def empty : Workspace :=
  ⟨[], []⟩

def index? (w : Workspace) (name : String) : Option Nat :=
  (w.names.find? fun e => e.1 == name).map (·.2)

def quantity? (w : Workspace) (name : String) : Option Quantity :=
  (w.index? name).bind fun index => w.quantities[index]?

/-- Lets a name refer to an index. -/
def refer (w : Workspace) (name : String) (index : Nat) : Workspace :=
  { w with names := (name, index) :: w.names.filter fun e => e.1 != name }

def add (w : Workspace) (name : String) (q : Quantity) : Workspace :=
  ({ w with quantities := w.quantities ++ [q] } : Workspace).refer name w.quantities.length

/-- Changes the quantity at an index, for all names that refer to it. -/
def change (w : Workspace) (index : Nat) (q : Quantity) : Workspace :=
  { w with quantities := w.quantities.set index q }

end Workspace

end SignificantFigures
