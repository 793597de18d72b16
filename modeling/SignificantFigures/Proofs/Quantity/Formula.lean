import Mathlib.Algebra.Order.Group.Int
import Mathlib.Data.Int.ConditionallyCompleteOrder
import Mathlib.Order.Bounds.Lattice
import Mathlib.Order.ConditionallyCompleteLattice.Basic
import Mathlib.Order.WithBot
import SignificantFigures.Proofs.Except
import SignificantFigures.Quantity.Arithmetic

/-!
The significance of a result of arithmetic. Through any number of products and quotients the lowest
precision of the operands is kept, through sums and differences the coarsest last place, whatever
happens to the magnitude on the way; and only exact operands make an exact result.
-/

set_option autoImplicit false

namespace SignificantFigures

/-- A precision as a number, with no bound for an exact one. -/
def Precision.bound : Precision → WithTop Int
  | exact => ⊤
  | figures count => (count : WithTop Int)

/-- A last place as a number; that of an exact quantity lies below all others. -/
def LastPlace.bound : LastPlace → WithBot Int
  | exact => ⊥
  | place exponent => (exponent : WithBot Int)

theorem Precision.bound_lower (a b : Precision) : (a.lower b).bound = min a.bound b.bound := by
  cases a with
  | exact => simp [lower, bound]
  | figures m =>
    cases b with
    | exact => simp [lower, bound]
    | figures n => exact WithTop.coe_min m n

theorem LastPlace.bound_coarser (a b : LastPlace) :
    (a.coarser b).bound = max a.bound b.bound := by
  cases a with
  | exact => simp [coarser, bound]
  | place m =>
    cases b with
    | exact => simp [coarser, bound]
    | place n => exact WithBot.coe_max m n

namespace Quantity

theorem isExact_iff {q : Quantity} : q.isExact = true ↔ q.lastPlace = .exact :=
  beq_iff_eq

namespace Operation

/-- A product or a quotient. -/
def IsProduct (operation : Operation) : Prop :=
  operation = multiply ∨ operation = divide

/-- A sum or a difference. -/
def IsSum (operation : Operation) : Prop :=
  operation = add ∨ operation = subtract

theorem isSum_or_isProduct (operation : Operation) : operation.IsSum ∨ operation.IsProduct := by
  cases operation <;> simp [IsSum, IsProduct]

end Operation

section Apply

variable {a b r : Quantity} {operation : Operation}

private theorem lastPlace_of_atPlace {result : Double} {place : LastPlace}
    (built : atPlace result place = .ok r) : r.lastPlace = place := by
  obtain ⟨magnitude, -, rfl⟩ := Except.map_eq_ok_iff.mp built
  rfl

variable [PowersOfTen]

private theorem precision_of_atPrecision {result : Double} {precision : Precision}
    (built : atPrecision result precision = .ok r) : r.precision = precision := by
  unfold atPrecision at built
  split at built
  · next magnitude =>
    obtain rfl := Except.ok.inj built
    exact precision_ofPrecision magnitude precision
  · exact nomatch built
  · split at built <;> exact nomatch built

theorem lastPlace_apply (sum : operation.IsSum) (applied : operation.apply a b = .ok r) :
    r.lastPlace = a.lastPlace.coarser b.lastPlace := by
  rcases sum with rfl | rfl <;> exact lastPlace_of_atPlace applied

theorem precision_apply (product : operation.IsProduct) (applied : operation.apply a b = .ok r) :
    r.precision = a.precision.lower b.precision := by
  rcases product with rfl | rfl
  · exact precision_of_atPrecision applied
  · have divided : divide a b = .ok r := applied
    unfold divide at divided
    split at divided
    · exact nomatch divided
    · exact precision_of_atPrecision divided

theorem isExact_apply (applied : operation.apply a b = .ok r) :
    r.isExact = true ↔ a.isExact = true ∧ b.isExact = true := by
  simp only [isExact_iff]
  rcases operation.isSum_or_isProduct with sum | product
  · rw [lastPlace_apply sum applied, LastPlace.coarser_eq_exact]
  · rw [← precision_eq_exact, precision_apply product applied, Precision.lower_eq_exact,
      precision_eq_exact, precision_eq_exact]

end Apply

/-- An arithmetic expression over quantities. -/
inductive Formula where
  | leaf (q : Quantity)
  | combine (operation : Operation) (left right : Formula)

namespace Formula

/-- The result of a formula, its operands from left to right. -/
def eval [PowersOfTen] : Formula → Except Error Quantity
  | leaf q => .ok q
  | combine operation left right => do
    let a ← left.eval
    let b ← right.eval
    operation.apply a b

def leaves : Formula → List Quantity
  | leaf q => [q]
  | combine _ left right => left.leaves ++ right.leaves

/-- Whether every operation of a formula is of some sort. -/
def All (sort : Operation → Prop) : Formula → Prop
  | leaf _ => True
  | combine operation left right => sort operation ∧ left.All sort ∧ right.All sort

/-- The values of a measure on some quantities. -/
def valuesOn {α : Type} (measure : Quantity → α) (qs : List Quantity) : Set α :=
  {value | ∃ q ∈ qs, measure q = value}

@[simp] theorem valuesOn_singleton {α : Type} (measure : Quantity → α) (q : Quantity) :
    valuesOn measure [q] = {measure q} := by
  ext value
  simp [valuesOn, eq_comm]

@[simp] theorem valuesOn_append {α : Type} (measure : Quantity → α) (as bs : List Quantity) :
    valuesOn measure (as ++ bs) = valuesOn measure as ∪ valuesOn measure bs := by
  ext value
  simp [valuesOn, or_and_right, exists_or]

theorem all_true (f : Formula) : f.All fun _ => True := by
  induction f with
  | leaf q => exact trivial
  | combine operation left right leftIH rightIH => exact ⟨trivial, leftIH, rightIH⟩

section Eval

variable [PowersOfTen] {operation : Operation} {left right f : Formula} {r : Quantity}

theorem eval_combine : (combine operation left right).eval = .ok r ↔
    ∃ a b, left.eval = .ok a ∧ right.eval = .ok b ∧ operation.apply a b = .ok r := by
  simp only [eval, Except.bind_eq_ok_iff]
  constructor
  · rintro ⟨a, leftEval, b, rightEval, applied⟩
    exact ⟨a, b, leftEval, rightEval, applied⟩
  · rintro ⟨a, b, leftEval, rightEval, applied⟩
    exact ⟨a, leftEval, b, rightEval, applied⟩

/-- What holds of a single quantity and is kept by every operation of a sort holds of the leaves and
the result of a formula with operations of that sort. -/
theorem of_leaves {sort : Operation → Prop} {motive : List Quantity → Quantity → Prop}
    (single : ∀ q, motive [q] q)
    (step : ∀ {operation as bs a b r}, sort operation → operation.apply a b = .ok r →
      motive as a → motive bs b → motive (as ++ bs) r)
    (all : f.All sort) (evaluated : f.eval = .ok r) : motive f.leaves r := by
  induction f generalizing r with
  | leaf q =>
    obtain rfl := Except.ok.inj evaluated
    exact single q
  | combine operation left right leftIH rightIH =>
    obtain ⟨kind, leftAll, rightAll⟩ := all
    obtain ⟨a, b, leftEval, rightEval, applied⟩ := eval_combine.mp evaluated
    exact step kind applied (leftIH leftAll leftEval) (rightIH rightAll rightEval)

/-- The bounds on the figures of the leaves. -/
def precisions (f : Formula) : Set (WithTop Int) :=
  valuesOn (fun q => q.precision.bound) f.leaves

/-- The last places of the leaves. -/
def lastPlaces (f : Formula) : Set (WithBot Int) :=
  valuesOn (fun q => q.lastPlace.bound) f.leaves

theorem isLeast_precision (products : f.All Operation.IsProduct) (evaluated : f.eval = .ok r) :
    IsLeast f.precisions r.precision.bound := by
  refine of_leaves
    (motive := fun qs r => IsLeast (valuesOn (fun q => q.precision.bound) qs) r.precision.bound)
    (fun q => ?_) ?_ products evaluated
  · rw [valuesOn_singleton]
    exact isLeast_singleton
  · intro operation as bs a b r product applied left right
    rw [valuesOn_append, precision_apply product applied, Precision.bound_lower]
    exact left.union right

theorem isGreatest_lastPlace (sums : f.All Operation.IsSum) (evaluated : f.eval = .ok r) :
    IsGreatest f.lastPlaces r.lastPlace.bound := by
  refine of_leaves
    (motive := fun qs r => IsGreatest (valuesOn (fun q => q.lastPlace.bound) qs) r.lastPlace.bound)
    (fun q => ?_) ?_ sums evaluated
  · rw [valuesOn_singleton]
    exact isGreatest_singleton
  · intro operation as bs a b r sum applied left right
    rw [valuesOn_append, lastPlace_apply sum applied, LastPlace.bound_coarser]
    exact left.union right

theorem isExact_eval (evaluated : f.eval = .ok r) :
    r.isExact = true ↔ ∀ q ∈ f.leaves, q.isExact = true := by
  refine of_leaves (motive := fun qs r => r.isExact = true ↔ ∀ q ∈ qs, q.isExact = true)
    (fun q => ?_) ?_ f.all_true evaluated
  · simp
  · intro operation as bs a b r _ applied left right
    rw [isExact_apply applied, left, right, List.forall_mem_append]

/-- What the result of a formula is significant to: with products and quotients alone it has the
lowest precision of the leaves, with sums and differences alone their coarsest last place, and with
any operations it is exact just when all leaves are. -/
theorem eval_significance (f : Formula) (r : Quantity) (evaluated : f.eval = .ok r) :
    (f.All Operation.IsProduct → IsLeast f.precisions r.precision.bound) ∧
    (f.All Operation.IsSum → IsGreatest f.lastPlaces r.lastPlace.bound) ∧
    (r.isExact = true ↔ ∀ q ∈ f.leaves, q.isExact = true) := by
  refine ⟨?_, ?_, isExact_eval evaluated⟩
  · intro products
    exact isLeast_precision products evaluated
  · intro sums
    exact isGreatest_lastPlace sums evaluated

end Eval

/-- Zero to the hundreds has a precision of minus one, and keeps it when it is multiplied by 1.2 with
two figures and divided by the exact 5. The difference of 1.25 and 1.2 is significant to the tenths,
where it has no figure. -/
theorem eval_significance_without_figures :
    let zero : Quantity := ⟨Double.Finite.zero false, .place 2⟩
    let small : Quantity := ⟨⟨false, 5404319552844595, -52, by decide⟩, .place (-1)⟩
    let great : Quantity := ⟨⟨false, 5629499534213120, -52, by decide⟩, .place (-2)⟩
    let five : Quantity := ofExact ⟨false, 5629499534213120, -50, by decide⟩
    let rest : Quantity := ⟨⟨false, 7205759403792800, -57, by decide⟩, .place (-1)⟩
    let product := combine .divide (combine .multiply (leaf zero) (leaf small)) (leaf five)
    let difference := combine .subtract (leaf great) (leaf small)
    product.eval = .ok zero ∧ IsLeast product.precisions (Precision.figures (-1)).bound ∧
      zero.isExact = false ∧
      difference.eval = .ok rest ∧ rest.precision = .figures 0 ∧
      IsGreatest difference.lastPlaces (LastPlace.place (-1)).bound := by
  intro zero small great five rest product difference
  have multiplied : multiply zero small = .ok zero := by
    have magnitude : zero.magnitude.mul small.magnitude = .finite zero.magnitude := by
      decide +kernel
    have precision : zero.precision.lower small.precision = .figures (-1) := by decide +kernel
    rw [multiply, magnitude, precision]
    rfl
  have divided : divide zero five = .ok zero := by
    have magnitude : zero.magnitude.div five.magnitude = .finite zero.magnitude := by
      decide +kernel
    have precision : zero.precision.lower five.precision = .figures (-1) := by decide +kernel
    rw [divide, if_neg (by decide), magnitude, precision]
    rfl
  have subtracted : subtract great small = .ok rest := by
    have magnitude : great.magnitude.sub small.magnitude = .finite rest.magnitude := by
      decide +kernel
    rw [subtract, magnitude]
    rfl
  have product_eq : product.eval = .ok zero :=
    eval_combine.mpr ⟨zero, five, eval_combine.mpr ⟨zero, small, rfl, rfl, multiplied⟩, rfl, divided⟩
  have difference_eq : difference.eval = .ok rest :=
    eval_combine.mpr ⟨great, small, rfl, rfl, subtracted⟩
  have products : product.All Operation.IsProduct :=
    ⟨Or.inr rfl, ⟨Or.inl rfl, trivial, trivial⟩, trivial⟩
  have sums : difference.All Operation.IsSum := ⟨Or.inr rfl, trivial, trivial⟩
  exact ⟨product_eq, (eval_significance product zero product_eq).1 products, rfl, difference_eq,
    by decide +kernel, (eval_significance difference rest difference_eq).2.1 sums⟩

end Formula

end Quantity

end SignificantFigures
