import SignificantFigures.Proofs.Text.Integer
import SignificantFigures.Value.Text

/-!
A value has a text just when every integer that the text shows has one. The figures of a quantity
are such an integer.
-/

set_option autoImplicit false

namespace SignificantFigures

open Text (ofInteger?_eq_none_iff)

variable [PowersOfTen]

/-- The integers that the text of a value shows. -/
inductive Value.HasInteger (n : Int) : Value → Prop
  | integer : HasInteger n (.integer n)
  | item {items : List Value} {v : Value} (member : v ∈ items) (inner : HasInteger n v) :
    HasInteger n (.list items)
  | entry {entries : List (String × Value)} {e : String × Value} (member : e ∈ entries)
    (inner : HasInteger n e.2) : HasInteger n (.object entries)
  | figures {q : Quantity} (precision : q.precision = .figures n) : HasInteger n (.quantity q)

/-- A value with no integer that has too many digits. -/
def Value.Writable (v : Value) : Prop :=
  ∀ n, v.HasInteger n → Text.Writable n

/-- A quantity whose figures can be written. -/
def Quantity.Writable (q : Quantity) : Prop :=
  ∀ count, q.precision = .figures count → Text.Writable count

theorem Quantity.describe?_eq_none_iff {q : Quantity} : q.describe? = none ↔ ¬ q.Writable := by
  rw [describe?, Option.map_eq_none_iff, Writable]
  cases q.precision with
  | exact => simp [Precision.text?]
  | figures count => simp [Precision.text?, ofInteger?_eq_none_iff]

namespace Value

theorem writable_integer_iff {n : Int} : (integer n).Writable ↔ Text.Writable n := by
  refine ⟨fun writable => writable n .integer, fun writable m shown => ?_⟩
  cases shown with
  | integer => exact writable

theorem writable_quantity_iff {q : Quantity} : (quantity q).Writable ↔ q.Writable := by
  refine ⟨fun writable n precision => writable n (.figures precision), fun writable n shown => ?_⟩
  cases shown with
  | figures precision => exact writable n precision

theorem writable_list_iff {items : List Value} :
    (list items).Writable ↔ ∀ v ∈ items, v.Writable := by
  refine ⟨fun writable v member n inner => writable n (.item member inner), fun writable n shown => ?_⟩
  cases shown with
  | item member inner => exact writable _ member n inner

theorem writable_object_iff {entries : List (String × Value)} :
    (object entries).Writable ↔ ∀ e ∈ entries, e.2.Writable := by
  refine ⟨fun writable e member n inner => writable n (.entry member inner), fun writable n shown => ?_⟩
  cases shown with
  | entry member inner => exact writable _ member n inner

theorem itemsText?_cons_eq_none_iff (v : Value) (rest : List Value) :
    itemsText? (v :: rest) = none ↔ text? v = none ∨ itemsText? rest = none := by
  cases rest with
  | nil => simp [itemsText?]
  | cons w others =>
    rw [itemsText?]
    · cases text? v <;> cases itemsText? (w :: others) <;> simp
    · exact nofun

theorem entriesText?_cons_eq_none_iff (e : String × Value) (rest : List (String × Value)) :
    entriesText? (e :: rest) = none ↔ text? e.2 = none ∨ entriesText? rest = none := by
  cases rest with
  | nil => simp [entriesText?]
  | cons f others =>
    rw [entriesText?]
    · cases text? e.2 <;> cases entriesText? (f :: others) <;> simp
    · exact nofun

-- The recursion is that of the texts: one theorem for values, one for items and one for entries.
mutual

theorem text?_eq_none_iff (v : Value) : v.text? = none ↔ ¬ v.Writable := by
  cases v with
  | null | double | string =>
    exact iff_of_false (by simp [text?]) (not_not.mpr fun n shown => nomatch shown)
  | bool b =>
    exact iff_of_false (by cases b <;> simp [text?]) (not_not.mpr fun n shown => nomatch shown)
  | integer n => rw [text?, ofInteger?_eq_none_iff, writable_integer_iff]
  | list items =>
    rw [text?, Option.map_eq_none_iff, itemsText?_eq_none_iff, writable_list_iff]
    simp
  | object entries =>
    rw [text?, Option.map_eq_none_iff, entriesText?_eq_none_iff, writable_object_iff]
    simp
  | quantity q =>
    rw [text?, Quantity.describe?_eq_none_iff, writable_quantity_iff]

theorem itemsText?_eq_none_iff (items : List Value) :
    itemsText? items = none ↔ ∃ v ∈ items, ¬ v.Writable := by
  cases items with
  | nil => simp [itemsText?]
  | cons v rest =>
    rw [itemsText?_cons_eq_none_iff, text?_eq_none_iff v, itemsText?_eq_none_iff rest]
    simp

theorem entriesText?_eq_none_iff (entries : List (String × Value)) :
    entriesText? entries = none ↔ ∃ e ∈ entries, ¬ e.2.Writable := by
  cases entries with
  | nil => simp [entriesText?]
  | cons e rest =>
    rw [entriesText?_cons_eq_none_iff, text?_eq_none_iff e.2, entriesText?_eq_none_iff rest]
    simp

end

end Value

end SignificantFigures
