/-! # Ordered lists

  Sets are reported in a fixed order. `sortBy` orders a list by insertion and
  keeps equal items in the order in which they came; `textSet` orders texts and
  also drops repeated ones.
-/

namespace ResourceFlow

/-- The list with an item put in front of the first item that is not before it. -/
def insertBy {α : Type} (le : α → α → Bool) (a : α) : List α → List α
  | [] => [a]
  | b :: rest => if le a b then a :: b :: rest else b :: insertBy le a rest

/-- The items in order; equal ones stay as they were. -/
def sortBy {α : Type} (le : α → α → Bool) : List α → List α
  | [] => []
  | a :: rest => insertBy le a (sortBy le rest)

/-- The items without repetition; the first of equal ones stays. -/
def distinctItems {α : Type} [DecidableEq α] : List α → List α
  | [] => []
  | a :: rest => a :: (distinctItems rest).filter (· ≠ a)

/-- Texts in the order of their characters' code points. -/
def textLe (a b : String) : Bool := decide (a ≤ b)

/-- Texts in order. -/
def sortTexts (l : List String) : List String := sortBy textLe l

/-- The set of the texts of a list, as an ordered list. -/
def textSet (l : List String) : List String := sortTexts (distinctItems l)

@[simp] theorem mem_insertBy {α : Type} (le : α → α → Bool) (a x : α) (l : List α) :
    x ∈ insertBy le a l ↔ x = a ∨ x ∈ l := by
  induction l with
  | nil => simp [insertBy]
  | cons b rest ih =>
    by_cases h : le a b
    · simp [insertBy, h]
    · simp only [insertBy, h, Bool.false_eq_true, if_false, List.mem_cons, ih]
      constructor <;> (intro hh; rcases hh with hh | hh | hh <;> simp [hh])

@[simp] theorem mem_sortBy {α : Type} (le : α → α → Bool) (x : α) (l : List α) :
    x ∈ sortBy le l ↔ x ∈ l := by
  induction l with
  | nil => simp [sortBy]
  | cons a rest ih => simp [sortBy, ih]

@[simp] theorem mem_distinctItems {α : Type} [DecidableEq α] (x : α) (l : List α) :
    x ∈ distinctItems l ↔ x ∈ l := by
  induction l with
  | nil => simp [distinctItems]
  | cons a rest ih =>
    by_cases h : x = a <;> simp [distinctItems, ih, h]

@[simp] theorem mem_textSet (x : String) (l : List String) : x ∈ textSet l ↔ x ∈ l := by
  simp [textSet, sortTexts]

end ResourceFlow
