/-! # Named values

  An enumeration whose values are written by name. The name identifies the
  value: reading a written name gives the value back, and no other text reads
  as a value.
-/

namespace ResourceFlow

/-- Values that are written by name. -/
class Named (α : Type) where
  /-- All values, in the order of their declaration. -/
  all : List α
  /-- The name under which a value is written. -/
  name : α → String
  /-- No value is missing. -/
  mem_all : ∀ a, a ∈ all := by intro a; cases a <;> decide
  /-- No two values have the same name. -/
  name_injective : ∀ a b, name a = name b → a = b := by
    intro a b; cases a <;> cases b <;> simp

namespace Named

variable {α : Type} [Named α]

/-- The value of that name. -/
def ofName? (s : String) : Option α := (all : List α).find? fun a => decide (name a = s)

theorem name_of_ofName? {s : String} {a : α} (h : ofName? s = some a) : name a = s := by
  have := List.find?_some h
  simpa using this

@[simp] theorem ofName?_name (a : α) : ofName? (name a) = some a := by
  cases h : (ofName? (name a) : Option α) with
  | none =>
    -- Nothing was found, although `a` itself has the name.
    have := List.find?_eq_none.mp h a (mem_all a)
    simp at this
  | some b => rw [name_injective b a (name_of_ofName? h)]

end Named

end ResourceFlow
