/-! # Finite tables

  A table maps finitely many keys to values. Each key stands once, so that the
  number of entries is the number of keys, and a key's entry keeps its place
  when its value is replaced. The lemmas say what each operation does to
  look-ups and to the size; nothing else needs to open the representation.
-/

namespace ResourceFlow

/-- A finite map from keys to values, as a list of entries with distinct keys. -/
structure Table (κ ν : Type) [DecidableEq κ] where
  /-- The entries, in the order in which their keys came. -/
  entries : List (κ × ν) := []
  /-- No key has two entries. -/
  distinct : (entries.map Prod.fst).Nodup := by simp

namespace Table

variable {κ ν : Type} [DecidableEq κ]

/-! ### On entry lists -/

/-- The value of a key in a list of entries. -/
def find (k : κ) : List (κ × ν) → Option ν
  | [] => none
  | (k', v) :: rest => if k' = k then some v else find k rest

/-- The entries with the key's value set. -/
def put (k : κ) (v : ν) : List (κ × ν) → List (κ × ν)
  | [] => [(k, v)]
  | (k', v') :: rest => if k' = k then (k, v) :: rest else (k', v') :: put k v rest

theorem mem_keys_put (k k' : κ) (v : ν) (l : List (κ × ν)) :
    k' ∈ (put k v l).map Prod.fst ↔ k' = k ∨ k' ∈ l.map Prod.fst := by
  induction l with
  | nil => simp [put]
  | cons e rest ih =>
    obtain ⟨a, b⟩ := e
    by_cases h : a = k
    · simp [put, h]
    · simp only [put, h, if_false, List.map_cons, List.mem_cons, ih]
      constructor <;> (intro hh; rcases hh with hh | hh | hh <;> simp [hh])

theorem nodup_keys_put (k : κ) (v : ν) (l : List (κ × ν)) (h : (l.map Prod.fst).Nodup) :
    ((put k v l).map Prod.fst).Nodup := by
  induction l with
  | nil => simp [put]
  | cons e rest ih =>
    obtain ⟨a, b⟩ := e
    simp only [List.map_cons, List.nodup_cons] at h
    by_cases hk : a = k
    · subst hk; simpa [put] using h
    · simp only [put, hk, if_false, List.map_cons, List.nodup_cons]
      refine ⟨fun hm => ?_, ih h.2⟩
      rcases (mem_keys_put k a v rest).1 hm with hm | hm
      · exact hk hm
      · exact h.1 hm

theorem find_put (k k' : κ) (v : ν) (l : List (κ × ν)) :
    find k' (put k v l) = if k' = k then some v else find k' l := by
  induction l with
  | nil =>
    by_cases h : k' = k
    · simp [put, find, h]
    · have h' : ¬ k = k' := fun hh => h hh.symm
      simp [put, find, h, h']
  | cons e rest ih =>
    obtain ⟨a, b⟩ := e
    by_cases ha : a = k
    · subst ha
      by_cases h : k' = a
      · simp [put, find, h]
      · have h' : ¬ a = k' := fun hh => h hh.symm
        simp [put, find, h, h']
    · by_cases h : k' = k
      · subst h; simp [put, find, ha, ih]
      · by_cases h' : a = k' <;> simp [put, find, ha, h, h', ih]

theorem find_filter (k k' : κ) (l : List (κ × ν)) :
    find k' (l.filter fun e => e.1 ≠ k) = if k' = k then none else find k' l := by
  induction l with
  | nil => simp [find]
  | cons e rest ih =>
    obtain ⟨a, b⟩ := e
    by_cases ha : a = k
    · subst ha
      by_cases h : k' = a
      · subst h; simpa [find] using ih
      · have h' : ¬ a = k' := fun hh => h hh.symm
        simpa [find, h, h'] using ih
    · by_cases h' : a = k'
      · subst h'; simp [find, ha]
      · simpa [find, ha, h'] using ih

theorem find_eq_none_iff (k : κ) (l : List (κ × ν)) :
    find k l = none ↔ k ∉ l.map Prod.fst := by
  induction l with
  | nil => simp [find]
  | cons e rest ih =>
    obtain ⟨a, b⟩ := e
    by_cases h : a = k
    · simp [find, h]
    · have h' : ¬ k = a := fun hh => h hh.symm
      simp [find, h, h', ih]

/-! ### Operations -/

/-- The table without entries. -/
def empty : Table κ ν := {}

instance : Inhabited (Table κ ν) := ⟨empty⟩

/-- The value of a key. -/
def get? (t : Table κ ν) (k : κ) : Option ν := find k t.entries

/-- Whether the key has a value. -/
def contains (t : Table κ ν) (k : κ) : Bool := (t.get? k).isSome

/-- The number of keys. -/
def size (t : Table κ ν) : Nat := t.entries.length

/-- The keys, in the order in which they came. -/
def keys (t : Table κ ν) : List κ := t.entries.map Prod.fst

/-- The table with the key's value set. -/
def insert (t : Table κ ν) (k : κ) (v : ν) : Table κ ν where
  entries := put k v t.entries
  distinct := nodup_keys_put k v t.entries t.distinct

/-- The table without the key. -/
def erase (t : Table κ ν) (k : κ) : Table κ ν where
  entries := t.entries.filter fun e => e.1 ≠ k
  distinct := t.distinct.sublist (List.filter_sublist.map Prod.fst)

/-- The table with the value of a present key changed. -/
def modify (t : Table κ ν) (k : κ) (f : ν → ν) : Table κ ν :=
  match t.get? k with
  | none => t
  | some v => t.insert k (f v)

/-! ### Look-up after each operation -/

@[simp] theorem get?_empty (k : κ) : (empty : Table κ ν).get? k = none := rfl

theorem get?_insert (t : Table κ ν) (k k' : κ) (v : ν) :
    (t.insert k v).get? k' = if k' = k then some v else t.get? k' :=
  find_put k k' v t.entries

@[simp] theorem get?_insert_self (t : Table κ ν) (k : κ) (v : ν) :
    (t.insert k v).get? k = some v := by
  simp [get?_insert]

@[simp] theorem get?_insert_ne (t : Table κ ν) {k k' : κ} (v : ν) (h : k' ≠ k) :
    (t.insert k v).get? k' = t.get? k' := by
  simp [get?_insert, h]

theorem get?_erase (t : Table κ ν) (k k' : κ) :
    (t.erase k).get? k' = if k' = k then none else t.get? k' :=
  find_filter k k' t.entries

@[simp] theorem get?_erase_self (t : Table κ ν) (k : κ) : (t.erase k).get? k = none := by
  simp [get?_erase]

@[simp] theorem get?_erase_ne (t : Table κ ν) {k k' : κ} (h : k' ≠ k) :
    (t.erase k).get? k' = t.get? k' := by
  simp [get?_erase, h]

theorem get?_modify (t : Table κ ν) (k k' : κ) (f : ν → ν) :
    (t.modify k f).get? k' = if k' = k then (t.get? k').map f else t.get? k' := by
  unfold modify
  by_cases h : k' = k
  · subst h; cases hk : t.get? k' <;> simp [hk]
  · cases hk : t.get? k <;> simp [h]

@[simp] theorem get?_modify_ne (t : Table κ ν) {k k' : κ} (f : ν → ν) (h : k' ≠ k) :
    (t.modify k f).get? k' = t.get? k' := by
  simp [get?_modify, h]

theorem get?_eq_none_iff (t : Table κ ν) (k : κ) : t.get? k = none ↔ k ∉ t.keys :=
  find_eq_none_iff k t.entries

end Table

end ResourceFlow
