import Mathlib.Data.List.Perm.Basic
import Mathlib.Data.String.Basic
import ResourceFlow.Cluster.NodeFilter
/-! # Lists that stand for sets

  Sets of texts and of nodes are kept as lists of which only the membership
  counts, and are reported in order and without repetition. The reported form
  is canonical: two lists have the same one exactly when the same items are in
  them (`textSet_eq_iff`, `Node.setOf_eq_iff`).
-/

namespace ResourceFlow

/-! ### The same set -/

/-- The same items are in both lists, in whatever order and however often. -/
def SameSet {α : Type} (l l' : List α) : Prop := ∀ a, a ∈ l ↔ a ∈ l'

namespace SameSet

variable {α : Type} {l l' : List α}

theorem symm (h : SameSet l l') : SameSet l' l := fun a => (h a).symm

theorem eq_nil_iff (h : SameSet l l') : l = [] ↔ l' = [] := by
  simp only [List.eq_nil_iff_forall_not_mem, h _]

end SameSet

/-! ### Orders -/

/-- A comparison by which any two items stand in one order, and only equal ones in both. -/
structure IsOrder {α : Type} (le : α → α → Bool) : Prop where
  /-- Any two items compare. -/
  total : ∀ a b, le a b = true ∨ le b a = true
  /-- What is before an item is before all that come after it. -/
  trans : ∀ {a b c}, le a b = true → le b c = true → le a c = true
  /-- Only an item itself is both before and after it. -/
  antisymm : ∀ {a b}, le a b = true → le b a = true → a = b

section ordering

variable {α : Type} {le : α → α → Bool}

theorem insertBy_perm (a : α) (l : List α) : (insertBy le a l).Perm (a :: l) := by
  induction l with
  | nil => exact .refl _
  | cons b rest ih =>
    simp only [insertBy]
    split
    · exact .refl _
    · exact (ih.cons b).trans (.swap a b rest)

/-- Ordering a list neither drops nor repeats an item. -/
theorem sortBy_perm (l : List α) : (sortBy le l).Perm l := by
  induction l with
  | nil => exact .refl _
  | cons a rest ih => exact (insertBy_perm a _).trans (ih.cons a)

namespace IsOrder

variable (ho : IsOrder le)

include ho

theorem pairwise_insertBy (a : α) {l : List α} (h : l.Pairwise fun x y => le x y = true) :
    (insertBy le a l).Pairwise fun x y => le x y = true := by
  induction l with
  | nil => simp [insertBy]
  | cons b rest ih =>
    obtain ⟨hb, hrest⟩ := List.pairwise_cons.1 h
    by_cases hab : le a b = true
    · simp only [insertBy, if_pos hab]
      refine List.pairwise_cons.2 ⟨fun x hx => ?_, h⟩
      rcases List.mem_cons.1 hx with rfl | hx
      · exact hab
      · exact ho.trans hab (hb x hx)
    · -- The item goes further back, behind `b`, which is before all of them.
      simp only [insertBy, if_neg hab]
      refine List.pairwise_cons.2 ⟨fun x hx => ?_, ih hrest⟩
      rcases (mem_insertBy le a x rest).1 hx with rfl | hx
      · exact (ho.total b x).resolve_right hab
      · exact hb x hx

/-- An ordered list is in order. -/
theorem pairwise_sortBy (l : List α) : (sortBy le l).Pairwise fun x y => le x y = true := by
  induction l with
  | nil => exact .nil
  | cons a rest ih => exact ho.pairwise_insertBy a ih

end IsOrder

variable [DecidableEq α]

theorem nodup_distinctItems (l : List α) : (distinctItems l).Nodup := by
  induction l with
  | nil => exact .nil
  | cons a rest ih =>
    refine List.nodup_cons.2 ⟨?_, ih.filter _⟩
    simp

theorem nodup_sortBy_distinctItems (l : List α) : (sortBy le (distinctItems l)).Nodup :=
  (sortBy_perm _).nodup_iff.mpr (nodup_distinctItems l)

/-- Ordered and without repetition, two lists are equal exactly when they are the same set. -/
theorem IsOrder.sortBy_distinctItems_eq_iff (ho : IsOrder le) {l l' : List α} :
    sortBy le (distinctItems l) = sortBy le (distinctItems l') ↔ SameSet l l' := by
  constructor
  · intro h a
    have hmem : a ∈ sortBy le (distinctItems l) ↔ a ∈ sortBy le (distinctItems l') := by rw [h]
    simpa using hmem
  · intro h
    have hperm : (distinctItems l).Perm (distinctItems l') :=
      (List.perm_ext_iff_of_nodup (nodup_distinctItems l) (nodup_distinctItems l')).2 fun a => by
        simpa using h a
    refine List.Perm.eq_of_pairwise (fun a b _ _ hab hba => ho.antisymm hab hba)
      (ho.pairwise_sortBy _) (ho.pairwise_sortBy _) ?_
    exact (sortBy_perm _).trans (hperm.trans (sortBy_perm _).symm)

end ordering

/-! ### Sets of texts -/

theorem textLe_isOrder : IsOrder textLe where
  total a b := by simpa [textLe] using String.le_total a b
  trans hab hbc := by
    simp only [textLe, decide_eq_true_eq] at *
    exact String.le_trans hab hbc
  antisymm hab hba := by
    simp only [textLe, decide_eq_true_eq] at *
    exact String.le_antisymm hab hba

/-- The reported form of a set of texts is canonical. -/
theorem textSet_eq_iff {l l' : List String} : textSet l = textSet l' ↔ SameSet l l' :=
  textLe_isOrder.sortBy_distinctItems_eq_iff

theorem sameSet_textSet (l : List String) : SameSet (textSet l) l := fun a => mem_textSet a l

@[simp] theorem textSet_textSet (l : List String) : textSet (textSet l) = textSet l :=
  textSet_eq_iff.2 (sameSet_textSet l)

/-! ### Sets of nodes -/

namespace Node

theorem sortKey_injective {m n : Node} (h : m.sortKey = n.sortKey) : m = n := by
  obtain ⟨hostname, privateIp, publicIp, hostGroup⟩ := m
  obtain ⟨hostname', privateIp', publicIp', hostGroup'⟩ := n
  cases publicIp <;> cases publicIp' <;> simp_all [sortKey]

theorem keyLe_total (a b : List String) : keyLe a b = true ∨ keyLe b a = true := by
  induction a generalizing b with
  | nil => exact .inl rfl
  | cons x as ih =>
    cases b with
    | nil => exact .inr rfl
    | cons y bs =>
      by_cases hxy : x = y
      · simpa [keyLe, hxy] using ih bs
      · simpa [keyLe, hxy, Ne.symm hxy] using textLe_isOrder.total x y

theorem keyLe_trans {a b c : List String} (hab : keyLe a b = true) (hbc : keyLe b c = true) :
    keyLe a c = true := by
  induction a generalizing b c with
  | nil => rfl
  | cons x as ih =>
    match b, c, hab, hbc with
    | y :: bs, z :: cs, hab, hbc =>
      simp only [keyLe] at hab hbc ⊢
      -- The first part in which two of the three differ decides.
      by_cases hxy : x = y
      · subst hxy
        by_cases hxz : x = z
        · simp only [if_pos hxz, if_true] at hab hbc ⊢
          exact ih hab hbc
        · simpa [hxz] using hbc
      · rw [if_neg hxy] at hab
        by_cases hyz : y = z
        · subst hyz
          rwa [if_neg hxy]
        · rw [if_neg hyz] at hbc
          have hxz : x ≠ z := by
            rintro rfl
            exact hxy (textLe_isOrder.antisymm hab hbc)
          rw [if_neg hxz]
          exact textLe_isOrder.trans hab hbc

theorem keyLe_antisymm {a b : List String} (hab : keyLe a b = true) (hba : keyLe b a = true) :
    a = b := by
  induction a generalizing b with
  | nil =>
    cases b with
    | nil => rfl
    | cons y bs => simp [keyLe] at hba
  | cons x as ih =>
    cases b with
    | nil => simp [keyLe] at hab
    | cons y bs =>
      by_cases hxy : x = y
      · subst hxy
        simp only [keyLe, if_true] at hab hba
        rw [ih hab hba]
      · simp only [keyLe, if_neg hxy, if_neg (Ne.symm hxy)] at hab hba
        exact absurd (textLe_isOrder.antisymm hab hba) hxy

theorem le_isOrder : IsOrder le where
  total m n := keyLe_total m.sortKey n.sortKey
  trans := keyLe_trans
  antisymm hmn hnm := sortKey_injective (keyLe_antisymm hmn hnm)

/-- The reported form of a set of nodes is canonical. -/
theorem setOf_eq_iff {l l' : List Node} : setOf l = setOf l' ↔ SameSet l l' :=
  le_isOrder.sortBy_distinctItems_eq_iff

theorem sameSet_setOf (l : List Node) : SameSet (setOf l) l := fun n => mem_setOf n l

@[simp] theorem setOf_setOf (l : List Node) : setOf (setOf l) = setOf l :=
  setOf_eq_iff.2 (sameSet_setOf l)

end Node

/-! ### Node filters -/

/-- Two sets are absent, or both are there and the same. -/
inductive SameSet? {α : Type} : Option (List α) → Option (List α) → Prop where
  /-- Neither is there. -/
  | absent : SameSet? none none
  /-- Both are there. -/
  | given {l l' : List α} (h : SameSet l l') : SameSet? (some l) (some l')

/-- Two filters have the same criteria and override nodes, each as a set. -/
structure NodeFilter.Same (f f' : NodeFilter) : Prop where
  includeHosts : SameSet f.includeHosts f'.includeHosts
  excludeHosts : SameSet f.excludeHosts f'.excludeHosts
  includeHostGroups : SameSet f.includeHostGroups f'.includeHostGroups
  overrideNodes : SameSet? f.overrideNodes f'.overrideNodes

theorem Node.map_setOf_eq_iff {l l' : Option (List Node)} :
    l.map setOf = l'.map setOf ↔ SameSet? l l' := by
  constructor
  · intro h
    match l, l', h with
    | none, none, _ => exact .absent
    | some l, some l', h => exact .given (setOf_eq_iff.1 (Option.some.inj h))
  · rintro (_ | hsame)
    · rfl
    · exact congrArg some (setOf_eq_iff.2 hsame)

theorem SameSet?.symm {α : Type} {l l' : Option (List α)} (h : SameSet? l l') :
    SameSet? l' l := by
  cases h with
  | absent => exact .absent
  | given h => exact .given h.symm

/-- The sets of a filter are listed without repetition. -/
structure NodeFilter.Distinct (f : NodeFilter) : Prop where
  includeHosts : f.includeHosts.Nodup
  excludeHosts : f.excludeHosts.Nodup
  includeHostGroups : f.includeHostGroups.Nodup
  overrideNodes : ∀ l, f.overrideNodes = some l → l.Nodup

theorem NodeFilter.Same.symm {f f' : NodeFilter} (h : f.Same f') : f'.Same f :=
  ⟨h.includeHosts.symm, h.excludeHosts.symm, h.includeHostGroups.symm, h.overrideNodes.symm⟩

end ResourceFlow
