import Mathlib.Data.Fintype.EquivFin
import Mathlib.Data.Fintype.List
import ResourceFlow.Proofs.Data.Sets
/-! # What a node filter picks

  Main statement, `NodeFilter.targets`: a filter has no criteria exactly when
  it picks every set of candidates as it stands. Without override nodes it
  picks the candidates that meet its criteria, one by one, so that it can be
  applied to parts of the candidates, and before or after another filter. With
  override nodes it picks these, whatever the candidates are.
-/

namespace ResourceFlow

/-! ### Names of nodes -/

namespace Node

/-- The node goes by that name: it is its host name or one of its addresses. -/
def GoesBy (n : Node) (name : String) : Prop :=
  name = n.hostname ∨ name = n.privateIp ∨ n.publicIp = some name

theorem isNamedIn_iff {n : Node} {hosts : List String} :
    n.isNamedIn hosts = true ↔ ∃ name ∈ hosts, n.GoesBy name := by
  cases hip : n.publicIp with
  | none => simp [isNamedIn, GoesBy, hip, and_or_left, exists_or]
  | some ip => simp [isNamedIn, GoesBy, hip, and_or_left, exists_or, or_assoc]

/-- A node that goes by one name only, and whose host group bears it too. -/
def called (name : String) : Node :=
  { hostname := name, privateIp := name, hostGroup := name }

theorem called_goesBy {name other : String} : (called name).GoesBy other ↔ other = name := by
  simp [GoesBy, called]

end Node

/-- No list holds all texts. -/
theorem exists_unlisted (l : List String) : ∃ name, name ∉ l := by
  obtain ⟨name, hname⟩ := Infinite.exists_notMem_finset l.toFinset
  exact ⟨name, by simpa using hname⟩

namespace NodeFilter

variable {f f' : NodeFilter} {S T : List Node}

/-! ### Override nodes -/

/-- These are the override nodes, and there are some of them. -/
def Overrides (f : NodeFilter) (nodes : List Node) : Prop :=
  f.overrideNodes = some nodes ∧ nodes ≠ []

/-- There are override nodes; an empty set of them is none. -/
def Overridden (f : NodeFilter) : Prop := ∃ nodes, f.Overrides nodes

theorem override?_eq_some_iff {nodes : List Node} :
    f.override? = some nodes ↔ f.Overrides nodes := by
  unfold override? Overrides
  split
  · next heq =>
    rw [heq]
    constructor
    · rintro ⟨⟩
      exact ⟨rfl, by simp⟩
    · rintro ⟨⟨⟩, -⟩
      rfl
  · next hnone =>
    constructor
    · simp
    · rintro ⟨hsome, hne⟩
      obtain ⟨n, rest, rfl⟩ := List.exists_cons_of_ne_nil hne
      exact absurd hsome (hnone n rest)

theorem override?_eq_none_iff : f.override? = none ↔ ¬ f.Overridden := by
  simp only [Option.eq_none_iff_forall_not_mem, Option.mem_def, override?_eq_some_iff,
    Overridden, not_exists]

theorem apply_of_overrides {nodes : List Node} (h : f.Overrides nodes) (S : List Node) :
    f.apply S = nodes := by
  simp only [apply, override?_eq_some_iff.2 h]

theorem apply_of_not_overridden (h : ¬ f.Overridden) (S : List Node) :
    f.apply S = S.filter f.accepts := by
  simp only [apply, override?_eq_none_iff.2 h]

/-! ### Criteria -/

/-- The node meets the criteria of the filter, the override nodes aside. -/
structure Meets (f : NodeFilter) (n : Node) : Prop where
  /-- No excluded entry is a name of the node. -/
  notExcluded : ∀ name ∈ f.excludeHosts, ¬ n.GoesBy name
  /-- If any entries are included, one of them is a name of the node. -/
  included : f.includeHosts ≠ [] → ∃ name ∈ f.includeHosts, n.GoesBy name
  /-- If any host groups are included, that of the node is. -/
  inGroup : f.includeHostGroups ≠ [] → n.hostGroup ∈ f.includeHostGroups

theorem accepts_iff {n : Node} : f.accepts n = true ↔ f.Meets n := by
  simp only [accepts, Bool.and_eq_true, Bool.or_eq_true, Bool.not_eq_true', List.isEmpty_iff,
    List.contains_iff_mem, ← Bool.not_eq_true, Node.isNamedIn_iff, not_exists, not_and]
  constructor
  · rintro ⟨⟨hout, hin⟩, hgroup⟩
    exact ⟨hout, hin.resolve_left, hgroup.resolve_left⟩
  · intro h
    exact ⟨⟨h.notExcluded, or_iff_not_imp_left.2 h.included⟩, or_iff_not_imp_left.2 h.inGroup⟩

/-- Without override nodes, the filter picks the candidates that meet its criteria. -/
theorem mem_apply_iff (h : ¬ f.Overridden) {n : Node} :
    n ∈ f.apply S ↔ n ∈ S ∧ f.Meets n := by
  rw [apply_of_not_overridden h, List.mem_filter, accepts_iff]

/-! ### Filters without criteria -/

theorem isEmpty_iff : f.isEmpty = true ↔
    f.includeHosts = [] ∧ f.excludeHosts = [] ∧ f.includeHostGroups = [] ∧ ¬ f.Overridden := by
  simp only [isEmpty, Bool.and_eq_true, List.isEmpty_iff, Option.isNone_iff_eq_none,
    override?_eq_none_iff, and_assoc]

theorem meets_of_isEmpty (h : f.isEmpty = true) (n : Node) : f.Meets n := by
  obtain ⟨hin, hout, hgroup, -⟩ := isEmpty_iff.1 h
  exact ⟨by simp [hout], fun hne => absurd hin hne, fun hne => absurd hgroup hne⟩

/-- A filter whose criteria every node meets has none of the three. -/
theorem no_criteria_of_meets (h : ∀ n, f.Meets n) :
    f.includeHosts = [] ∧ f.excludeHosts = [] ∧ f.includeHostGroups = [] := by
  refine ⟨?_, ?_, ?_⟩
  · -- A node that goes by an unlisted name only would not be included.
    by_contra hne
    obtain ⟨name, hname⟩ := exists_unlisted f.includeHosts
    obtain ⟨other, hother, hgoes⟩ := (h (Node.called name)).included hne
    exact hname (Node.called_goesBy.1 hgoes ▸ hother)
  · refine List.eq_nil_iff_forall_not_mem.2 fun name hname => ?_
    exact (h (Node.called name)).notExcluded name hname (Node.called_goesBy.2 rfl)
  · by_contra hne
    obtain ⟨name, hname⟩ := exists_unlisted f.includeHostGroups
    exact hname ((h (Node.called name)).inGroup hne)

/-- A filter that picks every set of candidates as it stands has no override nodes. -/
theorem not_overridden_of_identity (h : ∀ S, SameSet (f.apply S) S) : ¬ f.Overridden := by
  rintro ⟨nodes, hnodes⟩
  have hnil : SameSet nodes [] := apply_of_overrides hnodes [] ▸ h []
  exact hnodes.2 (hnil.eq_nil_iff.2 rfl)

theorem isEmpty_iff_identity : f.isEmpty = true ↔ ∀ S, SameSet (f.apply S) S := by
  constructor
  · intro h S n
    rw [mem_apply_iff (isEmpty_iff.1 h).2.2.2]
    exact and_iff_left (meets_of_isEmpty h n)
  · intro h
    have hover := not_overridden_of_identity h
    have hmeets : ∀ n, f.Meets n := fun n =>
      ((mem_apply_iff hover).1 ((h [n] n).2 (List.mem_singleton.2 rfl))).2
    obtain ⟨hin, hout, hgroup⟩ := no_criteria_of_meets hmeets
    exact isEmpty_iff.2 ⟨hin, hout, hgroup, hover⟩

/-! ### Filters and candidates as sets -/

theorem Same.overrides (h : f.Same f') {nodes : List Node} (hn : f.Overrides nodes) :
    ∃ nodes', f'.Overrides nodes' ∧ SameSet nodes nodes' := by
  obtain ⟨hsome, hne⟩ := hn
  have hsame := h.overrideNodes
  rw [hsome] at hsame
  cases hother : f'.overrideNodes with
  | none => simp [hother] at hsame; nomatch hsame
  | some nodes' =>
    rw [hother] at hsame
    obtain ⟨⟩ | ⟨hnodes⟩ := hsame
    exact ⟨nodes', ⟨hother, fun hnil => hne (hnodes.eq_nil_iff.2 hnil)⟩, hnodes⟩

theorem Same.overridden_iff (h : f.Same f') : f.Overridden ↔ f'.Overridden := by
  constructor
  · rintro ⟨nodes, hn⟩
    obtain ⟨nodes', hn', -⟩ := h.overrides hn
    exact ⟨nodes', hn'⟩
  · rintro ⟨nodes, hn⟩
    obtain ⟨nodes', hn', -⟩ := h.symm.overrides hn
    exact ⟨nodes', hn'⟩

theorem Same.meets (h : f.Same f') {n : Node} (hn : f.Meets n) : f'.Meets n where
  notExcluded name hname := hn.notExcluded name ((h.excludeHosts name).2 hname)
  included hne := by
    obtain ⟨name, hname, hgoes⟩ := hn.included fun hnil => hne (h.includeHosts.eq_nil_iff.1 hnil)
    exact ⟨name, (h.includeHosts name).1 hname, hgoes⟩
  inGroup hne := (h.includeHostGroups n.hostGroup).1
    (hn.inGroup fun hnil => hne (h.includeHostGroups.eq_nil_iff.1 hnil))

theorem Same.meets_iff (h : f.Same f') {n : Node} : f.Meets n ↔ f'.Meets n :=
  ⟨h.meets, h.symm.meets⟩

/-- The picked set depends on no more than the sets that a filter is made of and is applied to. -/
theorem Same.apply (h : f.Same f') (hS : SameSet S T) : SameSet (f.apply S) (f'.apply T) := by
  by_cases hover : f.Overridden
  · obtain ⟨nodes, hn⟩ := hover
    obtain ⟨nodes', hn', hsame⟩ := h.overrides hn
    rw [apply_of_overrides hn, apply_of_overrides hn']
    exact hsame
  · intro n
    rw [mem_apply_iff hover, mem_apply_iff (h.overridden_iff.not.1 hover), hS n, h.meets_iff]

/-! ### What a filter picks -/

/-- What holds of the nodes that a filter picks from any sets of candidates. -/
structure Targets (f : NodeFilter) : Prop where
  /-- Only a filter without criteria picks every set of candidates as it stands. -/
  identity : f.isEmpty = true ↔ ∀ S, SameSet (f.apply S) S
  /-- Without override nodes, the candidates that meet the criteria are picked. -/
  selected : ¬ f.Overridden → ∀ S n, n ∈ f.apply S ↔ n ∈ S ∧ f.Meets n
  /-- Without override nodes, a union of candidates is picked from part by part. -/
  union : ¬ f.Overridden → ∀ S T U, (∀ n, n ∈ U ↔ n ∈ S ∨ n ∈ T) →
    ∀ n, n ∈ f.apply U ↔ n ∈ f.apply S ∨ n ∈ f.apply T
  /-- Two filters without override nodes give the same in either order. -/
  commutes : ¬ f.Overridden → ∀ g : NodeFilter, ¬ g.Overridden →
    ∀ S, SameSet (g.apply (f.apply S)) (f.apply (g.apply S))
  /-- With override nodes, these are picked from every set of candidates. -/
  overridden : ∀ nodes, f.Overrides nodes → ∀ S, f.apply S = nodes
  /-- All of this is about sets: order and repetition in the lists do not matter. -/
  asSets : ∀ f' : NodeFilter, f.Same f' → ∀ S S', SameSet S S' →
    SameSet (f.apply S) (f'.apply S')

/-- What a filter picks from all sets of candidates. -/
theorem targets (f : NodeFilter) : f.Targets where
  identity := isEmpty_iff_identity
  selected hover S n := mem_apply_iff hover
  union hover S T U hU n := by
    simp only [mem_apply_iff hover, hU n, or_and_right]
  commutes hover g hover' S n := by
    simp only [mem_apply_iff hover, mem_apply_iff hover', and_assoc, and_comm (a := f.Meets n)]
  overridden _ hnodes S := apply_of_overrides hnodes S
  asSets _ hsame _ _ hS := hsame.apply hS

/-- An override set that is there and empty is no criterion. -/
example : ({ overrideNodes := some [] } : NodeFilter).isEmpty = true := rfl

end NodeFilter

end ResourceFlow
