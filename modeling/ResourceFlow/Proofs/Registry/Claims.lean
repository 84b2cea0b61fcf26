import Mathlib.Data.List.Induction
import Mathlib.Data.Set.Card
import ResourceFlow.Proofs.Registry.Uses
/-! # What lanes answer

  Whatever was done with the lanes of a registry, in whatever order, tells
  what they answer (`Lanes.told_by_log`). A claim is unreleased until the lane
  of its resource is released; the unreleased claims are the occupied lanes,
  one for each resource, and only the flow that made a claim can release it
  or act under it. Each claim comes with a lock of its own, which everyone who
  looks at the lane until its release is handed too. Who holds or waits for
  that lock asked for it after the claim, while locks of earlier claims are
  held on as long as their holders like.

  What was done is logged together with what it answered. One invariant
  carries the proof, `Lanes.Logged.Kept`: the lanes, the numbers of the locks
  and those who stand in line for them are what the log says.
-/

namespace ResourceFlow

/-- A table has as many entries as it has keys with a value. -/
theorem Table.encard_keys {κ ν : Type} [DecidableEq κ] (t : Table κ ν) :
    {k | (t.get? k).isSome}.encard = t.size := by
  have hkeys : {k | (t.get? k).isSome} = (t.keys.toFinset : Set κ) := by
    ext k
    simp [← Option.ne_none_iff_isSome, get?_eq_none_iff]
  have hcard : t.keys.toFinset.card = t.keys.length := List.toFinset_card_of_nodup t.distinct
  rw [hkeys, Set.encard_coe_eq_coe_finsetCard, hcard, keys, List.length_map]
  rfl

namespace Lanes

/-! ### The log -/

/-- A registry, and the log of what was done with its lanes. -/
structure Logged where
  /-- The registry. -/
  registry : Registry := {}
  /-- What was done, in order. -/
  log : List Entry := []

namespace Logged

/-- One more thing is done. -/
def use (w : Logged) (u : Use) : Logged where
  registry := (w.registry.use u).1
  log := w.log ++ [(u, (w.registry.use u).2)]

/-- A new registry after all this was done with its lanes. -/
def after (uses : List Use) : Logged := uses.foldl use {}

end Logged

/-! ### Unreleased claims -/

/-- The claim stands in the log, and this was done since. -/
def Since (log : List Entry) (c : Claim) (later : List Entry) : Prop :=
  c.entry :: later <:+ log

/-- The claim was made, and the lane of its resource has not been released since. -/
def Unreleased (log : List Entry) (c : Claim) : Prop :=
  ∃ later, Since log c later ∧ ∀ e ∈ later, Entry.released? e ≠ some c.resource

/-- The flow made the unreleased claim of the resource. -/
def ClaimedBy (log : List Entry) (r : ResourceId) (f : FlowId) : Prop :=
  ∃ c, Unreleased log c ∧ c.resource = r ∧ c.flow = f

theorem since_snoc_iff {log : List Entry} {e : Entry} {c : Claim} {later : List Entry} :
    Since (log ++ [e]) c later ↔
      (later = [] ∧ e = c.entry) ∨ ∃ rest, later = rest ++ [e] ∧ Since log c rest := by
  unfold Since
  rw [List.suffix_concat_iff]
  constructor
  · rintro (h | ⟨t, ht, hsuf⟩)
    · cases h
    · cases t with
      | nil =>
        obtain ⟨he, rfl⟩ := List.cons.inj ht
        exact .inl ⟨rfl, he.symm⟩
      | cons y rest =>
        obtain ⟨rfl, rfl⟩ := List.cons.inj ht
        exact .inr ⟨rest, rfl, hsuf⟩
  · rintro (⟨rfl, rfl⟩ | ⟨rest, rfl, hsuf⟩)
    · exact .inr ⟨[], rfl, List.nil_suffix⟩
    · exact .inr ⟨c.entry :: rest, rfl, hsuf⟩

theorem unreleased_snoc_iff {log : List Entry} {e : Entry} {c : Claim} :
    Unreleased (log ++ [e]) c ↔
      e = c.entry ∨ (Unreleased log c ∧ Entry.released? e ≠ some c.resource) := by
  constructor
  · rintro ⟨later, hlater, hno⟩
    rcases since_snoc_iff.mp hlater with ⟨-, he⟩ | ⟨rest, rfl, hrest⟩
    · exact .inl he
    · have hno' : ∀ e ∈ rest, Entry.released? e ≠ some c.resource := fun e he =>
        hno e (List.mem_append_left _ he)
      exact .inr ⟨⟨rest, hrest, hno'⟩, hno e (by simp)⟩
  · rintro (rfl | ⟨⟨later, hlater, hno⟩, he⟩)
    · exact ⟨[], since_snoc_iff.mpr (.inl ⟨rfl, rfl⟩), by simp⟩
    · refine ⟨later ++ [e], since_snoc_iff.mpr (.inr ⟨later, rfl, hlater⟩), ?_⟩
      intro e' he'
      rcases List.mem_append.mp he' with he' | he'
      · exact hno e' he'
      · rwa [List.mem_singleton.mp he']

/-- The locks that claims gave. -/
theorem mem_given_iff {log : List Entry} {lock : LockId} :
    lock ∈ log.filterMap Entry.given? ↔ ∃ c later, Since log c later ∧ c.lock = lock := by
  rw [List.mem_filterMap]
  constructor
  · rintro ⟨e, he, hg⟩
    obtain ⟨c, rfl, rfl⟩ := Entry.given?_eq_some_iff.mp hg
    obtain ⟨before, later, rfl⟩ := List.append_of_mem he
    exact ⟨c, later, ⟨before, rfl⟩, rfl⟩
  · rintro ⟨c, later, hlater, rfl⟩
    exact ⟨c.entry, hlater.subset List.mem_cons_self, rfl⟩

/-! ### The invariant -/

/-- Lanes and locks are what the log says. -/
structure Logged.Kept (w : Logged) : Prop where
  /-- The occupied lanes are the unreleased claims. -/
  lane : ∀ c, Unreleased w.log c ↔
    w.registry.lanes.lane? c.resource = some ⟨c.flow, c.flowType, c.lock⟩
  /-- The locks that claims gave are those up to the next one. -/
  given : ∀ l, l ∈ w.log.filterMap Entry.given? ↔ l < w.registry.lanes.nextLock
  /-- No two claims gave the same lock. -/
  distinct : (w.log.filterMap Entry.given?).Nodup
  /-- Who holds the lock of a claim or waits for it asked for it after the claim. -/
  line : ∀ c later, Since w.log c later → ∀ who ∈ (w.registry.lanes.lock c.lock).parties,
    ∃ e ∈ later, Entry.asked? e = some (c.lock, who)
  /-- Nobody holds or waits for a lock that no claim has given. -/
  untouched : ∀ l, w.registry.lanes.nextLock ≤ l → (w.registry.lanes.lock l).parties = []
  /-- Nobody waits for a lock that nobody holds. -/
  sound : ∀ l, (w.registry.lanes.lock l).Sound

namespace Logged

theorem Kept.initial : Kept {} where
  lane c := by simp [Unreleased, Since, lane?]
  given l := by simp
  distinct := List.nodup_nil
  line c later h := by simp [Since] at h
  untouched l _ := rfl
  sound _ := Lock.sound_default

/-- The next lock was not given before. -/
theorem Kept.nextLock_fresh {w : Logged} (h : Kept w) :
    w.registry.lanes.nextLock ∉ w.log.filterMap Entry.given? := fun hmem =>
  Nat.lt_irrefl _ ((h.given _).mp hmem)

/-- Whoever stands in line for the lock of a claim after one more use asked for it since. -/
theorem Kept.line_use {w : Logged} (h : Kept w) {g' : Registry} {e : Entry}
    (hm : Move w.registry g' e) {c : Claim} {later : List Entry}
    (hlater : Since (w.log ++ [e]) c later) {who : Nat}
    (hwho : who ∈ (g'.lanes.lock c.lock).parties) :
    ∃ e ∈ later, Entry.asked? e = some (c.lock, who) := by
  have hline := hm.parties h.sound hwho
  rcases since_snoc_iff.mp hlater with ⟨-, rfl⟩ | ⟨rest, rfl, hrest⟩
  · -- The claim is new, and nobody has asked for its lock.
    rcases hline with hold | ⟨-, hasked⟩
    · rw [h.untouched c.lock (Nat.le_of_eq hm.lock_of_entry.symm)] at hold
      cases hold
    · cases hasked
  · rcases hline with hold | ⟨-, hasked⟩
    · obtain ⟨e', he', hasked⟩ := h.line c rest hrest who hold
      exact ⟨e', List.mem_append_left _ he', hasked⟩
    · exact ⟨e, List.mem_append_right _ (List.mem_singleton_self e), hasked⟩

theorem Kept.use {w : Logged} (h : Kept w) (u : Use) : Kept (w.use u) := by
  have hm := move_of_use w.registry u
  refine {
    lane := ?lane
    given := ?given
    distinct := ?distinct
    line := fun c later hlater who hwho => h.line_use hm hlater hwho
    untouched := ?untouched
    sound := hm.sound h.sound }
  case lane =>
    intro c
    rw [Logged.use, unreleased_snoc_iff, h.lane c]
    exact (hm.lane? c).symm
  case given =>
    intro l
    rw [Logged.use, List.filterMap_append, List.mem_append, h.given]
    rcases hm.nextLock with ⟨hg, hn⟩ | ⟨hg, hn⟩
    · rw [hn, List.filterMap_cons_some hg, Nat.lt_succ_iff_lt_or_eq]
      simp
    · rw [hn, List.filterMap_cons_none hg]
      simp
  case distinct =>
    rw [Logged.use, List.filterMap_append]
    rcases hm.nextLock with ⟨hg, -⟩ | ⟨hg, -⟩
    · rw [List.filterMap_cons_some hg, List.filterMap_nil, ← List.concat_eq_append]
      exact h.distinct.concat h.nextLock_fresh
    · rw [List.filterMap_cons_none hg, List.filterMap_nil, List.append_nil]
      exact h.distinct
  case untouched =>
    intro l hl
    have hnext : w.registry.lanes.nextLock ≤ l := Nat.le_trans hm.nextLock_le hl
    rw [List.eq_nil_iff_forall_not_mem]
    intro who hwho
    rcases hm.parties h.sound hwho with hold | ⟨hlt, -⟩
    · rw [h.untouched l hnext] at hold
      cases hold
    · exact absurd hnext (Nat.not_le_of_lt hlt)

theorem Kept.after (uses : List Use) : Kept (Logged.after uses) := by
  induction uses using List.reverseRecOn with
  | nil => exact initial
  | append_singleton before u ih =>
    rw [Logged.after, List.foldl_concat]
    exact ih.use u

/-! ### What lanes answer next -/

/-- The log tells what the lanes answer, whatever is done next. -/
structure Told (w : Logged) : Prop where
  /-- Of each resource, one claim at most is unreleased. -/
  unique : ∀ c c', Unreleased w.log c → Unreleased w.log c' → c.resource = c'.resource → c = c'
  /-- A claim succeeds exactly if no claim of the resource is unreleased. -/
  claims : ∀ r f flowType, (∃ lock, (w.registry.use (.claim r f flowType)).2 = .claimed lock) ↔
    ¬ ∃ c, Unreleased w.log c ∧ c.resource = r
  /-- Otherwise it is a conflict with the flow that made that claim, and changes nothing. -/
  conflicts : ∀ c f flowType, Unreleased w.log c →
    w.registry.use (.claim c.resource f flowType) =
      (w.registry, .refused (.conflict c.resource c.flow c.flowType))
  /-- The flow that made the unreleased claim can release it, and no other. -/
  releases : ∀ r f, (w.registry.use (.release r f)).2 = .done true ↔ ClaimedBy w.log r f
  /-- A release by another flow changes nothing. -/
  keeps : ∀ r f, ¬ ClaimedBy w.log r f →
    w.registry.use (.release r f) = (w.registry, .done false)
  /-- What is to be done under the claim of a flow is done, once, if it made the unreleased one. -/
  acts : ∀ r f act, ClaimedBy w.log r f → w.registry.use (.withHolder r f act) =
    ({ w.registry with statuses := act w.registry.statuses }, .done true)
  /-- For another flow it is not done. -/
  refrains : ∀ r f act, ¬ ClaimedBy w.log r f →
    w.registry.use (.withHolder r f act) = (w.registry, .done false)
  /-- Whoever looks is handed the lock that came with the unreleased claim. -/
  looks : ∀ r f lock, (w.registry.use (.look r)).2 = .lane (some (f, lock)) ↔
    ∃ c, Unreleased w.log c ∧ c.resource = r ∧ c.flow = f ∧ c.lock = lock
  /-- There are as many occupied lanes as unreleased claims. -/
  counts : {c | Unreleased w.log c}.encard = w.registry.lanes.size
  /-- Each claim came with a lock of its own. -/
  ownLocks : (w.log.filterMap Entry.given?).Nodup
  /-- It is at hand from the claim on, also after the release. -/
  atHand : ∀ lock who, (w.registry.use (.ask lock who)).2 = .done true ↔
    ∃ c later, Since w.log c later ∧ c.lock = lock
  /-- Whoever holds a lock holds it until they let go, whatever happens to the lane. -/
  lasting : ∀ u lock who, (w.registry.lanes.lock lock).holder = some who →
    u ≠ .letGo lock who → ((w.registry.use u).1.lanes.lock lock).holder = some who
  /-- Who holds the lock of a claim or waits for it asked for it after the claim. -/
  line : ∀ c later, Since w.log c later → ∀ who ∈ (w.registry.lanes.lock c.lock).parties,
    ∃ e ∈ later, Entry.asked? e = some (c.lock, who)
  /-- So it can be taken as long as nobody has asked for it, whoever still holds a lock of an earlier
      claim of the resource. -/
  free : ∀ c later, Since w.log c later →
    (∀ e ∈ later, ∀ who, Entry.asked? e ≠ some (c.lock, who)) →
    ∀ who, (w.registry.use (.tryTake c.lock who)).2 = .done true

variable {w : Logged} {r : ResourceId} {f : FlowId}

theorem Kept.lane?_eq_some_iff (h : Kept w) {lane : Lane} :
    w.registry.lanes.lane? r = some lane ↔
      Unreleased w.log ⟨r, lane.flow, lane.flowType, lane.lock⟩ :=
  (h.lane ⟨r, lane.flow, lane.flowType, lane.lock⟩).symm

theorem Kept.lane?_eq_none_iff (h : Kept w) :
    w.registry.lanes.lane? r = none ↔ ¬ ∃ c, Unreleased w.log c ∧ c.resource = r := by
  constructor
  · rintro hnone ⟨c, hc, rfl⟩
    rw [(h.lane c).mp hc] at hnone
    cases hnone
  · intro hno
    rw [Option.eq_none_iff_forall_ne_some]
    intro lane hlane
    exact hno ⟨_, h.lane?_eq_some_iff.mp hlane, rfl⟩

theorem Kept.holds_iff (h : Kept w) : w.registry.lanes.holds r f = true ↔ ClaimedBy w.log r f := by
  rw [Lanes.holds_iff]
  constructor
  · rintro ⟨lane, hlane, rfl⟩
    exact ⟨_, h.lane?_eq_some_iff.mp hlane, rfl, rfl⟩
  · rintro ⟨c, hc, rfl, rfl⟩
    exact ⟨_, (h.lane c).mp hc, rfl⟩

theorem Kept.not_holds (h : Kept w) (hno : ¬ ClaimedBy w.log r f) :
    w.registry.lanes.holds r f = false :=
  Bool.eq_false_iff.mpr (h.holds_iff.not.mpr hno)

theorem Kept.unique (h : Kept w) {c c' : Claim} (hc : Unreleased w.log c)
    (hc' : Unreleased w.log c') (hr : c.resource = c'.resource) : c = c' := by
  have hlane := (h.lane c).mp hc
  rw [hr, (h.lane c').mp hc'] at hlane
  obtain ⟨r, f, flowType, l⟩ := c
  obtain ⟨r', f', flowType', l'⟩ := c'
  cases hlane
  obtain rfl : r = r' := hr
  rfl

/-- Each resource with an occupied lane has one unreleased claim. -/
theorem Kept.encard (h : Kept w) :
    {c | Unreleased w.log c}.encard = w.registry.lanes.size := by
  have hinj : {c | Unreleased w.log c}.InjOn Claim.resource := fun c hc c' hc' => h.unique hc hc'
  have himage : Claim.resource '' {c | Unreleased w.log c} =
      {r | (w.registry.lanes.lane? r).isSome} := by
    ext r
    simp only [Set.mem_image, Set.mem_ofPred_eq, ← Option.ne_none_iff_isSome, ne_eq,
      h.lane?_eq_none_iff, not_not]
  rw [← hinj.encard_image, himage]
  exact Table.encard_keys _

theorem Kept.atHand_iff (h : Kept w) {lock : LockId} :
    lock < w.registry.lanes.nextLock ↔ ∃ c later, Since w.log c later ∧ c.lock = lock := by
  rw [← h.given, mem_given_iff]

/-- The lock of a claim is free as long as nobody has asked for it. -/
theorem Kept.isFree (h : Kept w) {c : Claim} {later : List Entry} (hlater : Since w.log c later)
    (hno : ∀ e ∈ later, ∀ who, Entry.asked? e ≠ some (c.lock, who)) :
    (w.registry.lanes.lock c.lock).isFree = true := by
  rw [Lock.isFree, Option.isNone_iff_eq_none, Option.eq_none_iff_forall_ne_some]
  intro who hholder
  obtain ⟨e, he, hasked⟩ := h.line c later hlater who (Lock.mem_parties_of_holder hholder)
  exact hno e he who hasked

theorem Kept.told (h : Kept w) : Told w where
  unique _ _ := h.unique
  claims r f flowType := by
    rw [← h.lane?_eq_none_iff]
    cases hlane : w.registry.lanes.lane? r with
    | none => simp [Registry.use_claim_of_free hlane f flowType]
    | some lane => simp [Registry.use_claim_of_occupied hlane f flowType]
  conflicts c f flowType hc := Registry.use_claim_of_occupied ((h.lane c).mp hc) f flowType
  releases r f := by
    rw [← h.holds_iff]
    simp [Registry.use]
  keeps r f hno := by
    have hh := h.not_holds hno
    simp only [Registry.use, hh, Registry.releaseLane_of_not_holds hh]
  acts r f act hc := by
    simp only [Registry.use, Registry.withHolder, h.holds_iff.mpr hc, if_true]
  refrains r f act hno := by
    simp only [Registry.use, Registry.withHolder, h.not_holds hno, Bool.false_eq_true, if_false]
  looks r f lock := by
    simp only [Registry.use, Answer.lane.injEq, Option.map_eq_some_iff, Prod.mk.injEq]
    constructor
    · rintro ⟨lane, hlane, rfl, rfl⟩
      exact ⟨_, h.lane?_eq_some_iff.mp hlane, rfl, rfl, rfl⟩
    · rintro ⟨c, hc, rfl, rfl, rfl⟩
      exact ⟨_, (h.lane c).mp hc, rfl, rfl⟩
  counts := h.encard
  ownLocks := h.distinct
  atHand lock who := by
    rw [← h.atHand_iff, Registry.use]
    by_cases hgiven : lock < w.registry.lanes.nextLock <;> simp [hgiven]
  lasting u lock who hh hu := by
    rcases (move_of_use w.registry u).holder hh with hh | he
    · exact hh
    · exact absurd (congrArg Prod.fst he) hu
  line := h.line
  free c later hlater hno who := by
    have hgiven : c.lock < w.registry.lanes.nextLock := h.atHand_iff.mpr ⟨c, later, hlater, rfl⟩
    simp only [Registry.use, hgiven, h.isFree hlater hno, and_self, if_true]

end Logged

/-- Whatever was done with the lanes of a new registry, the log tells what they answer next. -/
theorem told_by_log (uses : List Use) : (Logged.after uses).Told := (Logged.Kept.after uses).told

/-- Someone holds the lock of a lane that is released. The next occupant has another, and it is
    free. -/
example : let w := Logged.after [.claim 7 (.opened 0) "upscale", .tryTake 0 1,
      .release 7 (.opened 0), .claim 7 (.opened 1) "upscale"]
    (w.registry.lanes.lock 0).holder = some 1 ∧
      (w.registry.use (.look 7)).2 = .lane (some (.opened 1, 1)) ∧
      (w.registry.use (.tryTake 1 2)).2 = .done true :=
  ⟨rfl, rfl, rfl⟩

end Lanes

end ResourceFlow
