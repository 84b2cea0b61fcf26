import ResourceFlow.Proofs.Engine.Instances
/-! # Using lanes

  Lanes are used in a few ways: a flow claims the lane of a resource, releases
  it, or does something to the records while it is sure to occupy it; someone
  looks who occupies a lane; someone asks for a lock, takes it if it is free,
  or lets go of it (`Registry.use`). A lock is at hand for whoever was handed
  it, by a claim or a look, and it outlives the lane that it came with.

  `Lanes.Move` says all that a use can do to lanes and locks, and what its
  entry in a log shows of it. The lemmas about it say what a use does to each
  view: the lanes, the number of the next lock, who stands in line for a lock,
  and who holds it.
-/

namespace ResourceFlow

/-! ### Using lanes -/

namespace Lanes

/-- What is done with the lanes of a registry. -/
inductive Use where
  /-- A flow claims the lane of a resource. -/
  | claim (r : ResourceId) (f : FlowId) (flowType : String)
  /-- A flow releases the lane of a resource. -/
  | release (r : ResourceId) (f : FlowId)
  /-- Something is done to the records, if the flow occupies the lane of the resource. -/
  | withHolder (r : ResourceId) (f : FlowId)
      (act : Table ResourceId RunStatus → Table ResourceId RunStatus)
  /-- Someone looks who occupies the lane of a resource. -/
  | look (r : ResourceId)
  /-- Someone asks for a lock, and waits for it if need be. -/
  | ask (lock : LockId) (who : Nat)
  /-- Someone takes a lock if it is free. -/
  | tryTake (lock : LockId) (who : Nat)
  /-- Someone lets go of a lock, if they hold it. -/
  | letGo (lock : LockId) (who : Nat)

/-- What it answers. -/
inductive Answer where
  /-- The lane is claimed, and comes with this lock. -/
  | claimed (lock : LockId)
  /-- It is refused. -/
  | refused (error : FlowError)
  /-- The flow that occupies the lane and the lock that came with it, if it is occupied. -/
  | lane (occupant : Option (FlowId × LockId))
  /-- Whether it was done. -/
  | done (yes : Bool)

/-- What was done, and what it answered. -/
abbrev Entry := Use × Answer

end Lanes

/-- What is done with the lanes, and what it answers. -/
def Registry.use (g : Registry) : Lanes.Use → Registry × Lanes.Answer
  | .claim r f flowType =>
    match g.claim r f flowType with
    | .error e => (g, .refused e)
    | .ok g' => (g', .claimed g.lanes.nextLock)
  | .release r f => (g.releaseLane r f, .done (g.lanes.holds r f))
  | .withHolder r f act =>
    match g.withHolder r f fun g => { g with statuses := act g.statuses } with
    | none => (g, .done false)
    | some g' => (g', .done true)
  | .look r => (g, .lane ((g.lanes.lane? r).map fun lane => (lane.flow, lane.lock)))
  -- A lock is at hand for whoever was handed it, before or after the lane was released. One
  -- that no claim has given is at hand for nobody.
  | .ask lock who =>
    if lock < g.lanes.nextLock then (g.askLock lock who, .done true) else (g, .done false)
  | .tryTake lock who =>
    if lock < g.lanes.nextLock ∧ (g.lanes.lock lock).isFree then
      (g.askLock lock who, .done true)
    else (g, .done false)
  | .letGo lock who =>
    if g.lanes.isHeldBy lock who then (g.passLock lock, .done true) else (g, .done false)

namespace Registry

variable {g : Registry} {r : ResourceId}

theorem use_claim_of_free (h : g.lanes.lane? r = none) (f : FlowId) (flowType : String) :
    (g.use (.claim r f flowType)).2 = .claimed g.lanes.nextLock := by
  simp only [use, claim, Lanes.claim, h]

theorem use_claim_of_occupied {lane : Lane} (h : g.lanes.lane? r = some lane) (f : FlowId)
    (flowType : String) :
    g.use (.claim r f flowType) = (g, .refused (.conflict r lane.flow lane.flowType)) := by
  simp only [use, claim, Lanes.claim, h]

theorem releaseLane_of_not_holds {f : FlowId} (h : g.lanes.holds r f = false) :
    g.releaseLane r f = g := by
  simp [releaseLane, Lanes.release, h]

end Registry

namespace Lanes

/-! ### Entries -/

/-- A claim that succeeded. -/
structure Claim where
  /-- The resource whose lane was claimed. -/
  resource : ResourceId
  /-- The flow that claimed it. -/
  flow : FlowId
  /-- The type of that flow. -/
  flowType : String
  /-- The lock that came with it. -/
  lock : LockId

/-- How a claim stands in the log. -/
def Claim.entry (c : Claim) : Entry := (.claim c.resource c.flow c.flowType, .claimed c.lock)

namespace Entry

/-- The lock that a claim gave. -/
def given? : Entry → Option LockId
  | (.claim _ _ _, .claimed lock) => some lock
  | _ => none

/-- The resource whose lane was released. -/
def released? : Entry → Option ResourceId
  | (.release r _, .done true) => some r
  | _ => none

/-- The lock that someone asked for or took. -/
def asked? : Entry → Option (LockId × Nat)
  | (.ask lock who, .done true) => some (lock, who)
  | (.tryTake lock who, .done true) => some (lock, who)
  | _ => none

end Entry

theorem Claim.entry_inj {c c' : Claim} : c.entry = c'.entry ↔ c = c' := by
  obtain ⟨r, f, flowType, l⟩ := c
  obtain ⟨r', f', flowType', l'⟩ := c'
  simp [entry, and_assoc]

theorem Claim.ne_entry_of_given? {e : Entry} (h : Entry.given? e = none) (c : Claim) :
    e ≠ c.entry := by
  rintro rfl
  cases h

theorem Entry.given?_eq_some_iff {e : Entry} {lock : LockId} :
    given? e = some lock ↔ ∃ c : Claim, e = c.entry ∧ c.lock = lock := by
  constructor
  · intro h
    unfold given? at h
    split at h
    · rename_i r f flowType l
      cases h
      exact ⟨⟨r, f, flowType, lock⟩, rfl, rfl⟩
    · cases h
  · rintro ⟨c, rfl, rfl⟩
    rfl

/-! ### What a use does -/

/-- The entry neither claims nor releases a lane, and nobody asks for a lock. -/
def Entry.Idle (e : Entry) : Prop :=
  Entry.given? e = none ∧ Entry.released? e = none ∧ Entry.asked? e = none

/-- What a use does to the lanes and their locks, and what it logs. -/
inductive Move (g : Registry) : Registry → Entry → Prop where
  /-- A free lane is claimed, with the next lock. -/
  | claims {g' : Registry} {c : Claim} (hlock : c.lock = g.lanes.nextLock)
      (hfree : g.lanes.lane? c.resource = none)
      (hlanes : ∀ r, g'.lanes.lane? r =
        if r = c.resource then some ⟨c.flow, c.flowType, c.lock⟩ else g.lanes.lane? r)
      (hlocks : ∀ l, g'.lanes.lock l = g.lanes.lock l)
      (hnext : g'.lanes.nextLock = g.lanes.nextLock + 1) : Move g g' c.entry
  /-- The occupant releases its lane. -/
  | releases {r : ResourceId} {f : FlowId} (hholds : g.lanes.holds r f = true) :
      Move g (g.releaseLane r f) (.release r f, .done true)
  /-- Someone asks for a lock that a claim has given. -/
  | asks {lock : LockId} {who : Nat} {e : Entry} (hgiven : lock < g.lanes.nextLock)
      (hgives : Entry.given? e = none) (hreleases : Entry.released? e = none)
      (hasks : Entry.asked? e = some (lock, who)) : Move g (g.askLock lock who) e
  /-- The holder of a lock lets go. -/
  | passes {lock : LockId} {who : Nat} (hholder : (g.lanes.lock lock).holder = some who) :
      Move g (g.passLock lock) (.letGo lock who, .done true)
  /-- Lanes and locks stay as they are. -/
  | stays {g' : Registry} {e : Entry} (hlanes : g'.lanes = g.lanes) (he : Entry.Idle e) :
      Move g g' e

theorem move_of_use (g : Registry) (u : Use) : Move g (g.use u).1 (u, (g.use u).2) := by
  cases u with
  | claim r f flowType =>
    simp only [Registry.use]
    split
    · exact .stays rfl ⟨rfl, rfl, rfl⟩
    · rename_i g' hg
      obtain ⟨lanes, hc, rfl⟩ := Registry.claim_eq_ok_iff.mp hg
      exact .claims (c := ⟨r, f, flowType, g.lanes.nextLock⟩) rfl (lane?_eq_none_of_claim hc)
        (lane?_claim hc) (fun l => (lock_claim hc l).1) (lock_claim hc 0).2
  | release r f =>
    simp only [Registry.use]
    cases hh : g.lanes.holds r f with
    | true => exact .releases hh
    | false =>
      rw [Registry.releaseLane_of_not_holds hh]
      exact .stays rfl ⟨rfl, rfl, rfl⟩
  | withHolder r f act =>
    simp only [Registry.use]
    split
    · exact .stays rfl ⟨rfl, rfl, rfl⟩
    · rename_i g' hg
      obtain ⟨-, rfl⟩ := Registry.withHolder_eq_some_iff.mp hg
      exact .stays rfl ⟨rfl, rfl, rfl⟩
  | look r => exact .stays rfl ⟨rfl, rfl, rfl⟩
  | ask lock who =>
    simp only [Registry.use]
    split
    · rename_i hgiven
      exact .asks hgiven rfl rfl rfl
    · exact .stays rfl ⟨rfl, rfl, rfl⟩
  | tryTake lock who =>
    simp only [Registry.use]
    split
    · rename_i hgiven
      exact .asks hgiven.1 rfl rfl rfl
    · exact .stays rfl ⟨rfl, rfl, rfl⟩
  | letGo lock who =>
    simp only [Registry.use]
    split
    · rename_i hheld
      exact .passes (isHeldBy_iff.mp hheld)
    · exact .stays rfl ⟨rfl, rfl, rfl⟩

namespace Move

variable {g g' : Registry} {e : Entry}

/-- The occupied lanes change as the unreleased claims do. -/
theorem lane? (h : Move g g' e) (c : Claim) :
    g'.lanes.lane? c.resource = some ⟨c.flow, c.flowType, c.lock⟩ ↔
      e = c.entry ∨ (g.lanes.lane? c.resource = some ⟨c.flow, c.flowType, c.lock⟩ ∧
        Entry.released? e ≠ some c.resource) := by
  cases h with
  | @claims _ d hlock hfree hlanes =>
    rw [hlanes, Claim.entry_inj]
    by_cases hr : c.resource = d.resource
    · -- The lane was free, so that no other claim of the resource is unreleased.
      rw [if_pos hr, hr, hfree]
      obtain ⟨r, f, flowType, l⟩ := c
      obtain ⟨r', f', flowType', l'⟩ := d
      obtain rfl : r = r' := hr
      simp
    · have hne : d ≠ c := fun hd => hr (hd ▸ rfl)
      simp [hr, hne, Claim.entry, Entry.released?]
  | @releases r f hholds =>
    have hne := Claim.ne_entry_of_given? (e := (.release r f, .done true)) rfl c
    change (g.lanes.release r f).lane? c.resource = _ ↔ _
    rw [lane?_release]
    by_cases hr : c.resource = r
    · simp [hr, hholds, hne, Entry.released?]
    · simp [hr, hne, Entry.released?, eq_comm (a := r)]
  | asks hgiven hgives hreleases hasks =>
    simp [Claim.ne_entry_of_given? hgives c, hreleases]
  | @passes lock who hholder =>
    have hne := Claim.ne_entry_of_given? (e := (.letGo lock who, .done true)) rfl c
    simp [hne, Entry.released?]
  | stays hlanes he =>
    simp [hlanes, Claim.ne_entry_of_given? he.1 c, he.2.1]

/-- A claim gives the next lock, and nothing else gives any. -/
theorem nextLock (h : Move g g' e) :
    (Entry.given? e = some g.lanes.nextLock ∧ g'.lanes.nextLock = g.lanes.nextLock + 1) ∨
    (Entry.given? e = none ∧ g'.lanes.nextLock = g.lanes.nextLock) := by
  cases h with
  | claims hlock hfree hlanes hlocks hnext => exact .inl ⟨congrArg some hlock, hnext⟩
  | releases hholds => exact .inr ⟨rfl, nextLock_release ..⟩
  | asks hgiven hgives => exact .inr ⟨hgives, rfl⟩
  | passes hholder => exact .inr ⟨rfl, rfl⟩
  | stays hlanes he => exact .inr ⟨he.1, by rw [hlanes]⟩

theorem nextLock_le (h : Move g g' e) : g.lanes.nextLock ≤ g'.lanes.nextLock := by
  rcases h.nextLock with ⟨-, hn⟩ | ⟨-, hn⟩
  · exact hn ▸ Nat.le_succ _
  · exact Nat.le_of_eq hn.symm

/-- The lock of a claim that is made is the next one. -/
theorem lock_of_entry {c : Claim} (h : Move g g' c.entry) : c.lock = g.lanes.nextLock := by
  rcases h.nextLock with ⟨hg, -⟩ | ⟨hg, -⟩
  · exact Option.some.inj hg
  · cases hg

/-- A lock stays as it is, or someone asks for it, or its holder lets go. -/
theorem lock (h : Move g g' e) (l : LockId) :
    g'.lanes.lock l = g.lanes.lock l ∨
    (∃ who, l < g.lanes.nextLock ∧ Entry.asked? e = some (l, who) ∧
      g'.lanes.lock l = (g.lanes.lock l).ask who) ∨
    (∃ who, (g.lanes.lock l).holder = some who ∧ e = (.letGo l who, .done true) ∧
      g'.lanes.lock l = (g.lanes.lock l).pass) := by
  cases h with
  | claims hlock hfree hlanes hlocks => exact .inl (hlocks l)
  | releases hholds => exact .inl (lock_release ..)
  | @asks i who e hgiven hgives hreleases hasks =>
    rw [Registry.lanes_askLock, lock_ask]
    by_cases hl : l = i
    · subst hl
      exact .inr (.inl ⟨who, hgiven, hasks, if_pos rfl⟩)
    · exact .inl (if_neg hl)
  | @passes i who hholder =>
    rw [Registry.lanes_passLock, lock_pass]
    by_cases hl : l = i
    · subst hl
      exact .inr (.inr ⟨who, hholder, rfl, if_pos rfl⟩)
    · exact .inl (if_neg hl)
  | stays hlanes he => exact .inl (by rw [hlanes])

/-- Only who asks for a lock comes to stand in line for it. -/
theorem parties (h : Move g g' e) (hs : ∀ l, (g.lanes.lock l).Sound) {l : LockId} {who : Nat}
    (hwho : who ∈ (g'.lanes.lock l).parties) : who ∈ (g.lanes.lock l).parties ∨
      (l < g.lanes.nextLock ∧ Entry.asked? e = some (l, who)) := by
  rcases h.lock l with hl | ⟨u, hgiven, hasked, hl⟩ | ⟨u, hholder, -, hl⟩ <;> rw [hl] at hwho
  · exact .inl hwho
  · rw [Lock.parties_ask (hs l), List.mem_append, List.mem_singleton] at hwho
    rcases hwho with hwho | rfl
    · exact .inl hwho
    · exact .inr ⟨hgiven, hasked⟩
  · rw [Lock.parties_pass hholder]
    exact .inl (List.mem_cons_of_mem u hwho)

/-- Nobody comes to wait for a lock that nobody holds. -/
theorem sound (h : Move g g' e) (hs : ∀ l, (g.lanes.lock l).Sound) (l : LockId) :
    (g'.lanes.lock l).Sound := by
  rcases h.lock l with hl | ⟨u, -, -, hl⟩ | ⟨u, -, -, hl⟩ <;> rw [hl]
  · exact hs l
  · exact Lock.sound_ask _ u
  · exact Lock.sound_pass _

/-- Who holds a lock holds it until they let go. -/
theorem holder (h : Move g g' e) {l : LockId} {who : Nat}
    (hh : (g.lanes.lock l).holder = some who) :
    (g'.lanes.lock l).holder = some who ∨ e = (.letGo l who, .done true) := by
  rcases h.lock l with hl | ⟨u, -, -, hl⟩ | ⟨u, hholder, he, -⟩
  · exact .inl (hl ▸ hh)
  · exact .inl (hl ▸ Lock.holder_ask hh u)
  · obtain rfl := Option.some.inj (hh.symm.trans hholder)
    exact .inr he

end Move

end Lanes

end ResourceFlow
