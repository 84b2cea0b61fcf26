import Mathlib.Data.List.Basic
import ResourceFlow.Proofs.Engine.Instances
/-! # Registries that agree on one resource

  Two registries mirror each other on a resource if they show the same of it:
  what is recorded of it, its lane, and the queues of the locks that came with
  its lanes. Of other resources they may show anything. Tasks and locks have
  other numbers on the two sides (`Numbering`), since other resources use up
  numbers too.

  Each operation comes with two lemmas: applied on both sides it keeps the
  mirror, if it is one for the resource, and so it does applied on the first
  side alone (`_left`), if it is one for another.
-/

namespace ResourceFlow

variable {V : Vocabulary} {I : Interface}

/-! ### Scopes and numberings -/

/-- One resource among others. -/
structure Scope (V : Vocabulary) where
  /-- The resource. -/
  resource : ResourceId
  /-- The resource on which a flow is, if it is ever opened. -/
  on : ResourceId → FlowId → Prop
  /-- The events of the flows on the resource. -/
  events : V.Event → Prop
  /-- An event that carries the resource is one of them. -/
  carries : ∀ event, event.resourceId = resource → events event

/-- The flow is on the resource. -/
def Scope.Here (S : Scope V) (f : FlowId) : Prop := S.on S.resource f

/-- The flow is on another resource. -/
def Scope.Elsewhere (S : Scope V) (f : FlowId) : Prop := ∃ r, r ≠ S.resource ∧ S.on r f

theorem Scope.ne_of_here {S : Scope V} {f g : FlowId} (hg : S.Here g) (hf : ¬ S.Here f) :
    g ≠ f := by
  rintro rfl
  exact hf hg

/-- The tasks and the locks of one resource, in the order in which they came to be. -/
structure Numbering where
  /-- The tasks. -/
  tasks : List TaskId := []
  /-- The locks. -/
  locks : List LockId := []

namespace Numbering

/-- The number of a task among those of the resource. -/
def task (N : Numbering) (t : TaskId) : TaskId := N.tasks.idxOf t

/-- The number of a lock among those of the resource. -/
def lock (N : Numbering) (l : LockId) : LockId := N.locks.idxOf l

/-- One more task. -/
def addTask (N : Numbering) (t : TaskId) : Numbering := { N with tasks := N.tasks ++ [t] }

/-- One more lock. -/
def addLock (N : Numbering) (l : LockId) : Numbering := { N with locks := N.locks ++ [l] }

variable {N : Numbering}

theorem task_inj {t : TaskId} (h : t ∈ N.tasks) (u : TaskId) : N.task u = N.task t ↔ u = t := by
  rw [eq_comm, eq_comm (a := u)]
  exact List.idxOf_inj h

theorem lock_inj {l : LockId} (h : l ∈ N.locks) (k : LockId) : N.lock k = N.lock l ↔ k = l := by
  rw [eq_comm, eq_comm (a := k)]
  exact List.idxOf_inj h

theorem task_addTask {t : TaskId} (h : t ∈ N.tasks) (u : TaskId) :
    (N.addTask u).task t = N.task t :=
  List.idxOf_append_of_mem h

theorem task_addTask_self {t : TaskId} (h : t ∉ N.tasks) :
    (N.addTask t).task t = N.tasks.length := by
  unfold addTask task
  rw [List.idxOf_append_of_notMem h]
  simp

theorem lock_addLock {l : LockId} (h : l ∈ N.locks) (k : LockId) :
    (N.addLock k).lock l = N.lock l :=
  List.idxOf_append_of_mem h

theorem lock_addLock_self {l : LockId} (h : l ∉ N.locks) :
    (N.addLock l).lock l = N.locks.length := by
  unfold addLock lock
  rw [List.idxOf_append_of_notMem h]
  simp

end Numbering

/-! ### Locks -/

namespace Lock

/-- The lock with other numbers for those who take part. -/
def renumber (n : Nat → Nat) (l : Lock) : Lock where
  holder := l.holder.map n
  queue := l.queue.map n

variable (n : Nat → Nat)

theorem renumber_ask (l : Lock) (who : Nat) :
    (l.ask who).renumber n = (l.renumber n).ask (n who) := by
  unfold ask renumber
  cases l.holder <;> simp

theorem renumber_pass (l : Lock) : l.pass.renumber n = (l.renumber n).pass := by
  unfold pass renumber
  cases l.queue <;> simp

/-- Only the numbers of those who take part matter. -/
theorem renumber_congr {n n' : Nat → Nat} {l : Lock} (h : ∀ t ∈ l.parties, n' t = n t) :
    l.renumber n' = l.renumber n := by
  unfold parties at h
  unfold renumber
  congr 1
  · exact Option.map_congr fun t ht => h t (by simp [Option.mem_def.mp ht])
  · exact List.map_congr_left fun t ht => h t (by simp [ht])

end Lock

/-! ### Registries -/

/-- The lane with another number for its lock. -/
def Lane.renumber (N : Numbering) (lane : Lane) : Lane := { lane with lock := N.lock lane.lock }

namespace Registry

variable {S : Scope V} {N : Numbering} {g g' : Registry} {f : FlowId} {r : ResourceId} {l : LockId}

/-- The registries agree on the resource. -/
structure Mirrors (S : Scope V) (N : Numbering) (g g' : Registry) : Prop where
  /-- The same is recorded of the resource. -/
  status : g'.status? S.resource = g.status? S.resource
  /-- The same flow occupies its lane. -/
  lane : g'.lanes.lane? S.resource = (g.lanes.lane? S.resource).map (·.renumber N)
  /-- The locks that came with its lanes have the same queues. -/
  lock : ∀ l ∈ N.locks, g'.lanes.lock (N.lock l) = (g.lanes.lock l).renumber N.task
  /-- The lock of a lane is numbered if the lane is that of the resource. -/
  owned : ∀ r lane, g.lanes.lane? r = some lane → (lane.lock ∈ N.locks ↔ r = S.resource)
  /-- The numbered locks have been given out. -/
  given : ∀ l ∈ N.locks, l < g.lanes.nextLock
  /-- The second registry gave out no others. -/
  next : g'.lanes.nextLock = N.locks.length

namespace Mirrors

/-! What the two registries show alike. -/

theorem isCancelled (h : Mirrors S N g g') :
    g'.isCancelled S.resource = g.isCancelled S.resource := by
  unfold Registry.isCancelled
  rw [h.status]

theorem holds (h : Mirrors S N g g') (f : FlowId) :
    g'.lanes.holds S.resource f = g.lanes.holds S.resource f := by
  unfold Lanes.holds Lanes.activeFlow?
  rw [h.lane, Option.map_map]
  rfl

theorem isHeldBy (h : Mirrors S N g g') (hl : l ∈ N.locks) {t : TaskId} (ht : t ∈ N.tasks) :
    g'.lanes.isHeldBy (N.lock l) (N.task t) = g.lanes.isHeldBy l t := by
  unfold Lanes.isHeldBy
  rw [h.lock l hl]
  cases hh : (g.lanes.lock l).holder with
  | none => simp [Lock.renumber, hh]
  | some u => simp [Lock.renumber, hh, Numbering.task_inj ht]

/-! Asking for a lock and passing it on. -/

theorem askLock (h : Mirrors S N g g') (hl : l ∈ N.locks) (t : TaskId) :
    Mirrors S N (g.askLock l t) (g'.askLock (N.lock l) (N.task t)) where
  __ := h
  lock k hk := by
    rw [lanes_askLock, lanes_askLock, Lanes.lock_ask, Lanes.lock_ask, h.lock k hk]
    simp only [Numbering.lock_inj hl]
    split
    · exact (Lock.renumber_ask ..).symm
    · rfl

theorem askLock_left (h : Mirrors S N g g') (hl : l ∉ N.locks) (t : TaskId) :
    Mirrors S N (g.askLock l t) g' where
  __ := h
  lock k hk := by
    have hne : k ≠ l := fun he => hl (he ▸ hk)
    rw [lanes_askLock, Lanes.lock_ask, if_neg hne]
    exact h.lock k hk

theorem passLock (h : Mirrors S N g g') (hl : l ∈ N.locks) :
    Mirrors S N (g.passLock l) (g'.passLock (N.lock l)) where
  __ := h
  lock k hk := by
    rw [lanes_passLock, lanes_passLock, Lanes.lock_pass, Lanes.lock_pass, h.lock k hk]
    simp only [Numbering.lock_inj hl]
    split
    · exact (Lock.renumber_pass ..).symm
    · rfl

theorem passLock_left (h : Mirrors S N g g') (hl : l ∉ N.locks) :
    Mirrors S N (g.passLock l) g' where
  __ := h
  lock k hk := by
    have hne : k ≠ l := fun he => hl (he ▸ hk)
    rw [lanes_passLock, Lanes.lock_pass, if_neg hne]
    exact h.lock k hk

/-! Marking a resource. -/

theorem markCancelled (h : Mirrors S N g g') :
    Mirrors S N (g.markCancelled S.resource) (g'.markCancelled S.resource) where
  __ := h
  status := by rw [status?_markCancelled, status?_markCancelled, if_pos rfl, if_pos rfl]

theorem markCancelled_left (h : Mirrors S N g g') (hr : r ≠ S.resource) :
    Mirrors S N (g.markCancelled r) g' where
  __ := h
  status := by
    rw [status?_markCancelled, if_neg hr.symm]
    exact h.status

/-! Ending a flow. -/

theorem discharge (h : Mirrors S N g g') (f : FlowId) :
    Mirrors S N (g.discharge S.resource f) (g'.discharge S.resource f) where
  status := by rw [status?_discharge, status?_discharge, h.holds, h.status]
  lane := by
    rw [lane?_discharge, lane?_discharge, h.holds, h.lane]
    split <;> rfl
  lock k hk := by
    rw [lock_discharge, lock_discharge]
    exact h.lock k hk
  owned r lane hl := by
    rw [lane?_discharge] at hl
    split at hl
    · cases hl
    · exact h.owned r lane hl
  given k hk := by
    rw [nextLock_discharge]
    exact h.given k hk
  next := by
    rw [nextLock_discharge]
    exact h.next

theorem discharge_left (h : Mirrors S N g g') (hr : r ≠ S.resource) (f : FlowId) :
    Mirrors S N (g.discharge r f) g' where
  status := by
    rw [status?_discharge, if_neg fun hc => hr hc.1.symm]
    exact h.status
  lane := by
    rw [lane?_discharge, if_neg fun hc => hr hc.1.symm]
    exact h.lane
  lock k hk := by
    rw [lock_discharge]
    exact h.lock k hk
  owned r' lane hl := by
    rw [lane?_discharge] at hl
    split at hl
    · cases hl
    · exact h.owned r' lane hl
  given k hk := by
    rw [nextLock_discharge]
    exact h.given k hk
  next := h.next

/-! Opening a flow, and more tasks. -/

/-- A flow that is opened on the resource gets a lock of its own on both sides. -/
theorem enroll (h : Mirrors S N g g') {g₁ g₁' : Registry} {flowType : String}
    (he : Enrolled g g₁ S.resource f flowType) (he' : Enrolled g' g₁' S.resource f flowType)
    (hg : ∀ r lane, g.lanes.lane? r = some lane → lane.lock < g.lanes.nextLock)
    (hl : g.lanes.lock g.lanes.nextLock = {}) (hl' : g'.lanes.lock g'.lanes.nextLock = {}) :
    Mirrors S (N.addLock g.lanes.nextLock) g₁ g₁' := by
  have hnew : g.lanes.nextLock ∉ N.locks := fun hm => Nat.lt_irrefl _ (h.given _ hm)
  have hmem : ∀ l, l ∈ (N.addLock g.lanes.nextLock).locks ↔
      l ∈ N.locks ∨ l = g.lanes.nextLock := by
    intro l
    simp [Numbering.addLock]
  refine ⟨?_, ?_, ?_, ?_, ?_, ?_⟩
  · rw [he.status, he'.status, if_pos rfl, if_pos rfl]
  · rw [he.lane, he'.lane, if_pos rfl, if_pos rfl, h.next, Option.map_some, Lane.renumber,
      Numbering.lock_addLock_self hnew]
  · intro l hm
    rw [he.lock, he'.lock]
    rcases (hmem l).mp hm with hm | rfl
    · rw [Numbering.lock_addLock hm]
      exact h.lock l hm
    · rw [Numbering.lock_addLock_self hnew, ← h.next, hl, hl']
      rfl
  · intro r lane hlane
    rw [he.lane] at hlane
    rw [hmem]
    split at hlane
    · rename_i hr
      cases hlane
      exact iff_of_true (.inr rfl) hr
    · rename_i hr
      refine iff_of_false ?_ hr
      rintro (hm | hm)
      · exact hr ((h.owned r lane hlane).mp hm)
      · exact Nat.ne_of_lt (hg r lane hlane) hm
  · intro l hm
    rw [he.nextLock]
    rcases (hmem l).mp hm with hm | rfl
    · exact Nat.lt_succ_of_lt (h.given l hm)
    · exact Nat.lt_succ_self _
  · rw [he'.nextLock, h.next]
    simp [Numbering.addLock]

/-- The resource is as busy on both sides. -/
theorem enroll_error (h : Mirrors S N g g') {flowType : String} {error : FlowError}
    (he : g.enroll S.resource f flowType = .error error) :
    g'.enroll S.resource f flowType = .error error := by
  unfold Registry.enroll Registry.claim Lanes.claim at he ⊢
  rw [h.lane]
  cases hl : g.lanes.lane? S.resource with
  | none =>
    rw [hl] at he
    cases he
  | some lane =>
    rw [hl] at he
    exact he

theorem enroll_left (h : Mirrors S N g g') {g₁ : Registry} {flowType : String}
    (hr : r ≠ S.resource) (he : Enrolled g g₁ r f flowType) : Mirrors S N g₁ g' where
  status := by
    rw [he.status, if_neg hr.symm]
    exact h.status
  lane := by
    rw [he.lane, if_neg hr.symm]
    exact h.lane
  lock l hl := by
    rw [he.lock]
    exact h.lock l hl
  owned r' lane hl := by
    rw [he.lane] at hl
    split at hl
    · rename_i hr'
      cases hl
      -- The new lock has no number, and the lane is that of the other resource.
      refine iff_of_false (fun hm => Nat.lt_irrefl _ (h.given _ hm)) ?_
      rw [hr']
      exact hr
    · exact h.owned r' lane hl
  given l hl := by
    rw [he.nextLock]
    exact Nat.lt_succ_of_lt (h.given l hl)
  next := h.next

theorem addTask (h : Mirrors S N g g')
    (hp : ∀ l ∈ N.locks, ∀ t ∈ (g.lanes.lock l).parties, t ∈ N.tasks) (u : TaskId) :
    Mirrors S (N.addTask u) g g' where
  __ := h
  lock l hl := by
    refine (h.lock l hl).trans (Lock.renumber_congr fun t ht => ?_).symm
    exact Numbering.task_addTask (hp l hl t ht) u

end Mirrors

end Registry

end ResourceFlow
