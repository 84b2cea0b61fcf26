import ResourceFlow.Proofs.World.Steps
/-! # Locks and the tasks that asked for them

  `World.Queues` ties the locks to the tasks: the holder of a lock and those
  who wait for it are exactly the tasks that asked for it and are not over,
  each of them once, and a task that processes events holds its lock. It is
  kept by every step, in any order.
-/

namespace ResourceFlow

namespace World

variable {V : Vocabulary} {I : Interface}

/-! ### The invariant -/

/-- Locks and tasks fit together. -/
structure Queues (w : World V I) : Prop where
  /-- Nobody waits for a lock that nobody holds. -/
  sound : ∀ l, (w.registry.lanes.lock l).Sound
  /-- Nobody asks for a lock twice. -/
  nodup : ∀ l, (w.registry.lanes.lock l).parties.Nodup
  /-- Those who hold a lock or wait for it are the tasks that asked for it. -/
  party : ∀ l t, t ∈ (w.registry.lanes.lock l).parties ↔
    ∃ task flow, w.tasks[t]? = some task ∧ task.work.stake? = some (l, flow)
  /-- A task that processes events holds its lock. -/
  inHand : ∀ t task l p, w.tasks[t]? = some task → task.work.inHand? = some (l, p) →
    (w.registry.lanes.lock l).holder = some t

theorem queues_initial (engines : List (Definition V I × List (Handler V I) × Nat)) :
    Queues (initial engines) where
  sound _ := Lock.sound_default
  nodup _ := List.nodup_nil
  party l t := by
    constructor
    · intro h; cases h
    · rintro ⟨task, flow, h, -⟩; cases h
  inHand _ _ _ _ h := nomatch h

/-! ### Each step keeps it -/

/-- What leaves the locks alone and adds only tasks that have not asked for one. -/
theorem Queues.of_tasks {w w' : World V I} (h : Queues w)
    (hl : ∀ l, w'.registry.lanes.lock l = w.registry.lanes.lock l)
    (hold : ∀ (t : TaskId) (task : Task V I), w.tasks[t]? = some task → w'.tasks[t]? = some task)
    (hnew : ∀ (t : TaskId) (task : Task V I), w'.tasks[t]? = some task →
      w.tasks[t]? = some task ∨ (task.work.stake? = none ∧ task.work.inHand? = none)) :
    Queues w' where
  sound l := hl l ▸ h.sound l
  nodup l := hl l ▸ h.nodup l
  party l t := by
    rw [hl, h.party]
    constructor
    · rintro ⟨task, flow, ht, hs⟩
      exact ⟨task, flow, hold t task ht, hs⟩
    · rintro ⟨task, flow, ht, hs⟩
      rcases hnew t task ht with ht | ⟨hn, -⟩
      · exact ⟨task, flow, ht, hs⟩
      · rw [hn] at hs; cases hs
  inHand t task l p ht hp := by
    rw [hl]
    rcases hnew t task ht with ht | ⟨-, hn⟩
    · exact h.inHand t task l p ht hp
    · rw [hn] at hp; cases hp

theorem Queues.addTask {w : World V I} (h : Queues w) (e : EngineId) {work : Work V I}
    (hs : work.stake? = none) (hi : work.inHand? = none) : Queues (w.addTask e work) := by
  refine h.of_tasks (fun _ => rfl) ?_ ?_
  · intro t task ht
    exact tasks_addTask.mpr (.inl ht)
  · intro t task ht
    rcases tasks_addTask.mp ht with ht | ⟨-, rfl⟩
    · exact .inl ht
    · exact .inr ⟨hs, hi⟩

section Run

variable {w w' : World V I} {t : TaskId} {reply : I.Reply} {task : Task V I} {eng : Engine V I}
  {d' : Desk V I} {work' : Work V I}

/-- Who is a party of a lock after task `t` took a step, as far as other tasks are concerned. -/
theorem RunStep.party_ne (h : RunStep w t reply w' task eng d' work') {u : TaskId} (hu : u ≠ t)
    (l : LockId) :
    (∃ k flow, w'.tasks[u]? = some k ∧ k.work.stake? = some (l, flow)) ↔
      ∃ k flow, w.tasks[u]? = some k ∧ k.work.stake? = some (l, flow) := by
  rw [h.tasks, if_neg hu]

/-- Whether task `t` is a party of a lock after its step. -/
theorem RunStep.party_self (h : RunStep w t reply w' task eng d' work') (l : LockId) :
    (∃ k flow, w'.tasks[t]? = some k ∧ k.work.stake? = some (l, flow)) ↔
      ∃ flow, work'.stake? = some (l, flow) := by
  rw [h.tasks, if_pos rfl]
  constructor
  · rintro ⟨k, flow, hk, hs⟩
    cases hk
    exact ⟨flow, hs⟩
  · rintro ⟨flow, hs⟩
    exact ⟨_, flow, rfl, hs⟩

/-- A task with a stake in a lock is a party of it, and of no other. -/
theorem Queues.mem_parties_self (hq : Queues w) (h : RunStep w t reply w' task eng d' work')
    (l : LockId) : t ∈ (w.registry.lanes.lock l).parties ↔
      ∃ flow, task.work.stake? = some (l, flow) := by
  rw [hq.party, h.hasTask]
  constructor
  · rintro ⟨k, flow, hk, hs⟩
    cases hk
    exact ⟨flow, hs⟩
  · rintro ⟨flow, hs⟩
    exact ⟨_, flow, rfl, hs⟩

theorem Queues.lockMove (hq : Queues w) (h : RunStep w t reply w' task eng d' work') :
    Desk.LockMove t ⟨w.registry, eng⟩ task.work d' work' := by
  refine h.move.lockMove ?_
  intro l p hp
  exact Lanes.isHeldBy_iff.mpr (hq.inHand t task l p h.hasTask hp)

/-- What a step of task `t` has to do so that locks and tasks fit together again: `t` is a party of
    the locks that it has a stake in, and for all others everything stays as it was. -/
theorem Queues.of_self (hq : Queues w) (h : RunStep w t reply w' task eng d' work')
    (hsound : ∀ l, (w'.registry.lanes.lock l).Sound)
    (hnodup : ∀ l, (w'.registry.lanes.lock l).parties.Nodup)
    (hself : ∀ l, t ∈ (w'.registry.lanes.lock l).parties ↔ ∃ flow, work'.stake? = some (l, flow))
    (hothers : ∀ l u, u ≠ t →
      (u ∈ (w'.registry.lanes.lock l).parties ↔ u ∈ (w.registry.lanes.lock l).parties))
    (hin : ∀ l p, work'.inHand? = some (l, p) → (w'.registry.lanes.lock l).holder = some t)
    (hkeep : ∀ l u, u ≠ t → (w.registry.lanes.lock l).holder = some u →
      (w'.registry.lanes.lock l).holder = some u) : Queues w' where
  sound := hsound
  nodup := hnodup
  party l u := by
    by_cases hu : u = t
    · subst hu
      rw [h.party_self]
      exact hself l
    · rw [h.party_ne hu, hothers l u hu]
      exact hq.party l u
  inHand u k l p hk hp := by
    rw [h.tasks] at hk
    by_cases hu : u = t
    · subst hu
      rw [if_pos rfl] at hk
      cases hk
      exact hin l p hp
    · rw [if_neg hu] at hk
      exact hkeep l u hu (hq.inHand u k l p hk hp)

/-- A step that keeps what the task has. -/
theorem Queues.keeps (hq : Queues w) (h : RunStep w t reply w' task eng d' work')
    (hs : work'.stake? = task.work.stake?)
    (hl : ∀ l, w'.registry.lanes.lock l = w.registry.lanes.lock l)
    (hin : ∀ l p, work'.inHand? = some (l, p) → (w.registry.lanes.lock l).holder = some t) :
    Queues w' := by
  refine hq.of_self h ?_ ?_ ?_ ?_ ?_ ?_
  · intro l
    rw [hl]
    exact hq.sound l
  · intro l
    rw [hl]
    exact hq.nodup l
  · intro l
    rw [hl, hs]
    exact hq.mem_parties_self h l
  · intro l u _
    rw [hl]
  · intro l p hp
    rw [hl]
    exact hin l p hp
  · intro l u _ hh
    rw [hl]
    exact hh

/-- A step that asks for a lock. -/
theorem Queues.asks (hq : Queues w) (h : RunStep w t reply w' task eng d' work') {lock : LockId}
    {flow : FlowId} (hs : task.work.stake? = none) (hs' : work'.stake? = some (lock, flow))
    (hin : work'.inHand? = none)
    (hl : ∀ l, w'.registry.lanes.lock l =
      if l = lock then (w.registry.lanes.lock l).ask t else w.registry.lanes.lock l) :
    Queues w' := by
  -- The task was no party of any lock before.
  have hnot : ∀ l, t ∉ (w.registry.lanes.lock l).parties := by
    intro l hm
    obtain ⟨flow, hf⟩ := (hq.mem_parties_self h l).mp hm
    rw [hs] at hf
    cases hf
  have hpar : ∀ l, (w'.registry.lanes.lock l).parties = if l = lock then
      (w.registry.lanes.lock l).parties ++ [t] else (w.registry.lanes.lock l).parties := by
    intro l
    rw [hl]
    split
    · exact Lock.parties_ask (hq.sound l) t
    · rfl
  refine hq.of_self h ?_ ?_ ?_ ?_ ?_ ?_
  · intro l
    rw [hl]
    split
    · exact Lock.sound_ask _ t
    · exact hq.sound l
  · intro l
    rw [hpar]
    split
    · have hdisj : ∀ a ∈ (w.registry.lanes.lock l).parties, ∀ b ∈ [t], a ≠ b := by
        intro a ha b hb hab
        rw [List.mem_singleton] at hb
        subst hab hb
        exact hnot l ha
      exact List.nodup_append.mpr ⟨hq.nodup l, by simp, hdisj⟩
    · exact hq.nodup l
  · intro l
    rw [hpar, hs']
    by_cases hll : l = lock
    · simp [hll]
    · simp [hll, hnot l, Ne.symm hll]
  · intro l u hu
    rw [hpar]
    split
    · simp [hu]
    · rfl
  · intro l p hp
    rw [hin] at hp
    cases hp
  · intro l u _ hh
    rw [hl]
    split
    · exact Lock.holder_ask hh t
    · exact hh

/-- A step that passes a lock on. -/
theorem Queues.passes (hq : Queues w) (h : RunStep w t reply w' task eng d' work') {lock : LockId}
    {flow : FlowId} (hs : task.work.stake? = some (lock, flow))
    (hh : (w.registry.lanes.lock lock).holder = some t) (hs' : work'.stake? = none)
    (hl : ∀ l, w'.registry.lanes.lock l =
      if l = lock then (w.registry.lanes.lock l).pass else w.registry.lanes.lock l) :
    Queues w' := by
  have hpar := Lock.parties_pass hh
  have hnd : (t :: (w.registry.lanes.lock lock).pass.parties).Nodup := hpar ▸ hq.nodup lock
  have hnot : t ∉ (w.registry.lanes.lock lock).pass.parties := (List.nodup_cons.mp hnd).1
  refine hq.of_self h ?_ ?_ ?_ ?_ ?_ ?_
  · intro l
    rw [hl]
    split
    · exact Lock.sound_pass _
    · exact hq.sound l
  · intro l
    rw [hl]
    by_cases hll : l = lock
    · rw [if_pos hll, hll]
      exact (List.nodup_cons.mp hnd).2
    · rw [if_neg hll]
      exact hq.nodup l
  · intro l
    rw [hl, hs']
    simp only [reduceCtorEq, exists_false, iff_false]
    by_cases hll : l = lock
    · rw [if_pos hll, hll]
      exact hnot
    · rw [if_neg hll, hq.mem_parties_self h, hs]
      rintro ⟨g, hg⟩
      cases hg
      exact hll rfl
  · intro l u hu
    rw [hl]
    by_cases hll : l = lock
    · rw [if_pos hll, hll, hpar, List.mem_cons, or_iff_right hu]
    · rw [if_neg hll]
  · intro l p hp
    obtain ⟨o, g, stage, -, hst⟩ := Work.stake?_of_inHand? hp
    rw [hs'] at hst
    cases hst
  · intro l u hu hu'
    rw [hl]
    by_cases hll : l = lock
    · -- A lock has one holder, and it was `t`.
      rw [hll, hh] at hu'
      exact absurd (Option.some.inj hu').symm hu
    · rw [if_neg hll]
      exact hu'

theorem Queues.run (hq : Queues w) (h : RunStep w t reply w' task eng d' work') : Queues w' := by
  have hreg : w'.registry = d'.registry := h.registry
  cases hq.lockMove h with
  | keeps hs hl hin =>
    exact hq.keeps h hs (fun l => hreg ▸ hl l) fun l p hp => Lanes.isHeldBy_iff.mp (hin l p hp)
  | asks _ hs hs' hin hl => exact hq.asks h hs hs' hin fun l => hreg ▸ hl l
  | passes hs hh hs' hl =>
    exact hq.passes h hs (Lanes.isHeldBy_iff.mp hh) hs' fun l => hreg ▸ hl l

end Run

theorem Queues.change {w w' : World V I} {l : Label V I} (h : Queues w) (hc : Change w l w') :
    Queues w' := by
  cases hc with
  | opens ho =>
    refine h.of_tasks ?_ (fun t task ht => ho.tasks.mpr (.inl ht)) ?_
    · intro l
      rw [ho.registry]
      exact ho.enrolled.lock l
    · intro t task ht
      rcases ho.tasks.mp ht with ht | ⟨-, rfl⟩
      · exact .inl ht
      · exact .inr ⟨rfl, rfl⟩
  | refuses _ => exact h.addTask _ rfl rfl
  | delivers => exact h.addTask _ rfl rfl
  | cancels => exact h.addTask _ rfl rfl
  | runs hr => exact h.run hr
  | elapses => exact ⟨h.sound, h.nodup, h.party, h.inHand⟩

/-- Two tasks that process events with the same lock are one. -/
theorem Queues.holder_unique {w : World V I} (h : Queues w) {t u : TaskId} {a b : Task V I}
    {l : LockId} {p q : FlowParameters} (ha : w.tasks[t]? = some a) (hb : w.tasks[u]? = some b)
    (hp : a.work.inHand? = some (l, p)) (hq : b.work.inHand? = some (l, q)) : t = u := by
  have h₁ := h.inHand t a l p ha hp
  have h₂ := h.inHand u b l q hb hq
  rw [h₁] at h₂
  exact Option.some.inj h₂

end World

end ResourceFlow
