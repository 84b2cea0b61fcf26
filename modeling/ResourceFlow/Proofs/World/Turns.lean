import ResourceFlow.Proofs.World.Marks
import ResourceFlow.Proofs.World.Routing
/-! # Everyone in line has their turn

  Those who asked for a lock stand in line for it, the holder first
  (`Execution.line`). In a step all keep their places, or the first one leaves
  (`World.line_of_change`). Everyone in line is there for the same flow
  (`Execution.stake_unique`).

  Once a cancel of the flow is recorded, or the flow has ended, whoever holds
  the lock lets go of it some time: what is at work comes to a result, and
  after that no event of the flow is taken (`Execution.leaves_of_holder`). So
  in a fair execution everyone in line comes to hold the lock, on the place of
  their own (`Execution.turn_comes`).
-/

namespace ResourceFlow

variable {V : Vocabulary} {I : Interface}

/-! ### What tasks with a stake do -/

/-- Whoever asked for a lock waits for it or has it in hand. -/
theorem Work.awaited?_or_inHand? {w : Work V I} {lock : LockId} {f : FlowId}
    (hs : w.stake? = some (lock, f)) :
    w.awaited? = some lock ∨ ∃ p, w.inHand? = some (lock, p) := by
  cases w with
  | process o g stage =>
    cases stage <;> cases hs <;> first | exact .inl rfl | exact .inr ⟨_, rfl⟩
  | cancel r stage =>
    cases stage <;> cases hs
    exact .inl rfl
  | refused e => cases hs

/-- It waits for no other lock. -/
theorem Work.eq_of_awaited? {w : Work V I} {lock l : LockId} {f : FlowId}
    (hs : w.stake? = some (lock, f)) (hl : w.awaited? = some l) : l = lock := by
  cases w with
  | process o g stage =>
    cases stage <;> cases hl
    cases hs
    rfl
  | cancel r stage =>
    cases stage <;> cases hl
    cases hs
    rfl
  | refused e => cases hs

theorem Work.result?_of_stake? {w : Work V I} {s : LockId × FlowId} (hs : w.stake? = some s) :
    w.result? = none := by
  cases w with
  | process o g stage => cases stage <;> first | rfl | cases hs
  | cancel r stage => cases stage <;> first | rfl | cases hs
  | refused e => cases hs

/-- Whoever has the lock in hand and nothing at work is about to take an event after its next step,
    or over. -/
theorem Desk.Move.ready_or_over {d d' : Desk V I} {t : TaskId} {now : Duration} {reply : I.Reply}
    {w w' : Work V I} (h : Move d t now reply w d' w') (hs : w.stake? ≠ none)
    (hx : w.atHand? = none) (hb : ∀ o f stage, w = .process o f stage → ¬ stage.Busy) :
    w'.stake? = none ∨ ∃ x, w'.atHand? = some x := by
  cases h with
  | admitted | handled | handlerFailed | acted | actionFailed => exact .inr ⟨_, rfl⟩
  | hand | enter | halt | lost | refuse => cases hx
  | handle hn | act hn => exact absurd hn (hb _ _ _ rfl)
  | queue | request => exact absurd rfl hs
  | _ => exact .inl rfl

/-- Where a cancel is recorded, no event is taken. -/
theorem Desk.Move.over_of_isCancelled {d d' : Desk V I} {t : TaskId} {now : Duration}
    {reply : I.Reply} {w w' : Work V I} (h : Move d t now reply w d' w') {x : V.Event}
    (hx : w.atHand? = some x)
    (hc : ∀ lock p, w.inHand? = some (lock, p) → d.registry.isCancelled p.resourceId = true) :
    w'.stake? = none := by
  cases h with
  | hand hno | enter hno =>
    rw [hc _ _ rfl] at hno
    cases hno
  | halt | lost | refuse => rfl
  | _ => cases hx

namespace World

/-! ### Places in line -/

/-- In a step all keep their places in line for a lock, or the first one leaves. -/
theorem line_of_change {w w' : World V I} {l : Label V I} (hq : Queues w) (hc : Change w l w')
    (lock : LockId) :
    (w.registry.lanes.lock lock).parties <+: (w'.registry.lanes.lock lock).parties ∨
    ∃ t reply, l = .run t reply ∧
      (w.registry.lanes.lock lock).parties = t :: (w'.registry.lanes.lock lock).parties := by
  cases hc with
  | opens ho =>
    rw [ho.registry, ho.enrolled.lock]
    exact .inl (List.prefix_refl _)
  | @runs t reply _ task eng d' work' hr =>
    rw [hr.registry]
    cases hq.lockMove hr with
    | keeps _ hl _ =>
      rw [hl]
      exact .inl (List.prefix_refl _)
    | asks _ _ _ _ hl =>
      -- Whoever asks stands behind all others.
      rw [hl]
      split
      · exact .inl (Lock.parties_ask (hq.sound lock) t ▸ List.prefix_append _ _)
      · exact .inl (List.prefix_refl _)
    | passes _ hh _ hl =>
      rw [hl]
      split
      · rename_i hlock
        subst hlock
        exact .inr ⟨t, reply, rfl, Lock.parties_pass (Lanes.isHeldBy_iff.mp hh)⟩
      · exact .inl (List.prefix_refl _)
  | _ => exact .inl (List.prefix_refl _)

/-- After a step whoever has a stake had it before, or asked for it now. -/
theorem stake_of_change {w w' : World V I} {l : Label V I} (hq : Queues w) (hc : Change w l w')
    {t : TaskId} {k' : Task V I} {s : LockId × FlowId} (hk : w'.tasks[t]? = some k')
    (hs : k'.work.stake? = some s) :
    (∃ k, w.tasks[t]? = some k ∧ k.engine = k'.engine ∧ k.work.stake? = some s) ∨
    k'.engine < w.engines.length ∧
      ∃ r lane, w.lane? r = some lane ∧ s = (lane.lock, lane.flow) := by
  have hadd : ∀ {e : EngineId} {work : Work V I}, work.stake? = none →
      (w.addTask e work).tasks[t]? = some k' → w.tasks[t]? = some k' := by
    intro e work hnone hk
    rcases tasks_addTask.mp hk with hk | ⟨-, rfl⟩
    · exact hk
    · rw [hnone] at hs
      cases hs
  cases hc with
  | refuses | delivers | cancels => exact .inl ⟨k', hadd rfl hk, rfl, hs⟩
  | elapses => exact .inl ⟨k', hk, rfl, hs⟩
  | opens ho =>
    rcases ho.tasks.mp hk with hk | ⟨-, rfl⟩
    · exact .inl ⟨k', hk, rfl, hs⟩
    · cases hs
  | @runs u reply _ task eng d' work' hr =>
    rw [hr.tasks] at hk
    split at hk
    · rename_i htu
      subst htu
      obtain rfl := Option.some.inj hk
      have hs : work'.stake? = some s := hs
      cases hq.lockMove hr with
      | keeps hst _ _ => exact .inl ⟨task, hr.hasTask, rfl, hst ▸ hs⟩
      | @asks r lane hlane _ hst _ _ =>
        have hlt := (List.getElem?_eq_some_iff.mp hr.hasEngine).1
        exact .inr ⟨hlt, r, lane, hlane, Option.some.inj (hs.symm.trans hst)⟩
      | passes _ _ hst _ =>
        rw [hst] at hs
        cases hs
    · exact .inl ⟨k', hk, rfl, hs⟩

namespace Execution

variable {E : Execution V I} {engines : List (Definition V I × List (Handler V I) × Nat)}
  {n m : Nat} {t u : TaskId} {k : Task V I} {lock : LockId} {r : ResourceId} {f : FlowId}

/-- Who stands in line for a lock after `n` steps, the holder first. -/
def line (E : Execution V I) (lock : LockId) (n : Nat) : List TaskId :=
  ((E.world n).registry.lanes.lock lock).parties

/-- Whoever asked for a lock did so at an engine that there is. -/
theorem engine_of_stake (h₀ : E.world 0 = initial engines) (hk : (E.world n).tasks[t]? = some k)
    (hs : k.work.stake? ≠ none) : k.engine < (E.world n).engines.length := by
  induction n generalizing k with
  | zero =>
    rw [h₀] at hk
    cases hk
  | succ n ih =>
    obtain ⟨s, hs⟩ := Option.ne_none_iff_exists'.mp hs
    rw [engines_length_of_change (E.change n)]
    have hq := (orderly h₀ n).queues
    rcases stake_of_change hq (E.change n) hk hs with ⟨k₀, hk₀, he, hs₀⟩ | ⟨he, -⟩
    · exact he ▸ ih hk₀ (by rw [hs₀]; exact nofun)
    · exact he

/-- A lock is asked for on behalf of one flow. -/
theorem stake_unique (h₀ : E.world 0 = initial engines) {k' : Task V I} {g : FlowId}
    (hk : (E.world n).tasks[t]? = some k) (hs : k.work.stake? = some (lock, f))
    (hk' : (E.world n).tasks[u]? = some k') (hs' : k'.work.stake? = some (lock, g)) : f = g := by
  induction n generalizing t u k k' f g with
  | zero =>
    rw [h₀] at hk
    cases hk
  | succ n ih =>
    have h := orderly h₀ n
    -- Whoever asks now does so while the flow occupies the lane, as those did who asked before.
    have hnew : ∀ {v : TaskId} {j : Task V I} {a b : FlowId} {rid : ResourceId} {lane : Lane},
        (E.world n).tasks[v]? = some j → j.work.stake? = some (lock, a) →
        (E.world n).lane? rid = some lane → (lock, b) = (lane.lock, lane.flow) → a = b := by
      intro v j a b rid lane hj ha hlane hb
      injection hb with hlock hflow
      rw [hflow]
      exact (((h.stakes v j lock a hj ha).2.2 rid lane hlane).mpr hlock.symm).symm
    have hone := stake_of_change h.queues (E.change n) hk hs
    have hother := stake_of_change h.queues (E.change n) hk' hs'
    rcases hone with ⟨j, hj, -, ha⟩ | ⟨-, r₁, l₁, hl₁, heq₁⟩ <;>
      rcases hother with ⟨j', hj', -, hb⟩ | ⟨-, r₂, l₂, hl₂, heq₂⟩
    · exact ih hj ha hj' hb
    · exact hnew hj ha hl₂ heq₂
    · exact (hnew hj' hb hl₁ heq₁).symm
    · injection heq₁ with hlock₁ hflow₁
      injection heq₂ with hlock₂ hflow₂
      -- No two lanes came with the same lock.
      have hr := h.locks _ _ _ _ hl₁ hl₂ (hlock₁.symm.trans hlock₂)
      rw [hr] at hl₁
      rw [hflow₁, hflow₂, Option.some.inj (hl₁.symm.trans hl₂)]

/-! ### The holder lets go -/

/-- Whoever holds its lock takes a step some time, from where it stands. -/
theorem step_of_holder (hf : E.Fair) (h₀ : E.world 0 = initial engines)
    (hk : (E.world n).tasks[t]? = some k) (hs : k.work.stake? = some (lock, f))
    (hh : ((E.world n).registry.lanes.lock lock).holder = some t) :
    ∃ m reply eng d' work', n ≤ m ∧ E.label m = .run t reply ∧
      RunStep (E.world m) t reply (E.world (m + 1)) k eng d' work' := by
  have hc : (E.world n).CanRun t := by
    intro reply
    refine run_isSome_iff.mpr ⟨k, _, hk,
      List.getElem?_eq_getElem (engine_of_stake h₀ hk (by rw [hs]; exact nofun)),
      by rw [Work.result?_of_stake? hs]; rfl, ?_⟩
    intro l hl
    rw [Work.eq_of_awaited? hs hl]
    exact hh
  obtain ⟨m, reply, hm, hl, hk'⟩ := hf.takes_step (fun n => (orderly h₀ n).queues) hc hk
  have hchange := E.change m
  rw [hl] at hchange
  cases hchange with
  | @runs _ _ _ task eng d' work' hr =>
    obtain rfl := Option.some.inj (hr.hasTask.symm.trans hk')
    exact ⟨m, reply, eng, d', work', hm, hl, hr⟩

/-- From step `n` on, task `t` gives up its stake some time. -/
def Leaves (E : Execution V I) (t : TaskId) (n : Nat) : Prop :=
  ∃ m k, n ≤ m ∧ (E.world m).tasks[t]? = some k ∧ k.work.stake? = none

theorem Leaves.mono (h : E.Leaves t m) (hm : n ≤ m) : E.Leaves t n := by
  obtain ⟨j, k, hj, hk⟩ := h
  exact ⟨j, k, Nat.le_trans hm hj, hk⟩

/-- Whoever is about to take an event of a flow whose cancel is recorded does not, and is over. -/
theorem leaves_of_atHand (hf : E.Fair) (h₀ : E.world 0 = initial engines)
    (hm : Marked (E.world n) r f) (hk : (E.world n).tasks[t]? = some k)
    (hs : k.work.stake? = some (lock, f)) {x : V.Event} (hx : k.work.atHand? = some x) :
    E.Leaves t n := by
  obtain ⟨o, g, lock', p, hw⟩ := Work.inHand?_of_atHand? hx
  have hp : k.work.inHand? = some (lock', p) := by
    rw [hw]
    rfl
  have hh := (orderly h₀ n).queues.inHand t k lock' p hk hp
  rw [show lock' = lock by rw [hw] at hs; injection hs with hs; injection hs] at hh hp
  obtain ⟨m, reply, eng, d', work', hnm, hl, hr⟩ := step_of_holder hf h₀ hk hs hh
  refine ⟨m + 1, _, Nat.le_succ_of_le hnm, (hr.tasks t).trans (if_pos rfl), ?_⟩
  refine hr.move.over_of_isCancelled hx fun l q hq => ?_
  -- The mark stays as long as the flow runs.
  have hmark := hm.reachable (E.reachable_of_le hnm)
  have hflow : k.work.flow? = some f := by
    rw [hw] at hs ⊢
    injection hs with hs
    injection hs with _ hf
    exact congrArg some hf
  obtain ⟨hres, hc⟩ := hmark.isCancelled hr.hasTask hq (hmark.inHand_flow hr.hasTask hq hflow)
  rw [hres]
  exact hc

/-- Whoever holds the lock of a flow whose cancel is recorded, and has nothing at work, lets go. -/
theorem leaves_of_idle (hf : E.Fair) (h₀ : E.world 0 = initial engines)
    (hm : Marked (E.world n) r f) (hk : (E.world n).tasks[t]? = some k)
    (hs : k.work.stake? = some (lock, f))
    (hh : ((E.world n).registry.lanes.lock lock).holder = some t)
    (hb : ∀ o g stage, k.work = .process o g stage → ¬ stage.Busy) : E.Leaves t n := by
  cases hx : k.work.atHand? with
  | some x => exact leaves_of_atHand hf h₀ hm hk hs hx
  | none =>
    obtain ⟨m, reply, eng, d', work', hnm, hl, hr⟩ := step_of_holder hf h₀ hk hs hh
    have hk' := (hr.tasks t).trans (if_pos rfl)
    rcases hr.move.ready_or_over (by rw [hs]; exact nofun) hx hb with hover | ⟨x, hx'⟩
    · exact ⟨m + 1, _, Nat.le_succ_of_le hnm, hk', hover⟩
    · -- What it has a stake in is the same as before.
      have hs' : work'.stake? = some (lock, f) := by
        cases (orderly h₀ m).queues.lockMove hr with
        | keeps hst _ _ => exact hst.trans hs
        | asks _ hst _ _ _ =>
          rw [hs] at hst
          cases hst
        | passes _ _ hst _ =>
          obtain ⟨o, g, lock', p, rfl⟩ := Work.inHand?_of_atHand? hx'
          cases hst
      have hmark := hm.reachable (E.reachable_of_le (Nat.le_succ_of_le hnm))
      exact (leaves_of_atHand hf h₀ hmark hk' hs' hx').mono (Nat.le_succ_of_le hnm)

/-- Whoever holds the lock of a flow whose cancel is recorded lets go of it some time. -/
theorem leaves_of_holder (hf : E.Fair) (h₀ : E.world 0 = initial engines)
    (hm : Marked (E.world n) r f) (hk : (E.world n).tasks[t]? = some k)
    (hs : k.work.stake? = some (lock, f))
    (hh : ((E.world n).registry.lanes.lock lock).holder = some t) : E.Leaves t n := by
  have he := engine_of_stake h₀ hk (by rw [hs]; exact nofun)
  have hq := fun n => (orderly (E := E) h₀ n).queues
  obtain ⟨e, work⟩ := k
  -- What is at work comes to a result first.
  have hafter : ∀ {o : Origin} {stage : Processing V I} {m : Nat} {p : FlowParameters}, n ≤ m →
      (E.world m).tasks[t]? = some ⟨e, .process o f stage⟩ → ¬ stage.Busy →
      (Work.process o f stage).stake? = some (lock, f) →
      (Work.process o f stage).inHand? = some (lock, p) → E.Leaves t n := by
    intro o stage m p hnm hk hb hs hp
    refine (leaves_of_idle hf h₀ (hm.reachable (E.reachable_of_le hnm)) hk hs
      ((hq m).inHand t _ lock p hk hp) ?_).mono hnm
    rintro o' g stage' hw
    injection hw with _ _ hw
    exact hw ▸ hb
  cases work with
  | process o g stage =>
    cases stage with
    | handling lock' p x hd a =>
      cases hs
      obtain ⟨m, res, hnm, hk'⟩ := hf.result_of_work hq (.handling lock p x hd)
        (fun _ => ⟨rfl, rfl⟩) Desk.Move.handle_step he hk
      exact hafter hnm hk' (fun hb => hb res rfl) rfl rfl
    | acting lock' p x s a =>
      cases hs
      obtain ⟨m, res, hnm, hk'⟩ := hf.result_of_work hq (.acting lock p x s)
        (fun _ => ⟨rfl, rfl⟩) Desk.Move.act_step he hk
      exact hafter hnm hk' (fun hb => hb res rfl) rfl rfl
    | queued | ready =>
      refine leaves_of_idle hf h₀ hm hk hs hh ?_
      rintro o' g' stage' hw
      injection hw with _ _ hw
      exact hw ▸ id
    | _ => cases hs
  | cancel r stage =>
    refine leaves_of_idle hf h₀ hm hk hs hh ?_
    rintro o' g' stage' hw
    cases hw
  | refused e => cases hs

/-! ### Moving up -/

theorem holder_of_line (h₀ : E.world 0 = initial engines) {rest : List TaskId}
    (hline : t :: rest <+: E.line lock n) :
    ((E.world n).registry.lanes.lock lock).holder = some t := by
  cases hh : ((E.world n).registry.lanes.lock lock).holder with
  | none =>
    -- Nobody waits for a lock that nobody holds.
    have hnil := (orderly h₀ n).queues.sound lock hh
    simp [line, Lock.parties, hh, hnil] at hline
  | some u =>
    simp only [line, Lock.parties, hh, Option.toList_some, List.singleton_append,
      List.cons_prefix_cons] at hline
    rw [hline.1]

/-- Whoever stands behind the holder takes no step. -/
theorem not_run_of_behind (h₀ : E.world 0 = initial engines)
    (hh : ((E.world n).registry.lanes.lock lock).holder = some u) (htu : t ≠ u)
    (hk : (E.world n).tasks[t]? = some k) (hs : k.work.stake? = some (lock, f)) (reply : I.Reply) :
    E.label n ≠ .run t reply := by
  intro hl
  have hstep := E.step n
  rw [hl] at hstep
  obtain ⟨k', -, hk', -, -, hlock⟩ := run_isSome_iff.mp (Option.isSome_iff_exists.mpr ⟨_, hstep⟩)
  obtain rfl := Option.some.inj (hk.symm.trans hk')
  have ht : ((E.world n).registry.lanes.lock lock).holder = some t := by
    rcases Work.awaited?_or_inHand? hs with ha | ⟨p, hp⟩
    · exact hlock lock ha
    · exact (orderly h₀ n).queues.inHand t k lock p hk hp
  rw [hh] at ht
  exact htu (Option.some.inj ht).symm

/-- When the first one in line has left, the others have moved up, and those who wait have stayed
    where they were. -/
theorem moves_up (h₀ : E.world 0 = initial engines) {before : List TaskId}
    (hline : u :: (before ++ [t]) <+: E.line lock n) (hk : (E.world n).tasks[t]? = some k)
    (hs : k.work.stake? = some (lock, f)) (hm : n ≤ m) (hu : u ∉ E.line lock m) :
    ∃ j, n ≤ j ∧ before ++ [t] <+: E.line lock j ∧ (E.world j).tasks[t]? = some k := by
  -- On the number of steps until then.
  obtain ⟨d, rfl⟩ := Nat.exists_eq_add_of_le hm
  induction d generalizing n with
  | zero => exact absurd (hline.subset List.mem_cons_self) hu
  | succ d ih =>
    have htu : t ≠ u := by
      have hnd := hline.sublist.nodup ((orderly h₀ n).queues.nodup lock)
      rintro rfl
      exact (List.nodup_cons.mp hnd).1 (List.mem_append_right _ List.mem_cons_self)
    have hk' := task_of_change (E.change n)
      (not_run_of_behind h₀ (holder_of_line h₀ hline) htu hk hs) hk
    rcases line_of_change (orderly h₀ n).queues (E.change n) lock with hpre | ⟨v, reply, -, hpop⟩
    · obtain ⟨j, hj, hline', hkj⟩ := ih (hline.trans hpre) hk' (by omega)
        (by rwa [Nat.add_right_comm n 1 d])
      exact ⟨j, by omega, hline', hkj⟩
    · rw [line, hpop, List.cons_prefix_cons] at hline
      exact ⟨n + 1, by omega, hline.2, hk'⟩

/-- Everyone in line for the lock of a flow whose cancel is recorded comes to hold it, and stands
    where it stood until then. -/
theorem turn_comes (hf : E.Fair) (h₀ : E.world 0 = initial engines) (hm : Marked (E.world n) r f)
    (hk : (E.world n).tasks[t]? = some k) (hs : k.work.stake? = some (lock, f)) :
    ∃ m, n ≤ m ∧ ((E.world m).registry.lanes.lock lock).holder = some t ∧
      (E.world m).tasks[t]? = some k := by
  have ht : t ∈ E.line lock n := ((orderly h₀ n).queues.party lock t).mpr ⟨k, f, hk, hs⟩
  obtain ⟨before, after, hsplit⟩ := List.append_of_mem ht
  have hline : before ++ [t] <+: E.line lock n := ⟨after, by rw [hsplit]; simp⟩
  clear hsplit ht
  -- On those who stand before it.
  induction before generalizing n with
  | nil => exact ⟨n, Nat.le_refl n, holder_of_line h₀ hline, hk⟩
  | cons u before ih =>
    have hq := (orderly h₀ n).queues
    obtain ⟨k', g, hk', hs'⟩ := (hq.party lock u).mp (hline.subset List.mem_cons_self)
    obtain rfl := stake_unique h₀ hk hs hk' hs'
    obtain ⟨m, k'', hnm, hk'', hnone⟩ :=
      leaves_of_holder hf h₀ hm hk' hs' (holder_of_line h₀ hline)
    have hgone : u ∉ E.line lock m := by
      intro hmem
      obtain ⟨j, g', hj, hsj⟩ := ((orderly h₀ m).queues.party lock u).mp hmem
      obtain rfl := Option.some.inj (hk''.symm.trans hj)
      rw [hnone] at hsj
      cases hsj
    obtain ⟨j, hnj, hline', hkj⟩ := moves_up h₀ hline hk hs hnm hgone
    obtain ⟨i, hji, hhi, hki⟩ := ih (hm.reachable (E.reachable_of_le hnj)) hkj hline'
    exact ⟨i, Nat.le_trans hnj hji, hhi, hki⟩

end Execution

end World

end ResourceFlow
