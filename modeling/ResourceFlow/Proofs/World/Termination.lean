import ResourceFlow.Proofs.World.Endings
/-! # A flow under way ends

  In a fair execution a flow under way comes to its end, if no event is
  delivered to it (`World.comes_to_end`). What is left to do never grows. It
  shrinks with each step of the flow's task, unless a handler or an action is
  at work; that takes finitely many steps. While the task waits for its lock,
  the lock is held by a task that cancels the flow, and then that one ends it.
-/

namespace ResourceFlow

variable {V : Vocabulary} {I : Interface}

/-- What a step makes of an action at work. -/
theorem Desk.Move.act_step {d d' : Desk V I} {t : TaskId} {now : Duration} {reply : I.Reply}
    {o : Origin} {f : FlowId} {lock : LockId} {p : FlowParameters} {event : V.Event} {s : V.State}
    {a : Activity I (ActionResult V)} {w' : Work V I}
    (h : Move d t now reply (.process o f (.acting lock p event s a)) d' w')
    (ha : ∀ r, a ≠ .ended r) :
    w' = .process o f (.acting lock p event s (a.step (d.moment now) reply)) := by
  cases h with
  | act _ => rfl
  | _ => exact absurd rfl (ha _)

/-- What a step makes of a handler at work. -/
theorem Desk.Move.handle_step {d d' : Desk V I} {t : TaskId} {now : Duration} {reply : I.Reply}
    {o : Origin} {f : FlowId} {lock : LockId} {p : FlowParameters} {event : V.Event}
    {hd : Handler V I} {a : Activity I (HandlerResult V)} {w' : Work V I}
    (h : Move d t now reply (.process o f (.handling lock p event hd a)) d' w')
    (ha : ∀ r, a ≠ .ended r) :
    w' = .process o f (.handling lock p event hd (a.step (d.moment now) reply)) := by
  cases h with
  | handle _ => rfl
  | _ => exact absurd rfl (ha _)

namespace World

variable {d : Definition V I} {h : Dispatcher V I} {P : Plan d h} {e : EngineId} {f : FlowId}
  {t : TaskId} {o : Origin} {p : FlowParameters}

/-! ### What is at work ends -/

/-- What is at work in a task comes to a result. -/
theorem Execution.Fair.result_of_work {E : Execution V I} (hf : E.Fair)
    (hq : ∀ n, Queues (E.world n)) {α : Type} (wrap : Activity I α → Processing V I)
    (hwork : ∀ a, (Work.process o f (wrap a)).result? = none ∧
      (Work.process o f (wrap a)).awaited? = none)
    (hmove : ∀ {D D' : Desk V I} {now : Duration} {reply : I.Reply} {a : Activity I α}
      {w' : Work V I}, Desk.Move D t now reply (.process o f (wrap a)) D' w' →
      (∀ r, a ≠ .ended r) → w' = .process o f (wrap (a.step (D.moment now) reply)))
    {n : Nat} {a : Activity I α} (he : e < (E.world n).engines.length)
    (ht : (E.world n).tasks[t]? = some ⟨e, .process o f (wrap a)⟩) :
    ∃ m r, n ≤ m ∧ (E.world m).tasks[t]? = some ⟨e, .process o f (wrap (.ended r))⟩ := by
  let shown : Nat → Activity I α → Prop := fun m b =>
    n ≤ m ∧ (E.world m).tasks[t]? = some ⟨e, .process o f (wrap b)⟩
  have hengine : ∀ m, n ≤ m → e < (E.world m).engines.length := by
    intro m hm
    induction hm with
    | refl => exact he
    | @step m _ ih => rwa [engines_length_of_change (E.change m)]
  have hcarried : Activity.Carried (fun m => (E.world m).now) shown := by
    refine ⟨E.now_mono, hf.time, ?_⟩
    rintro m b ⟨hm, hb⟩ hbusy
    -- It waits for no lock, so it can take a step.
    have hcan : (E.world m).CanRun t := by
      intro reply
      refine run_isSome_iff.mpr ⟨_, _, hb, List.getElem?_eq_getElem (hengine m hm),
        by rw [(hwork b).1]; rfl, ?_⟩
      intro lock hlock
      rw [(hwork b).2] at hlock
      cases hlock
    obtain ⟨m', reply, hm', hl, hb'⟩ := hf.takes_step hq hcan hb
    have hc := E.change m'
    rw [hl] at hc
    cases hc with
    | @runs _ _ _ k eng D' work' hr =>
      have hk : k = ⟨e, .process o f (wrap b)⟩ := Option.some.inj (hr.hasTask.symm.trans hb')
      subst hk
      refine ⟨m', hm', (E.world m').registry.isCancelled, reply,
        Nat.le_trans hm (Nat.le_succ_of_le hm'), ?_⟩
      rw [hr.tasks, if_pos rfl, hmove hr.move hbusy]
      rfl
  obtain ⟨m, r, hm, -, hr⟩ := hcarried.eventually_ended ⟨Nat.le_refl n, ht⟩
  exact ⟨m, r, hm, hr⟩

/-! ### Who holds the lock -/

/-- While the flow's task waits for its lock, it holds it, or one that cancels the flow does. -/
theorem InProgress.holder_of_queued {w : World V I} {i : Instance V} {lock : LockId}
    {event : V.Event} (hp : InProgress P w e f t o p i (.queued lock event)) :
    (w.registry.lanes.lock lock).holder = some t ∨
      ∃ u r, (w.registry.lanes.lock lock).holder = some u ∧
        w.tasks[u]? = some ⟨e, .cancel r (.queued lock f)⟩ := by
  have hq := hp.orderly.queues
  have ht : t ∈ (w.registry.lanes.lock lock).parties :=
    (hq.party lock t).mpr ⟨_, f, hp.task, rfl⟩
  cases hh : (w.registry.lanes.lock lock).holder with
  | none =>
    -- Nobody waits for a lock that nobody holds.
    have hnil := hq.sound lock hh
    simp [Lock.parties, hh, hnil] at ht
  | some u =>
    obtain ⟨k, g, hk, hst⟩ := (hq.party lock u).mp (Lock.mem_parties_of_holder hh)
    -- The lock came with the flow's lane, so whoever asked for it did so for the flow.
    obtain ⟨lane, hl, hflow⟩ := hp.orderly.occupies e f i.params hp.runs
    have hlock := ((hp.orderly.stakes t _ lock f hp.task rfl).2.2 _ lane hl).mp hflow
    have hg : g = f :=
      (((hp.orderly.stakes u k lock g hk hst).2.2 _ lane hl).mpr hlock).symm.trans hflow
    subst hg
    obtain ⟨ke, work⟩ := k
    cases work with
    | process o' g' stage =>
      -- The flow's own task is the only one that processes its events.
      have hg' : g' = g := by
        cases stage <;> cases hst <;> rfl
      left
      rw [hp.alone u _ hk (by rw [← hg']; rfl)]
    | cancel r stage =>
      cases stage with
      | queued lock' g' =>
        cases hst
        have hke : ke = e := hp.cancels u _ r lock hk rfl
        exact .inr ⟨u, r, rfl, hke ▸ hk⟩
      | _ => cases hst
    | refused err => cases hst

/-! ### Flows that are never ended -/

/-- From step `n₀` on, the flow is under way and no step ends it. -/
structure Endless (P : Plan d h) (E : Execution V I) (e : EngineId) (f : FlowId) (t : TaskId)
    (o : Origin) (p : FlowParameters) (n₀ : Nat) : Prop where
  /-- The execution is fair. -/
  fair : E.Fair
  /-- Locks and tasks fit together. -/
  queues : ∀ n, Queues (E.world n)
  /-- No event is delivered to the flow. -/
  undelivered : ∀ n e' event, E.label n ≠ .dispatch e' f event
  /-- No step ends the flow. -/
  never : ∀ n i stage s, n₀ ≤ n → InProgress P (E.world n) e f t o p i stage →
    ¬ (E.world n).Ending (E.label n) f i s

namespace Endless

variable {E : Execution V I} {n₀ n : Nat} {i : Instance V} {stage : Processing V I}

/-- The flow stays under way, with no more left to do than before. -/
theorem later (hE : Endless P E e f t o p n₀) (hn : n₀ ≤ n)
    (hp : InProgress P (E.world n) e f t o p i stage) {m : Nat} (hm : n ≤ m) :
    ∃ i' stage', InProgress P (E.world m) e f t o p i' stage' ∧
      P.left i'.state stage' ≤ P.left i.state stage := by
  induction hm with
  | refl => exact ⟨i, stage, hp, Nat.le_refl _⟩
  | @step m hm ih =>
    obtain ⟨i', stage', hp', hle⟩ := ih
    rcases hp'.change (E.change m) (hE.undelivered m) with ⟨s, hs⟩ | ⟨i'', stage'', hp'', hle', -⟩
    · exact absurd hs (hE.never m i' stage' s (Nat.le_trans hn hm) hp')
    · exact ⟨i'', stage'', hp'', Nat.le_trans hle' hle⟩

/-- A task that stands where it stood before has the flow in the same stage. -/
theorem stage_eq {w : World V I} {stage' : Processing V I} {ke : EngineId}
    (hp : InProgress P w e f t o p i stage')
    (ht : w.tasks[t]? = some ⟨ke, .process o f stage⟩) : stage' = stage := by
  have heq := Option.some.inj (hp.task.symm.trans ht)
  injection heq with _ hw
  injection hw

/-- If the flow's task can take a step and nothing is at work, less is left to do some time. -/
theorem shrinks_of_canRun (hE : Endless P E e f t o p n₀) (hn : n₀ ≤ n)
    (hp : InProgress P (E.world n) e f t o p i stage) (hb : ¬ stage.Busy)
    (hc : (E.world n).CanRun t) : ∃ m i' stage', n ≤ m ∧
      InProgress P (E.world m) e f t o p i' stage' ∧
      P.left i'.state stage' < P.left i.state stage := by
  obtain ⟨m, reply, hm, hl, ht⟩ := hE.fair.takes_step hE.queues hc hp.task
  obtain ⟨i', stage', hp', hle⟩ := hE.later hn hp hm
  obtain rfl := stage_eq hp' ht
  rcases hp'.change (E.change m) (hE.undelivered m) with ⟨s, hs⟩ | ⟨i'', stage'', hp'', -, hlt⟩
  · exact absurd hs (hE.never m i' _ s (Nat.le_trans hn hm) hp')
  · exact ⟨m + 1, i'', stage'', Nat.le_succ_of_le hm, hp'',
      Nat.lt_of_lt_of_le (hlt reply hl hb) hle⟩

theorem canRun (hp : InProgress P (E.world n) e f t o p i stage)
    (hl : ∀ lock event, stage = .queued lock event →
      ((E.world n).registry.lanes.lock lock).holder = some t) : (E.world n).CanRun t := by
  intro reply
  obtain ⟨eng, he, hc⟩ := hp.onCourse
  refine run_isSome_iff.mpr ⟨_, eng, hp.task, he, by rw [hc.stands.result?_eq_none]; rfl, ?_⟩
  intro lock hlock
  cases stage with
  | queued lock' event =>
    cases hlock
    exact hl lock event rfl
  | _ => cases hlock

/-- The lock that the flow's task waits for is its own: a cancel that held it would end the
    flow. -/
theorem holder (hE : Endless P E e f t o p n₀) (hn : n₀ ≤ n) {lock : LockId} {event : V.Event}
    (hp : InProgress P (E.world n) e f t o p i (.queued lock event)) :
    ((E.world n).registry.lanes.lock lock).holder = some t := by
  rcases hp.holder_of_queued with hh | ⟨u, r, hh, hu⟩
  · exact hh
  · obtain ⟨eng, he, -⟩ := hp.onCourse
    have hc : (E.world n).CanRun u := by
      intro reply
      refine run_isSome_iff.mpr ⟨_, eng, hu, he, rfl, ?_⟩
      intro lock' hl
      cases hl
      exact hh
    obtain ⟨m, reply, hm, hl, hu'⟩ := hE.fair.takes_step hE.queues hc hu
    obtain ⟨i', stage', hp', -⟩ := hE.later hn hp hm
    obtain ⟨eng', he', -⟩ := hp'.onCourse
    -- The step is possible only with the lock in hand.
    have hstep : ((E.world m).run u reply).isSome = true := by
      have hs := E.step m
      rw [hl] at hs
      exact Option.isSome_iff_exists.mpr ⟨_, hs⟩
    obtain ⟨k, eng'', hk, -, -, hlock⟩ := run_isSome_iff.mp hstep
    rw [hu'] at hk
    cases hk
    have hheld := Lanes.isHeldBy_iff.mpr (hlock lock rfl)
    exact absurd ⟨u, reply, _, eng', hl, hu', he', .cancel hheld⟩
      (hE.never m i' stage' .cancelled (Nat.le_trans hn hm) hp')

/-- What is at work comes to a result, with no more left to do than before. -/
theorem result_of_work (hE : Endless P E e f t o p n₀) (hn : n₀ ≤ n) {α : Type}
    (wrap : Activity I α → Processing V I)
    (hwork : ∀ a, (Work.process o f (wrap a)).result? = none ∧
      (Work.process o f (wrap a)).awaited? = none)
    (hmove : ∀ {D D' : Desk V I} {now : Duration} {reply : I.Reply} {a : Activity I α}
      {w' : Work V I}, Desk.Move D t now reply (.process o f (wrap a)) D' w' →
      (∀ r, a ≠ .ended r) → w' = .process o f (wrap (a.step (D.moment now) reply)))
    {a : Activity I α} (hp : InProgress P (E.world n) e f t o p i (wrap a)) : ∃ m i' r, n ≤ m ∧
      InProgress P (E.world m) e f t o p i' (wrap (.ended r)) ∧
      P.left i'.state (wrap (.ended r)) ≤ P.left i.state (wrap a) := by
  obtain ⟨eng, he, -⟩ := hp.onCourse
  obtain ⟨m, r, hm, hr⟩ := hE.fair.result_of_work hE.queues wrap hwork hmove
    (List.getElem?_eq_some_iff.mp he).1 hp.task
  obtain ⟨i', stage', hp', hle⟩ := hE.later hn hp hm
  obtain rfl := stage_eq hp' hr
  exact ⟨m, i', r, hm, hp', hle⟩

/-- Some time nothing is at work. -/
theorem idle (hE : Endless P E e f t o p n₀) (hn : n₀ ≤ n)
    (hp : InProgress P (E.world n) e f t o p i stage) : ∃ m i' stage', n ≤ m ∧
      InProgress P (E.world m) e f t o p i' stage' ∧ ¬ stage'.Busy ∧
      P.left i'.state stage' ≤ P.left i.state stage := by
  cases stage with
  | handling lock q event hd a =>
    obtain ⟨m, i', r, hm, hp', hle⟩ := hE.result_of_work hn (.handling lock q event hd)
      (fun _ => ⟨rfl, rfl⟩) Desk.Move.handle_step hp
    exact ⟨m, i', _, hm, hp', fun hb => hb r rfl, hle⟩
  | acting lock q event s a =>
    obtain ⟨m, i', r, hm, hp', hle⟩ := hE.result_of_work hn (.acting lock q event s)
      (fun _ => ⟨rfl, rfl⟩) Desk.Move.act_step hp
    exact ⟨m, i', _, hm, hp', fun hb => hb r rfl, hle⟩
  | _ => exact ⟨n, i, _, Nat.le_refl n, hp, id, Nat.le_refl _⟩

/-- Less is left to do some time. -/
theorem shrinks (hE : Endless P E e f t o p n₀) (hn : n₀ ≤ n)
    (hp : InProgress P (E.world n) e f t o p i stage) : ∃ m i' stage', n ≤ m ∧
      InProgress P (E.world m) e f t o p i' stage' ∧
      P.left i'.state stage' < P.left i.state stage := by
  obtain ⟨m, i', stage', hm, hp', hb, hle⟩ := hE.idle hn hp
  have hm₀ := Nat.le_trans hn hm
  have hc : (E.world m).CanRun t := by
    refine canRun hp' ?_
    rintro lock event rfl
    exact hE.holder hm₀ hp'
  obtain ⟨m', i'', stage'', hm', hp'', hlt⟩ := hE.shrinks_of_canRun hm₀ hp' hb hc
  exact ⟨m', i'', stage'', Nat.le_trans hm hm', hp'', Nat.lt_of_lt_of_le hlt hle⟩

/-- There is no such flow: what is left to do cannot shrink forever. -/
theorem impossible (hE : Endless P E e f t o p n₀) (hn : n₀ ≤ n)
    (hp : InProgress P (E.world n) e f t o p i stage) : False := by
  induction hk : P.left i.state stage using Nat.strongRecOn generalizing n i stage with
  | ind k ih =>
    obtain ⟨m, i', stage', hm, hp', hlt⟩ := hE.shrinks hn hp
    exact ih _ (hk ▸ hlt) (Nat.le_trans hn hm) hp' rfl

end Endless

/-- In a fair execution a flow under way is ended by some step, if no event is delivered to it. -/
theorem comes_to_end {E : Execution V I} (hf : E.Fair) (hq : ∀ n, Queues (E.world n))
    (hno : ∀ n e' event, E.label n ≠ .dispatch e' f event) {n₀ : Nat} {i : Instance V}
    {stage : Processing V I} (hp : InProgress P (E.world n₀) e f t o p i stage) :
    ∃ n i' stage' s, n₀ ≤ n ∧ InProgress P (E.world n) e f t o p i' stage' ∧
      (E.world n).Ending (E.label n) f i' s := by
  refine Classical.byContradiction fun hnever => ?_
  have hE : Endless P E e f t o p n₀ :=
    ⟨hf, hq, hno, fun n i' stage' s hn hp' hs => hnever ⟨n, i', stage', s, hn, hp', hs⟩⟩
  exact hE.impossible (Nat.le_refl _) hp

end World

end ResourceFlow
