import ResourceFlow.Proofs.World.Executions
import ResourceFlow.Proofs.World.Progress
/-! # When a flow has ended

  The step that ends a flow finishes its instance (`World.RunStep.final`), also
  where it is forgotten at once (`World.RunStep.final_roomy`). If the flow was
  under way, the step frees its lane and drops what was recorded of its
  resource (`World.InProgress.freed`). From then on the flow does not run, no
  task has it in hand, and whoever asked for it is told how it ended or why
  it cannot be found (`World.Ended`).
-/

namespace ResourceFlow

variable {V : Vocabulary} {I : Interface}

/-- A task that ends without having had a flow in hand is told why. -/
theorem Desk.Move.settled {d d' : Desk V I} {t : TaskId} {now : Duration} {reply : I.Reply}
    {w w' : Work V I} (h : Move d t now reply w d' w') (hin : w.inHand? = none) {o : Origin}
    {f : FlowId} {outcome : Outcome V} (hw : w' = .process o f (.over outcome)) :
    Outcome.Settled outcome := by
  cases h with
  | unknown _ | ended _ _ | displaced _ _ _ | forgotten _ _ | late _ _ _ =>
    cases hw
    exact Origin.settled_report trivial
  | lost _ _ | halt _ | refuse _ _ _ _ | handlerCancelled _ | completed _ _ | parked _
  | actionCancelled _ => cases hin
  | _ => cases hw

/-- A flow ends in the same way where there is more room. -/
theorem Desk.Ending.roomy {g : Registry} {eng : Engine V I} {t : TaskId} {f : FlowId}
    {i : Instance V} {w : Work V I} {s : FlowStatus} (hd : Ending ⟨g, eng⟩ t f i w s) :
    Ending ⟨g, eng.roomy⟩ t f i w s := by
  cases hd with
  | halt hc => exact .halt hc
  | handler he => exact .handler he
  | action he => exact .action he
  | completed hr hs => exact .completed hr hs
  | cancel hh => exact .cancel hh

namespace World

variable {d : Definition V I} {h : Dispatcher V I}

/-! ### Flows that have ended -/

/-- The flow has been opened, does not run, and nobody is told otherwise. -/
structure Ended (w : World V I) (f : FlowId) : Prop where
  /-- Lanes, flows and tasks fit together. -/
  orderly : Orderly w
  /-- The flow has been opened. -/
  opened : w.Opened f
  /-- It does not run. -/
  gone : ∀ e, w.running? e f = none
  /-- Whoever asked for it is told so. -/
  settled : ∀ (t : TaskId) (k : Task V I) (o : Origin) (outcome : Outcome V),
    w.tasks[t]? = some k → k.work = .process o f (.over outcome) → Outcome.Settled outcome

namespace Ended

variable {w w' : World V I} {f : FlowId}

/-- No task has the flow in hand. -/
theorem not_inHand (he : Ended w f) {t : TaskId} {k : Task V I} {l : LockId} {p : FlowParameters}
    (hk : w.tasks[t]? = some k) (hp : k.work.inHand? = some (l, p)) : p.flow ≠ f := by
  rintro rfl
  have hrun := (he.orderly.atWork t k l p hk hp).1
  rw [he.gone] at hrun
  cases hrun

theorem addTask (he : Ended w f) (e : EngineId) {work : Work V I} (hs : work.stake? = none)
    (hi : work.inHand? = none)
    (ho : ∀ o outcome, work ≠ .process o f (.over outcome)) : Ended (w.addTask e work) f where
  orderly := he.orderly.addTask e hs hi
  opened := he.opened
  gone := he.gone
  settled t k o outcome hk hw := by
    rcases tasks_addTask.mp hk with hk | ⟨-, rfl⟩
    · exact he.settled t k o outcome hk hw
    · exact absurd hw (ho o outcome)

theorem run (he : Ended w f) {t : TaskId} {reply : I.Reply} {task : Task V I} {eng : Engine V I}
    {d' : Desk V I} {work' : Work V I} (hr : RunStep w t reply w' task eng d' work') :
    Ended w' f where
  orderly := he.orderly.run hr
  opened := (hr.opened f).mpr he.opened
  gone e := by
    -- No step makes a flow run that did not.
    rcases he.orderly.effect hr with hq | ⟨p, s, hq, -, -, hender⟩
    · rw [hr.running?_of_quiet hq]
      exact he.gone e
    · rw [he.orderly.running?_quits hr hq hender, he.gone, ite_self]
  settled u k o outcome hk hw := by
    rw [hr.tasks] at hk
    split at hk
    · cases hk
      have hw : work' = .process o f (.over outcome) := hw
      refine hr.move.settled ?_ hw
      cases hin : task.work.inHand? with
      | none => rfl
      | some x =>
        -- What the task has in hand is the flow that it processes events of.
        obtain ⟨o', g, stage, hp, hst⟩ := Work.stake?_of_inHand? (show _ = some (x.1, x.2) from hin)
        have hflow := hr.move.flow?_eq
        rw [hw, hp] at hflow
        cases hflow
        rw [(he.orderly.atWork t task x.1 x.2 hr.hasTask hin).2] at hst
        cases hst
        exact absurd rfl (he.not_inHand hr.hasTask hin)
    · exact he.settled u k o outcome hk hw

theorem change {l : Label V I} (he : Ended w f) (hc : Change w l w') : Ended w' f := by
  cases hc with
  | refuses _ => exact he.addTask _ rfl rfl fun o outcome hw => by cases hw
  | delivers => exact he.addTask _ rfl rfl fun o outcome hw => by cases hw
  | cancels => exact he.addTask _ rfl rfl fun o outcome hw => by cases hw
  | runs hr => exact he.run hr
  | elapses => exact ⟨he.orderly.change .elapses, he.opened, he.gone, he.settled⟩
  | opens ho =>
    refine ⟨he.orderly.opens ho, ho.opened_of_opened he.opened, ?_, ?_⟩
    · intro e
      rw [ho.running?, if_neg]
      · exact he.gone e
      · exact fun hc => ho.ne_of_opened he.opened hc.2
    · intro t k o outcome hk hw
      rcases ho.tasks.mp hk with hk | ⟨-, rfl⟩
      · exact he.settled t k o outcome hk hw
      · cases hw

end Ended

/-! ### The step that ends a flow -/

section Ending

variable {w w' : World V I} {f : FlowId} {u : TaskId} {reply : I.Reply} {k : Task V I}
  {eng : Engine V I} {d' : Desk V I} {work' : Work V I} {i : Instance V} {s : FlowStatus}

/-- What a step of a task that ends a flow makes of its instance. -/
theorem RunStep.final (hr : RunStep w u reply w' k eng d' work') (ho : Orderly w)
    (hi : w.instance? k.engine f = some i) (hrun : i.status = .running)
    (hd : Desk.Ending ⟨w.registry, eng⟩ u f i k.work s) :
    w'.instance? k.engine f = some (i.finish s w.now) ∨
      (w'.instance? k.engine f = none ∧ eng.retention ≤ eng.retired.length) := by
  have hi' : eng.instance? f = some i := (hr.instance?_self f).symm.trans hi
  have hended := hd.ended (ho.keyed _ _ _ hi).1 hi' hrun hr.move
  rw [hr.instance?, if_pos rfl]
  exact hended.1.imp_right And.symm

/-- After the step the flow does not run any more. -/
theorem RunStep.gone (hr : RunStep w u reply w' k eng d' work') (ho : Orderly w)
    (hi : w.instance? k.engine f = some i) (hrun : i.status = .running)
    (hd : Desk.Ending ⟨w.registry, eng⟩ u f i k.work s) (e' : EngineId) :
    w'.running? e' f = none := by
  rw [Option.eq_none_iff_forall_ne_some]
  intro q hq
  obtain ⟨i', hi', hrun', -⟩ := running?_eq_some_iff.mp hq
  -- The flow is kept by one engine.
  obtain ⟨i₀, hi₀, -⟩ := ho.kept_run hr hi'
  obtain rfl := ho.single _ _ _ _ _ hi₀ hi
  rcases hr.final ho hi hrun hd with hfin | ⟨hfin, -⟩
  · rw [hfin] at hi'
    cases hi'
    rw [Instance.status_finish_of_running hrun] at hrun'
    exact hd.status_ne hrun'
  · rw [hfin] at hi'
    cases hi'

/-- A step of a task can be taken where nothing is forgotten, too. -/
theorem run_roomy {t : TaskId} (hs : w.run t reply = some w') :
    ∃ w₁, w.roomy.run t reply = some w₁ := by
  have hrun : (w.run t reply).isSome = true := Option.isSome_iff_exists.mpr ⟨w', hs⟩
  obtain ⟨k, eng, hk, he, hres, hl⟩ := run_isSome_iff.mp hrun
  exact Option.isSome_iff_exists.mp
    (run_isSome_iff.mpr ⟨k, eng.roomy, hk, engine_roomy he, hres, hl⟩)

/-- A step that ends a flow can be taken from the world with more room, too, and leaves the finished
    instance there. -/
theorem RunStep.final_roomy (hr : RunStep w u reply w' k eng d' work') (ho : Orderly w)
    (hs : w.run u reply = some w') (hi : w.instance? k.engine f = some i)
    (hrun : i.status = .running) (hd : Desk.Ending ⟨w.registry, eng⟩ u f i k.work s) :
    ∃ w₁, w.roomy.run u reply = some w₁ ∧
      w₁.instance? k.engine f = some (i.finish s w.now) := by
  obtain ⟨w₁, hw₁⟩ := run_roomy hs
  refine ⟨w₁, hw₁, ?_⟩
  have hc : Change w.roomy (.run u reply) w₁ := change_of_step hw₁
  cases hc with
  | runs hr₁ =>
    obtain rfl := Option.some.inj (hr₁.hasTask.symm.trans hr.hasTask)
    obtain rfl := Option.some.inj (hr₁.hasEngine.symm.trans (engine_roomy hr.hasEngine))
    have hi' := (instance?_roomy w _ f).trans hi
    rcases hr₁.final ho.roomy hi' hrun hd.roomy with hfin | ⟨-, hfull⟩
    · exact hfin
    · exact absurd hfull (Nat.not_succ_le_self _)

end Ending

namespace InProgress

variable {P : Plan d h} {w w' : World V I} {e : EngineId} {f : FlowId} {t : TaskId} {o : Origin}
  {p : FlowParameters} {i : Instance V} {stage : Processing V I} {l : Label V I} {s : FlowStatus}

theorem running (hp : InProgress P w e f t o p i stage) : i.status = .running := by
  obtain ⟨eng, -, hcourse⟩ := hp.onCourse
  exact hcourse.running

/-- A flow is ended by a task of its engine. -/
theorem runStep_of_ending (hp : InProgress P w e f t o p i stage) (hend : w.Ending l f i s)
    (hc : Change w l w') :
    ∃ u reply k eng d' work', l = .run u reply ∧ RunStep w u reply w' k eng d' work' ∧
      k.engine = e ∧ Desk.Ending ⟨w.registry, eng⟩ u f i k.work s := by
  obtain ⟨u, reply, k, eng, rfl, hk, he, hd⟩ := hend
  have hke : k.engine = e := by
    have hown : k.work.flow? = some f → k.engine = e := by
      intro hf
      have hu := hp.alone u k hk hf
      rw [hu, hp.task] at hk
      cases hk
      rfl
    cases hw : k.work with
    | process o' g stage' =>
      rw [hw] at hd hown
      cases hd <;> exact hown rfl
    | cancel r stage' =>
      rw [hw] at hd
      cases hd with
      | cancel _ => exact hp.cancels u k r _ hk hw
    | refused err =>
      rw [hw] at hd
      cases hd
  cases hc with
  | runs hr =>
    have hkk := Option.some.inj (hr.hasTask.symm.trans hk)
    subst hkk
    have hee := Option.some.inj (hr.hasEngine.symm.trans he)
    subst hee
    exact ⟨u, reply, _, _, _, _, rfl, hr, hke, hd⟩

/-- After the step the flow does not run any more. -/
theorem gone (hp : InProgress P w e f t o p i stage) (hend : w.Ending l f i s)
    (hc : Change w l w') (e' : EngineId) : w'.running? e' f = none := by
  obtain ⟨u, reply, k, eng, d', work', -, hr, rfl, hd⟩ := hp.runStep_of_ending hend hc
  exact hr.gone hp.orderly hp.hasInstance hp.running hd e'

/-- After the step the lane is free and nothing is recorded of the resource. -/
theorem freed (hp : InProgress P w e f t o p i stage) (hend : w.Ending l f i s)
    (hc : Change w l w') :
    w'.lane? p.resourceId = none ∧ w'.status? p.resourceId = none := by
  have hgone := hp.gone hend hc e
  obtain ⟨u, reply, k, eng, d', work', -, hr, rfl, -⟩ := hp.runStep_of_ending hend hc
  rcases hp.orderly.effect hr with hq | ⟨q, s', hq, -, -, hender⟩
  · rw [hr.running?_of_quiet hq, hp.runs] at hgone
    cases hgone
  · have hf : f = q.flow := by
      refine Classical.byContradiction fun hne => ?_
      rw [hp.orderly.running?_quits hr hq hender, if_neg hne, hp.runs] at hgone
      cases hgone
    -- The step ends the flow with its own parameters, so it frees its own lane.
    obtain ⟨i', hi', hq'⟩ := hender.kept
    rw [← hf, hp.hasInstance] at hi'
    cases hi'
    have hqp : q = p := hq'.symm.trans hp.params
    have hh := hp.holds
    rw [hp.params, hf, hqp] at hh
    rw [hr.lane?_of_quits hq, hr.status?_of_quits hq, hqp]
    exact ⟨if_pos ⟨rfl, hh⟩, if_pos ⟨rfl, hh⟩⟩

/-- After the step the flow has ended. -/
theorem ended (hp : InProgress P w e f t o p i stage) (hend : w.Ending l f i s)
    (hc : Change w l w') : Ended w' f := by
  have hgone := hp.gone hend hc
  obtain ⟨u, reply, k, eng, d', work', -, hr, rfl, hd⟩ := hp.runStep_of_ending hend hc
  refine ⟨hp.orderly.run hr, (hr.opened f).mpr hp.opened, hgone, ?_⟩
  intro v j o' outcome hj hw
  rw [hr.tasks] at hj
  split at hj
  · cases hj
    obtain ⟨eng', he, hcourse⟩ := hp.onCourse
    obtain rfl : eng = eng' := Option.some.inj (hr.hasEngine.symm.trans he)
    exact (hd.ended hcourse.keyed hcourse.hasInstance hcourse.running hr.move).2 o' outcome hw
  · -- Before the step the flow was under way, and its own task was not over.
    have hv := hp.alone v j hj (by rw [hw]; rfl)
    rw [hv, hp.task] at hj
    cases hj
    cases hw
    obtain ⟨eng', -, hcourse⟩ := hp.onCourse
    exact absurd hcourse.stands id

end InProgress

end World

end ResourceFlow
