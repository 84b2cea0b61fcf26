import ResourceFlow.Proofs.Engine.Progress
import ResourceFlow.Proofs.World.Cancellation
/-! # A flow under way

  `World.InProgress` is the invariant of a flow that was started and to which
  no event is delivered: one task processes its events, the flow is on course
  at its engine, and whoever waits to cancel it does so at that engine. Every
  step keeps it or ends the flow (`World.InProgress.change`); a step never
  adds to what is left to do, and a step of the flow's own task takes
  something away, unless a handler or an action is at work.
-/

namespace ResourceFlow

variable {V : Vocabulary} {I : Interface}

/-- A task processes events of one flow. -/
theorem Desk.Move.flow?_eq {d d' : Desk V I} {t : TaskId} {now : Duration} {reply : I.Reply}
    {w w' : Work V I} (h : Move d t now reply w d' w') : w'.flow? = w.flow? := by
  cases h <;> rfl

/-- Whoever asks for a lock to cancel a flow does so where the flow is kept. -/
theorem Desk.Move.owns_of_queued {d d' : Desk V I} {t : TaskId} {now : Duration}
    {reply : I.Reply} {w w' : Work V I} (h : Move d t now reply w d' w') {r : ResourceId}
    {lock : LockId} {f : FlowId} (hw : w' = .cancel r (.queued lock f)) :
    d.engine.owns f = true := by
  cases h with
  | request hl ho =>
    cases hw
    exact ho
  | _ => cases hw

namespace World

variable {d : Definition V I} {h : Dispatcher V I}

/-- The next step under this label ends flow `f`, whose instance is `i`, with that status. -/
def Ending (w : World V I) (l : Label V I) (f : FlowId) (i : Instance V) (s : FlowStatus) : Prop :=
  ∃ t reply task eng, l = .run t reply ∧ w.tasks[t]? = some task ∧
    w.engines[task.engine]? = some eng ∧ Desk.Ending ⟨w.registry, eng⟩ t f i task.work s

/-- The flow is under way: its events are processed by task `t` and no other. -/
structure InProgress (P : Plan d h) (w : World V I) (e : EngineId) (f : FlowId) (t : TaskId)
    (o : Origin) (p : FlowParameters) (i : Instance V) (stage : Processing V I) : Prop where
  /-- Lanes, flows and tasks fit together. -/
  orderly : Orderly w
  /-- The flow follows its plan. -/
  onCourse : ∃ eng, w.engines[e]? = some eng ∧ P.OnCourse eng f i stage
  /-- Its parameters stay the same. -/
  params : i.params = p
  /-- The task processes its events. -/
  task : w.tasks[t]? = some ⟨e, .process o f stage⟩
  /-- No other task does. -/
  alone : ∀ (u : TaskId) (k : Task V I), w.tasks[u]? = some k → k.work.flow? = some f → u = t
  /-- Whoever waits to cancel it does so where it is kept. -/
  cancels : ∀ (u : TaskId) (k : Task V I) (r : ResourceId) (l : LockId), w.tasks[u]? = some k →
    k.work = .cancel r (.queued l f) → k.engine = e

namespace InProgress

variable {P : Plan d h} {w w' : World V I} {e : EngineId} {f : FlowId} {t : TaskId} {o : Origin}
  {p : FlowParameters} {i : Instance V} {stage : Processing V I}

theorem hasInstance (hp : InProgress P w e f t o p i stage) : w.instance? e f = some i := by
  obtain ⟨eng, he, hc⟩ := hp.onCourse
  unfold World.instance?
  rw [he]
  exact hc.hasInstance

theorem runs (hp : InProgress P w e f t o p i stage) : w.running? e f = some i.params := by
  obtain ⟨eng, he, hc⟩ := hp.onCourse
  exact running?_eq_some_iff.mpr ⟨i, hp.hasInstance, hc.running, rfl⟩

theorem opened (hp : InProgress P w e f t o p i stage) : w.Opened f :=
  (hp.orderly.running_keyed hp.runs).2

theorem holds (hp : InProgress P w e f t o p i stage) :
    w.registry.lanes.holds i.params.resourceId f = true :=
  Lanes.holds_iff.mpr (hp.orderly.occupies e f i.params hp.runs)

/-- A flow that runs is not retired. -/
theorem not_retired (hp : InProgress P w e f t o p i stage) {eng : Engine V I}
    (he : w.engines[e]? = some eng) : f ∉ eng.retired := by
  intro hf
  have hrun := hp.runs
  unfold World.running? at hrun
  rw [he, Option.bind_some, (hp.orderly.retired e eng f he hf).1] at hrun
  cases hrun

theorem addTask (hp : InProgress P w e f t o p i stage) (e' : EngineId) {work : Work V I}
    (hf : work.flow? ≠ some f) (hs : work.stake? = none) (hi : work.inHand? = none) :
    InProgress P (w.addTask e' work) e f t o p i stage where
  orderly := hp.orderly.addTask e' hs hi
  onCourse := hp.onCourse
  params := hp.params
  task := tasks_addTask.mpr (.inl hp.task)
  alone u k hk hkf := by
    rcases tasks_addTask.mp hk with hk | ⟨-, rfl⟩
    · exact hp.alone u k hk hkf
    · exact absurd hkf hf
  cancels u k r l hk hw := by
    rcases tasks_addTask.mp hk with hk | ⟨-, rfl⟩
    · exact hp.cancels u k r l hk hw
    · have hw : work = .cancel r (.queued l f) := hw
      rw [hw] at hs
      cases hs

theorem opens {e' : EngineId} {serial : Nat} {q : StartRequest V} {eng : Engine V I}
    {g : Registry} (hp : InProgress P w e f t o p i stage) (ho : OpenStep w e' serial q w' eng g) :
    InProgress P w' e f t o p i stage := by
  have hne := ho.ne_of_opened hp.opened
  refine ⟨hp.orderly.opens ho, ?_, hp.params, ho.tasks.mpr (.inl hp.task), ?_, ?_⟩
  · obtain ⟨eng₀, he, hc⟩ := hp.onCourse
    rw [ho.engines]
    -- A flow that is opened at the same engine is kept under another id.
    split
    · rename_i hee
      rw [hee, ho.hasEngine] at he
      cases he
      refine ⟨_, rfl, hc.definition, hc.dispatcher, ?_, hc.keyed, hc.running, hc.chronicle,
        hc.stands⟩
      rw [Engine.instance?_add]
      exact (if_neg hne).trans hc.hasInstance
    · exact ⟨eng₀, he, hc⟩
  · intro u k hk hkf
    rcases ho.tasks.mp hk with hk | ⟨-, rfl⟩
    · exact hp.alone u k hk hkf
    · exact absurd (Option.some.inj hkf).symm hne
  · intro u k r l hk hw
    rcases ho.tasks.mp hk with hk | ⟨-, rfl⟩
    · exact hp.cancels u k r l hk hw
    · -- The task that opens a flow cancels none.
      cases hw

/-! ### Steps of tasks -/

section Run

variable {u : TaskId} {reply : I.Reply} {k : Task V I} {eng : Engine V I} {d' : Desk V I}
  {work' : Work V I}

/-- What holds of the tasks after a step, holds of them before it. -/
theorem tasks_run (hp : InProgress P w e f t o p i stage)
    (hr : RunStep w u reply w' k eng d' work') :
    (∀ (v : TaskId) (j : Task V I), w'.tasks[v]? = some j → j.work.flow? = some f → v = t) ∧
    ∀ (v : TaskId) (j : Task V I) (r : ResourceId) (l : LockId), w'.tasks[v]? = some j →
      j.work = .cancel r (.queued l f) → j.engine = e := by
  constructor
  · intro v j hj hjf
    rw [hr.tasks] at hj
    split at hj
    · rename_i hv
      cases hj
      -- A task never changes the flow that it processes events of.
      have hf : work'.flow? = some f := hjf
      rw [hr.move.flow?_eq] at hf
      rw [hv]
      exact hp.alone u k hr.hasTask hf
    · exact hp.alone v j hj hjf
  · intro v j r l hj hw
    rw [hr.tasks] at hj
    split at hj
    · cases hj
      -- The engine owns the flow, and no other does.
      have ho := hr.move.owns_of_queued hw
      obtain ⟨i', hi'⟩ := Option.isSome_iff_exists.mp ho
      have hi' : w.instance? k.engine f = some i' := (hr.instance?_self f).trans hi'
      exact hp.orderly.single _ _ _ _ _ hi' hp.hasInstance
    · exact hp.cancels v j r l hj hw

/-- A step of the flow's task ends the flow or takes it further. -/
theorem run_self (hp : InProgress P w e f t o p i stage)
    (hr : RunStep w t reply w' k eng d' work') :
    (∃ s, w.Ending (.run t reply) f i s) ∨
    ∃ i' stage', InProgress P w' e f t o p i' stage' ∧
      P.left i'.state stage' ≤ P.left i.state stage ∧
      (¬ stage.Busy → P.left i'.state stage' < P.left i.state stage) := by
  have hk : k = ⟨e, .process o f stage⟩ := Option.some.inj (hr.hasTask.symm.trans hp.task)
  subst hk
  obtain ⟨eng', he, hc⟩ := hp.onCourse
  obtain rfl : eng = eng' := Option.some.inj (hr.hasEngine.symm.trans he)
  rcases Plan.OnCourse.step (D := ⟨w.registry, eng⟩) hc hp.holds hr.move with ⟨s, hs⟩ | hcont
  · exact .inl ⟨s, t, reply, _, eng, rfl, hr.hasTask, hr.hasEngine, hs⟩
  · obtain ⟨i', stage', hw, hc', hpar, hle, hlt⟩ := hcont
    refine .inr ⟨i', stage', ⟨hp.orderly.run hr, ?_, hpar.trans hp.params, ?_, ?_, ?_⟩, hle, hlt⟩
    · exact ⟨d'.engine, by rw [hr.engines, if_pos rfl], hc'⟩
    · rw [hr.tasks, if_pos rfl, hw]
    · exact (hp.tasks_run hr).1
    · exact (hp.tasks_run hr).2

/-- A step of another task leaves the flow where it is, unless it ends it. -/
theorem run_other (hp : InProgress P w e f t o p i stage)
    (hr : RunStep w u reply w' k eng d' work') (hu : u ≠ t)
    (hend : ∀ s, ¬ w.Ending (.run u reply) f i s) : InProgress P w' e f t o p i stage := by
  refine ⟨hp.orderly.run hr, ?_, hp.params, ?_, (hp.tasks_run hr).1, (hp.tasks_run hr).2⟩
  · obtain ⟨eng₀, he, hc⟩ := hp.onCourse
    rw [hr.engines]
    split
    · rename_i hee
      subst hee
      rw [hr.hasEngine] at he
      cases he
      -- At the same engine, the other task leaves the flow's instance alone.
      have hfix := hr.move.fixed
      refine ⟨_, rfl, hfix.1.trans hc.definition, hfix.2.1.trans hc.dispatcher, ?_, hc.keyed,
        hc.running, hc.chronicle, hc.stands⟩
      refine (hr.move.instance?_ne (hp.not_retired hr.hasEngine) ?_ ?_).trans hc.hasInstance
      · -- What the task has in hand is another flow.
        rintro l p hin rfl
        have hst := (hp.orderly.atWork u k l p hr.hasTask hin).2
        obtain ⟨o', g, stage', hw, hst'⟩ := Work.stake?_of_inHand? hin
        rw [hst] at hst'
        cases hst'
        exact hu (hp.alone u k hr.hasTask (by rw [hw]; rfl))
      · rintro r l g j hw hj rfl
        have hg : j.params.flow = g :=
          (hp.orderly.keyed _ _ _ ((hr.instance?_self g).trans hj)).1
        -- With the lock in hand, the cancel ends the flow.
        have hm := hr.move
        rw [hw] at hm
        cases hm with
        | gone _ hn =>
          have hj : eng.instance? g = some j := hj
          have hn : eng.instance? g = none := hn
          rw [hj] at hn
          cases hn
        | finish hh _ =>
          refine hend .cancelled ⟨u, reply, k, eng, rfl, hr.hasTask, hr.hasEngine, ?_⟩
          rw [hw, hg]
          exact .cancel hh
    · exact ⟨eng₀, he, hc⟩
  · rw [hr.tasks, if_neg (Ne.symm hu)]
    exact hp.task

end Run

/-- Every step ends the flow or keeps it under way, if no event is delivered to it. -/
theorem change {l : Label V I} (hp : InProgress P w e f t o p i stage) (hc : Change w l w')
    (hno : ∀ e' event, l ≠ .dispatch e' f event) :
    (∃ s, w.Ending l f i s) ∨
    ∃ i' stage', InProgress P w' e f t o p i' stage' ∧
      P.left i'.state stage' ≤ P.left i.state stage ∧
      (∀ reply, l = .run t reply → ¬ stage.Busy →
        P.left i'.state stage' < P.left i.state stage) := by
  -- All but the steps of tasks leave the flow where it is.
  have hstay : InProgress P w' e f t o p i stage → (∀ reply, l ≠ .run t reply) →
      ∃ i' stage', InProgress P w' e f t o p i' stage' ∧
        P.left i'.state stage' ≤ P.left i.state stage ∧
        (∀ reply, l = .run t reply → ¬ stage.Busy →
          P.left i'.state stage' < P.left i.state stage) :=
    fun hp' hl => ⟨i, stage, hp', Nat.le_refl _, fun reply hr => absurd hr (hl reply)⟩
  cases hc with
  | opens ho => exact .inr (hstay (hp.opens ho) nofun)
  | refuses _ => exact .inr (hstay (hp.addTask _ nofun rfl rfl) nofun)
  | @delivers e' g event =>
    -- Nobody delivers an event to this flow, so the new task is another flow's.
    refine .inr (hstay (hp.addTask _ ?_ rfl rfl) nofun)
    intro hg
    cases hg
    exact hno e' event rfl
  | cancels => exact .inr (hstay (hp.addTask _ nofun rfl rfl) nofun)
  | elapses =>
    refine .inr (hstay ?_ nofun)
    exact ⟨hp.orderly.change .elapses, hp.onCourse, hp.params, hp.task, hp.alone, hp.cancels⟩
  | @runs u reply _ k eng d' work' hr =>
    by_cases hu : u = t
    · subst hu
      rcases hp.run_self hr with hs | ⟨i', stage', hp', hle, hlt⟩
      · exact .inl hs
      · exact .inr ⟨i', stage', hp', hle, fun _ _ => hlt⟩
    · by_cases hend : ∃ s, w.Ending (.run u reply) f i s
      · exact .inl hend
      · refine .inr (hstay (hp.run_other hr hu fun s hs => hend ⟨s, hs⟩) ?_)
        rintro reply' hl
        cases hl
        exact hu rfl

end InProgress

end World

end ResourceFlow
