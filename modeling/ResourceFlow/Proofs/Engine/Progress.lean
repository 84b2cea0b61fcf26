import ResourceFlow.Proofs.Engine.Taken
import ResourceFlow.Proofs.Flow.Plan
/-! # The steps of a flow that follows a plan

  `Plan.OnCourse` says that a flow runs at an engine and stands where its
  plan allows: the event at hand is one that the state awaits, and what its
  handler or its action is still to come to leads on. A step of the task that
  processes the flow's events ends the flow (`Desk.Ending`), or keeps it on
  course with less left to do (`Plan.OnCourse.step`).
-/

namespace ResourceFlow

variable {V : Vocabulary} {I : Interface}

/-- A handler or an action is at work. -/
def Processing.Busy : Processing V I → Prop
  | .handling _ _ _ _ a => ∀ r, a ≠ .ended r
  | .acting _ _ _ _ a => ∀ r, a ≠ .ended r
  | _ => False

namespace Plan

variable {d : Definition V I} {h : Dispatcher V I}

/-! ### On course -/

/-- How much is left to do, counted in steps between which a handler or an action may be at
    work. -/
def left (P : Plan d h) (s : V.State) : Processing V I → Nat
  | .arriving _ => 4 * P.rank s + 5
  | .queued .. => 4 * P.rank s + 4
  | .acting .. => 4 * P.rank s + 3
  | .ready _ _ event =>
    if (h.handler? event.selector).isSome then 4 * P.rank s + 2 else 4 * P.rank s
  | .handling .. => 4 * P.rank s + 1
  | .over _ => 0

/-- The task stands where the plan allows. -/
def Stands (P : Plan d h) (i : Instance V) : Processing V I → Prop
  | .arriving event => P.awaits i.state event
  | .queued _ event => P.awaits i.state event
  | .ready _ p event => p = i.params ∧ P.awaits i.state event
  | .handling _ p event hd a => p = i.params ∧
      (a.Ensures fun r => ∀ next, r = .ok next →
        P.awaits i.state next ∧ h.handler? next.selector = none) ∧
      ∀ e, P.awaits i.state (hd.failureEvent e event) ∧
        h.handler? (hd.failureEvent e event).selector = none
  | .acting _ p event s a => p = i.params ∧ s = i.state ∧
      a.Ensures fun r => d.isTerminal s = false → d.LeadsOn (P.awaits s) s p event r
  | .over _ => False

/-- A flow that stands where its plan allows is not told to anyone yet. -/
theorem Stands.result?_eq_none {P : Plan d h} {i : Instance V} {stage : Processing V I} {o : Origin}
    {f : FlowId} (hs : P.Stands i stage) : (Work.process o f stage).result? = none := by
  cases stage <;> first | rfl | exact absurd hs id

/-- The flow runs at the engine, and stands where its plan allows. -/
structure OnCourse (P : Plan d h) (e : Engine V I) (f : FlowId) (i : Instance V)
    (stage : Processing V I) : Prop where
  /-- The engine's definition is the plan's. -/
  definition : e.definition = d
  /-- So are the handlers. -/
  dispatcher : e.dispatcher = h
  /-- The flow's instance. -/
  hasInstance : e.instance? f = some i
  /-- It is kept under its id. -/
  keyed : i.params.flow = f
  /-- It has not ended. -/
  running : i.status = .running
  /-- So far it followed the plan. -/
  chronicle : P.Chronicle i
  /-- Its task stands where the plan allows. -/
  stands : P.Stands i stage

namespace OnCourse

variable {P : Plan d h} {D D' : Desk V I} {f : FlowId} {i : Instance V} {stage : Processing V I}
  {t : TaskId} {o : Origin} {now : Duration} {reply : I.Reply} {w' : Work V I}

/-- A step that leaves the engine and the instance as they are. -/
theorem move_on (hc : P.OnCourse D.engine f i stage) {stage' : Processing V I}
    (hs : P.Stands i stage') (hd : D'.engine.definition = D.engine.definition)
    (hh : D'.engine.dispatcher = D.engine.dispatcher)
    (hi : D'.engine.instance? f = D.engine.instance? f) : P.OnCourse D'.engine f i stage' :=
  ⟨hd.trans hc.definition, hh.trans hc.dispatcher, hi.trans hc.hasInstance, hc.keyed, hc.running,
    hc.chronicle, hs⟩

/-- A step that enters the next state. -/
theorem enter (hc : P.OnCourse D.engine f i stage) (lock : LockId) {event : V.Event}
    {s : V.State} (a : AuditRecord) (m : Moment) (haw : P.awaits i.state event)
    (ht : d.transition i.state event.selector = some s) :
    ∃ i', P.OnCourse ((D.engine.record a).enter f s event) f i'
        (.acting lock i.params event s ((d.execute s i.params event).run m)) ∧
      i'.params = i.params ∧ i'.state = s := by
  have hent : ((D.engine.record a).enter f s event).instance? f = some (d.entered i s event) :=
    hc.definition ▸ Engine.instance?_enter (e := D.engine.record a) hc.hasInstance s event
  have hp := d.params_entered i s event
  have hs := d.state_entered i s event
  refine ⟨d.entered i s event, ⟨hc.definition, hc.dispatcher, hent, hp ▸ hc.keyed,
    (d.status_entered i s event).trans hc.running, ?_, ?_⟩, hp, hs⟩
  · exact hc.chronicle.enter (P.going _ _ haw) ht (d.history_entered i s event) hs
      (d.failure_entered i s event)
  · refine ⟨hp.symm, hs.symm, ?_⟩
    refine Program.Ensures.run ?_ m
    cases hter : d.isTerminal s with
    | true => exact (P.ended s i.params event hter).mono fun _ _ h => nomatch h
    | false => exact (P.entered _ event s i.params haw ht hter).mono fun _ hr _ => hr

/-- After a step that did not end the flow, the flow is on course, and less is left to do unless a
    handler or an action is at work. -/
def Continues (P : Plan d h) (o : Origin) (f : FlowId) (i : Instance V) (stage : Processing V I)
    (e' : Engine V I) (w' : Work V I) : Prop :=
  ∃ i' stage', w' = .process o f stage' ∧ P.OnCourse e' f i' stage' ∧ i'.params = i.params ∧
    P.left i'.state stage' ≤ P.left i.state stage ∧
    (¬ stage.Busy → P.left i'.state stage' < P.left i.state stage)

theorem continues_of_lt {stage' : Processing V I} {j : Instance V} {e' : Engine V I}
    (hc : P.OnCourse e' f j stage') (hp : j.params = i.params)
    (hlt : P.left j.state stage' < P.left i.state stage) :
    Continues P o f i stage e' (.process o f stage') :=
  ⟨j, stage', rfl, hc, hp, Nat.le_of_lt hlt, fun _ => hlt⟩

theorem left_ready_le (s : V.State) (lock : LockId) (p : FlowParameters) (event : V.Event) :
    P.left s (.ready lock p event : Processing V I) ≤ 4 * P.rank s + 2 := by
  simp only [left]
  split <;> omega

theorem left_ready_of_unhandled (s : V.State) (lock : LockId) (p : FlowParameters)
    {event : V.Event} (hn : h.handler? event.selector = none) :
    P.left s (.ready lock p event : Processing V I) = 4 * P.rank s := by
  simp [left, hn]

theorem left_ready_of_handled (s : V.State) (lock : LockId) (p : FlowParameters)
    {event : V.Event} {hd : Handler V I} (hh : h.handler? event.selector = some hd) :
    P.left s (.ready lock p event : Processing V I) = 4 * P.rank s + 2 := by
  simp [left, hh]

/-! A step of the task that processes the flow's events, stage by stage. -/

theorem step_arriving {event : V.Event} (hc : P.OnCourse D.engine f i (.arriving event))
    (hl : D.registry.lanes.holds i.params.resourceId f = true)
    (hm : Desk.Move D t now reply (.process o f (.arriving event)) D' w') :
    Continues P o f i (.arriving event) D'.engine w' := by
  have hi := hc.hasInstance
  cases hm with
  | unknown hn =>
    rw [hi] at hn
    cases hn
  | ended hj he =>
    obtain rfl := Option.some.inj (hj.symm.trans hi)
    exact absurd hc.running he
  | displaced hj _ hd =>
    obtain rfl := Option.some.inj (hj.symm.trans hi)
    rw [hl] at hd
    cases hd
  | queue _ _ _ _ =>
    exact continues_of_lt (hc.move_on hc.stands rfl rfl rfl) rfl (Nat.lt_succ_self _)

theorem step_queued {lock : LockId} {event : V.Event}
    (hc : P.OnCourse D.engine f i (.queued lock event))
    (hm : Desk.Move D t now reply (.process o f (.queued lock event)) D' w') :
    Continues P o f i (.queued lock event) D'.engine w' := by
  have hi := hc.hasInstance
  cases hm with
  | forgotten _ hn =>
    rw [hi] at hn
    cases hn
  | late _ hj he =>
    obtain rfl := Option.some.inj (hj.symm.trans hi)
    exact absurd hc.running he
  | @admitted _ _ _ _ j _ hj _ =>
    obtain rfl := Option.some.inj (hj.symm.trans hi)
    refine continues_of_lt (hc.move_on ⟨rfl, hc.stands⟩ rfl rfl rfl) rfl ?_
    have hle := left_ready_le (P := P) j.state lock j.params event
    show _ < 4 * P.rank j.state + 4
    omega

theorem step_ready {lock : LockId} {p : FlowParameters} {event : V.Event}
    (hc : P.OnCourse D.engine f i (.ready lock p event))
    (hm : Desk.Move D t now reply (.process o f (.ready lock p event)) D' w') :
    (∃ s, Desk.Ending D t f i (.process o f (.ready lock p event)) s) ∨
      Continues P o f i (.ready lock p event) D'.engine w' := by
  have hi := hc.hasInstance
  obtain ⟨rfl, haw⟩ := hc.stands
  cases hm with
  | halt hcan => exact .inl ⟨_, .halt hcan⟩
  | lost _ hn =>
    rw [hc.keyed, hi] at hn
    cases hn
  | @hand _ _ _ _ _ j hd _ hj hh =>
    rw [hc.dispatcher] at hh
    have hans := P.handled _ _ hd haw hh
    refine .inr (continues_of_lt (j := i) (hc.move_on ?_ rfl rfl rfl) rfl ?_)
    · exact ⟨rfl, (hans.1 _).run _, hans.2⟩
    · rw [left_ready_of_handled _ _ _ hh]
      exact Nat.lt_succ_self _
  | @refuse _ _ _ _ _ j _ hj hn ht =>
    -- An event that the plan allows has a transition.
    rw [hc.keyed] at hj
    obtain rfl := Option.some.inj (hj.symm.trans hi)
    rw [hc.dispatcher] at hn
    have hsome := P.next _ _ haw hn
    rw [hc.definition] at ht
    rw [ht] at hsome
    cases hsome
  | @enter _ _ _ _ _ j s _ hj hn ht =>
    rw [hc.keyed] at hj ⊢
    obtain rfl := Option.some.inj (hj.symm.trans hi)
    rw [hc.dispatcher] at hn
    rw [hc.definition] at ht ⊢
    obtain ⟨i', hc', hp, hst⟩ := hc.enter lock
      (.ofEvent j.params j.state (some s) event) (D.moment now) haw ht
    refine .inr (continues_of_lt hc' hp ?_)
    rw [left_ready_of_unhandled _ _ _ hn, hst]
    have hrank := P.descends _ _ _ ht
    show 4 * P.rank s + 3 < _
    omega

theorem step_handling {lock : LockId} {p : FlowParameters} {event : V.Event} {hd : Handler V I}
    {a : Activity I (HandlerResult V)} (hc : P.OnCourse D.engine f i (.handling lock p event hd a))
    (hm : Desk.Move D t now reply (.process o f (.handling lock p event hd a)) D' w') :
    (∃ s, Desk.Ending D t f i (.process o f (.handling lock p event hd a)) s) ∨
      Continues P o f i (.handling lock p event hd a) D'.engine w' := by
  obtain ⟨rfl, hq, hf⟩ := hc.stands
  -- What the handler leads to, it does not consume.
  have hready : ∀ {D' : Desk V I} {next : V.Event} {r : HandlerResult V}, D'.engine = D.engine →
      P.awaits i.state next → h.handler? next.selector = none →
      Continues P o f i (.handling lock i.params event hd (.ended r)) D'.engine
        (.process o f (.ready lock i.params next)) := by
    intro D' next r he haw hn
    refine continues_of_lt (j := i) (he ▸ hc.move_on ⟨rfl, haw⟩ rfl rfl rfl) rfl ?_
    rw [left_ready_of_unhandled _ _ _ hn]
    exact Nat.lt_succ_self _
  cases hm with
  | handle hn =>
    exact .inr ⟨i, _, rfl, hc.move_on ⟨rfl, hq.step _ _, hf⟩ rfl rfl rfl, rfl, Nat.le_refl _,
      fun hb => absurd hn hb⟩
  | handled =>
    obtain ⟨haw, hn⟩ := hq _ rfl
    exact .inr (hready rfl haw hn)
  | handlerFailed _ =>
    obtain ⟨haw, hn⟩ := hf _
    exact .inr (hready rfl haw hn)
  | handlerCancelled he => exact .inl ⟨_, .handler he⟩

theorem step_acting {lock : LockId} {p : FlowParameters} {event : V.Event} {s : V.State}
    {a : Activity I (ActionResult V)} (hc : P.OnCourse D.engine f i (.acting lock p event s a))
    (hm : Desk.Move D t now reply (.process o f (.acting lock p event s a)) D' w') :
    (∃ s', Desk.Ending D t f i (.process o f (.acting lock p event s a)) s') ∨
      Continues P o f i (.acting lock p event s a) D'.engine w' := by
  obtain ⟨rfl, rfl, hq⟩ := hc.stands
  have hready : ∀ {D' : Desk V I} {next : V.Event} {r : ActionResult V}, D'.engine = D.engine →
      P.awaits i.state next →
      Continues P o f i (.acting lock i.params event i.state (.ended r)) D'.engine
        (.process o f (.ready lock i.params next)) := by
    intro D' next r he haw
    refine continues_of_lt (j := i) (he ▸ hc.move_on ⟨rfl, haw⟩ rfl rfl rfl) rfl ?_
    have hle := left_ready_le (P := P) i.state lock i.params next
    show _ < 4 * P.rank i.state + 3
    omega
  cases hm with
  | act hn =>
    exact .inr ⟨i, _, rfl, hc.move_on ⟨rfl, rfl, hq.step _ _⟩ rfl rfl rfl, rfl, Nat.le_refl _,
      fun hb => absurd hn hb⟩
  | acted hter =>
    obtain ⟨e, he, haw⟩ := hq (hc.definition ▸ hter)
    cases he
    exact .inr (hready rfl haw)
  | actionFailed _ hter =>
    have haw := hq (hc.definition ▸ hter)
    rw [hc.definition]
    exact .inr (hready rfl haw)
  | completed hr hter => exact .inl ⟨_, .completed hr hter⟩
  | parked hter =>
    -- The plan has an event at hand after every action.
    obtain ⟨e, he, -⟩ := hq (hc.definition ▸ hter)
    cases he
  | actionCancelled he => exact .inl ⟨_, .action he⟩

/-- A step of the task that processes the flow's events ends the flow or keeps it on course. -/
theorem step (hc : P.OnCourse D.engine f i stage)
    (hl : D.registry.lanes.holds i.params.resourceId f = true)
    (hm : Desk.Move D t now reply (.process o f stage) D' w') :
    (∃ s, Desk.Ending D t f i (.process o f stage) s) ∨ Continues P o f i stage D'.engine w' := by
  cases stage with
  | arriving event => exact .inr (hc.step_arriving hl hm)
  | queued lock event => exact .inr (hc.step_queued hm)
  | ready lock p event => exact hc.step_ready hm
  | handling lock p event hd a => exact hc.step_handling hm
  | acting lock p event s a => exact hc.step_acting hm
  | _ => exact absurd hc.stands id

end OnCourse

end Plan

end ResourceFlow
