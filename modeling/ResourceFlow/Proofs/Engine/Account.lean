import ResourceFlow.Proofs.Engine.Taken
import ResourceFlow.Proofs.Program.Talk
/-! # Flows that account for what they say

  An `Account` of a definition ties the run of a flow to the talk of its
  handlers and actions: what was said when an event is at hand, which calls a
  run may make after which talk, and what was said when a terminal state is
  entered. It is proved once for each handler and each action, as programs.

  `Account.Fits` says that a flow runs at an engine and stands where its
  account allows. A step of the task that processes the flow's events ends the
  flow, or it fits afterwards, with what was said in the step added
  (`Account.Fits.step`).
-/

namespace ResourceFlow

variable {V : Vocabulary} {I : Interface}

/-- What is said in a step of a task: what it is told, then what it asks. -/
def Work.said (now : Duration) (reply : I.Reply) (w w' : Work V I) : Talk I :=
  w.need.told now reply ++ w'.need.asked now

/-- A call is what is said last in a step, after what the task is told. -/
theorem Work.told_of_asked {now c : Duration} {reply : I.Reply} {w w' : Work V I}
    {before after : Talk I} {q : I.Call}
    (h : Work.said now reply w w' = before ++ .asked c q :: after) :
    before = w.need.told now reply ∧ after = [] ∧ c = now ∧ w'.need = .answer q := by
  unfold said at h
  -- The answer, if there is one, is no call.
  have hasked : ∀ {before after : Talk I}, w'.need.asked now = before ++ .asked c q :: after →
      before = [] ∧ after = [] ∧ c = now ∧ w'.need = .answer q := by
    intro before after h
    cases hn : w'.need with
    | answer q' =>
      rw [hn] at h
      cases before with
      | nil =>
        cases h
        exact ⟨rfl, rfl, rfl, rfl⟩
      | cons _ rest =>
        obtain ⟨-, h⟩ := List.cons.inj h
        cases rest <;> cases h
    | _ =>
      rw [hn] at h
      cases before <;> cases h
  cases hn : w.need with
  | answer q' =>
    rw [hn] at h
    cases before with
    | nil => cases h
    | cons _ rest =>
      obtain ⟨hfirst, h⟩ := List.cons.inj h
      obtain ⟨rfl, hrest⟩ := hasked h
      subst hfirst
      exact ⟨rfl, hrest⟩
  | _ =>
    rw [hn] at h
    exact hasked h

/-- A task that is about to end a flow needs nothing for it. -/
theorem Desk.Ending.need_eq {d : Desk V I} {t : TaskId} {f : FlowId} {i : Instance V}
    {w : Work V I} {s : FlowStatus} (h : Ending d t f i w s) : w.need = .nothing := by
  cases h <;> rfl

/-- What the outcome of a handler must fit: the event that follows is ready, unless the handler
    noticed a cancellation. -/
def Handler.Resumes (hd : Handler V I) (event : V.Event) (cancelled : Prop)
    (ready : V.Event → Prop) : HandlerResult V → Prop
  | .ok next => ready next
  | .error e => (e.isCancellation = true → cancelled) ∧
      (e.isCancellation = false → ready (hd.failureEvent e event))

/-- What the outcome of an action must fit: there is a next event and it is ready, unless the action
    noticed a cancellation. -/
def Definition.Resumes (d : Definition V I) (s : V.State) (p : FlowParameters) (event : V.Event)
    (cancelled : Prop) (ready : V.Event → Prop) : ActionResult V → Prop
  | .ok next => ∃ e, next = some e ∧ ready e
  | .error e => (e.isCancellation = true → cancelled) ∧
      (e.isCancellation = false → ready (d.failureEvent s event (some p) e))

/-- What holds between the run of a flow and the talk of its handlers and actions. -/
structure Account (d : Definition V I) (h : Dispatcher V I) where
  /-- Which resources may be seen to be cancelled. -/
  seen : ResourceId → Prop
  /-- After which talk a run may make a call. -/
  allows : Instance V → Talk I → I.Call → Prop
  /-- After which talk an event may be at hand. -/
  ready : Instance V → V.Event → Talk I → Prop
  /-- After which talk a run may have entered a terminal state. -/
  closing : Instance V → Talk I → Prop
  /-- No event is at hand in a terminal state. -/
  going : ∀ i event talk, ready i event talk → d.isTerminal i.state = false
  /-- Handlers keep to the account. -/
  handled : ∀ i event talk hd now, ready i event talk → h.handler? event.selector = some hd →
    (hd.accept (some i.params.flow) event).Obeys ⟨seen, allows i⟩ (fun _ talk r =>
      hd.Resumes event (seen i.params.resourceId) (ready i · talk) r) now talk
  /-- An event at hand that has no handler has a transition. -/
  next : ∀ i event talk, ready i event talk → h.handler? event.selector = none →
    (d.transition i.state event.selector).isSome = true
  /-- The actions of states that are entered keep to the account. -/
  entered : ∀ i event talk s now, ready i event talk → h.handler? event.selector = none →
    d.transition i.state event.selector = some s → d.isTerminal s = false →
    (d.execute s i.params event).Obeys ⟨seen, allows (d.entered i s event)⟩ (fun _ talk r =>
      d.Resumes s i.params event (seen i.params.resourceId)
        (ready (d.entered i s event) · talk) r) now talk
  /-- Those of terminal states say nothing and do not fail. -/
  closed : ∀ i event talk s, ready i event talk → h.handler? event.selector = none →
    d.transition i.state event.selector = some s → d.isTerminal s = true →
    closing (d.entered i s event) talk ∧ ∃ next, d.execute s i.params event = .done (.ok next)

namespace Account

variable {d : Definition V I} {h : Dispatcher V I}

/-- The rules to which a run is held. -/
def rules (A : Account d h) (i : Instance V) : Rules I := ⟨A.seen, A.allows i⟩

/-! ### Standing where the account allows -/

/-- The task stands where the account allows, after what was said. -/
def Stands (A : Account d h) (i : Instance V) (talk : Talk I) : Processing V I → Prop
  | .arriving event => A.ready i event talk
  | .queued _ event => A.ready i event talk
  | .ready _ p event => p = i.params ∧ A.ready i event talk
  | .handling _ p event hd a => p = i.params ∧ d.isTerminal i.state = false ∧
      a.Obeys (A.rules i) (fun _ talk r =>
        hd.Resumes event (A.seen i.params.resourceId) (A.ready i · talk) r) talk
  | .acting _ p event s a => p = i.params ∧ s = i.state ∧
      (d.isTerminal s = true → A.closing i talk ∧ ∃ next, a = .ended (.ok next)) ∧
      (d.isTerminal s = false → a.Obeys (A.rules i) (fun _ talk r =>
        d.Resumes s i.params event (A.seen i.params.resourceId) (A.ready i · talk) r) talk)
  | .over _ => False

/-- In a terminal state, what was said allows to close. -/
theorem Stands.closing {A : Account d h} {i : Instance V} {talk : Talk I}
    {stage : Processing V I} (hs : A.Stands i talk stage) (ht : d.isTerminal i.state = true) :
    A.closing i talk := by
  -- Only an action is at work in a terminal state.
  have hno : ∀ event, ¬ A.ready i event talk := by
    intro event hr
    rw [A.going i event talk hr] at ht
    cases ht
  cases stage with
  | arriving event => exact absurd hs (hno event)
  | queued lock event => exact absurd hs (hno event)
  | ready lock p event => exact absurd hs.2 (hno event)
  | handling lock p event hd a =>
    rw [hs.2.1] at ht
    cases ht
  | acting lock p event s a =>
    obtain ⟨-, rfl, hclose, -⟩ := hs
    exact (hclose ht).1
  | _ => exact absurd hs id

/-- A state that is entered on an event at hand. -/
theorem stands_enter (A : Account d h) {i : Instance V} {event : V.Event} {talk : Talk I}
    {s : V.State} (hready : A.ready i event talk) (hn : h.handler? event.selector = none)
    (ht : d.transition i.state event.selector = some s) (lock : LockId) (m : Moment)
    (hseen : ∀ r, m.cancelled r = true → A.seen r) :
    A.Stands (d.entered i s event)
        (talk ++ ((d.execute s i.params event).run m).need.asked m.now)
        (.acting lock i.params event s ((d.execute s i.params event).run m)) ∧
      ∀ q, ((d.execute s i.params event).run m).need = .answer q →
        A.allows (d.entered i s event) talk q := by
  cases hter : d.isTerminal s with
  | true =>
    obtain ⟨hclose, r, hr⟩ := A.closed i event talk s hready hn ht hter
    rw [hr]
    refine ⟨⟨(d.params_entered i s event).symm, (d.state_entered i s event).symm, fun _ => ?_,
      fun hc => ?_⟩, nofun⟩
    · show A.closing _ (talk ++ []) ∧ _
      rw [List.append_nil]
      exact ⟨hclose, r, rfl⟩
    · rw [hter] at hc
      cases hc
  | false =>
    have hfollow := Program.Obeys.run (R := A.rules (d.entered i s event)) m hseen
      (A.entered i event talk s m.now hready hn ht hter)
    refine ⟨⟨(d.params_entered i s event).symm, (d.state_entered i s event).symm, fun hc => ?_,
      fun _ => ?_⟩, hfollow.allowed⟩
    · rw [hter] at hc
      cases hc
    · rw [Definition.params_entered]
      exact hfollow.obeys

/-- The flow runs at the engine, and stands where its account allows. -/
structure Fits (A : Account d h) (e : Engine V I) (f : FlowId) (i : Instance V) (talk : Talk I)
    (stage : Processing V I) : Prop where
  /-- The engine's definition is the account's. -/
  definition : e.definition = d
  /-- So are the handlers. -/
  dispatcher : e.dispatcher = h
  /-- The flow's instance. -/
  hasInstance : e.instance? f = some i
  /-- It is kept under its id. -/
  keyed : i.params.flow = f
  /-- It has not ended. -/
  running : i.status = .running
  /-- Its task stands where the account allows. -/
  stands : A.Stands i talk stage

namespace Fits

variable {A : Account d h} {D D' : Desk V I} {f : FlowId} {i : Instance V} {talk : Talk I}
  {stage : Processing V I} {t : TaskId} {o : Origin} {now : Duration} {reply : I.Reply}
  {w w' : Work V I}

/-- A step that leaves the engine and the instance as they are. -/
theorem move_on (hf : A.Fits D.engine f i talk stage) {talk' : Talk I} {stage' : Processing V I}
    (hs : A.Stands i talk' stage') (hd : D'.engine.definition = D.engine.definition)
    (hh : D'.engine.dispatcher = D.engine.dispatcher)
    (hi : D'.engine.instance? f = D.engine.instance? f) : A.Fits D'.engine f i talk' stage' :=
  ⟨hd.trans hf.definition, hh.trans hf.dispatcher, hi.trans hf.hasInstance, hf.keyed, hf.running,
    hs⟩

/-- After a step that did not end the flow it fits, with what was said added, and what was asked is
    allowed. -/
def Continues (A : Account d h) (o : Origin) (f : FlowId) (i : Instance V) (talk : Talk I)
    (now : Duration) (reply : I.Reply) (w : Work V I) (e' : Engine V I) (w' : Work V I) : Prop :=
  ∃ i' stage', w' = .process o f stage' ∧ i'.params = i.params ∧
    A.Fits e' f i' (talk ++ Work.said now reply w w') stage' ∧
    ∀ q, w'.need = .answer q → A.allows i' (talk ++ w.need.told now reply) q

/-- A step in which nothing is said. -/
theorem continues_of_silent {e' : Engine V I} {stage' : Processing V I} (hw : w.need = .nothing)
    (hw' : (Work.process o f stage').need = .nothing) (hf : A.Fits e' f i talk stage') :
    Continues A o f i talk now reply w e' (.process o f stage') := by
  refine ⟨i, stage', rfl, rfl, ?_, ?_⟩
  · have hsaid : Work.said now reply w (.process o f stage') = [] := by
      rw [Work.said, hw, hw']
      rfl
    rw [hsaid, List.append_nil]
    exact hf
  · intro q hq
    rw [hw'] at hq
    cases hq

/-! A step of the task that processes the flow's events, stage by stage. -/

theorem step_arriving {event : V.Event} (hf : A.Fits D.engine f i talk (.arriving event))
    (hl : D.registry.lanes.holds i.params.resourceId f = true)
    (hm : Desk.Move D t now reply (.process o f (.arriving event)) D' w') :
    Continues A o f i talk now reply (.process o f (.arriving event)) D'.engine w' := by
  have hi := hf.hasInstance
  cases hm with
  | unknown hn =>
    rw [hi] at hn
    cases hn
  | ended hj he =>
    obtain rfl := Option.some.inj (hj.symm.trans hi)
    exact absurd hf.running he
  | displaced hj _ hd =>
    obtain rfl := Option.some.inj (hj.symm.trans hi)
    rw [hl] at hd
    cases hd
  | queue _ _ _ _ => exact continues_of_silent rfl rfl (hf.move_on hf.stands rfl rfl rfl)

theorem step_queued {lock : LockId} {event : V.Event}
    (hf : A.Fits D.engine f i talk (.queued lock event))
    (hm : Desk.Move D t now reply (.process o f (.queued lock event)) D' w') :
    Continues A o f i talk now reply (.process o f (.queued lock event)) D'.engine w' := by
  have hi := hf.hasInstance
  cases hm with
  | forgotten _ hn =>
    rw [hi] at hn
    cases hn
  | late _ hj he =>
    obtain rfl := Option.some.inj (hj.symm.trans hi)
    exact absurd hf.running he
  | admitted _ hj _ =>
    obtain rfl := Option.some.inj (hj.symm.trans hi)
    exact continues_of_silent rfl rfl (hf.move_on ⟨rfl, hf.stands⟩ rfl rfl rfl)

theorem step_ready {lock : LockId} {p : FlowParameters} {event : V.Event}
    (hf : A.Fits D.engine f i talk (.ready lock p event))
    (hseen : ∀ r, D.registry.isCancelled r = true → A.seen r)
    (hm : Desk.Move D t now reply (.process o f (.ready lock p event)) D' w') :
    (∃ s, Desk.Ending D t f i (.process o f (.ready lock p event)) s) ∨
      Continues A o f i talk now reply (.process o f (.ready lock p event)) D'.engine w' := by
  have hi := hf.hasInstance
  obtain ⟨rfl, hready⟩ := hf.stands
  cases hm with
  | halt hcan => exact .inl ⟨_, .halt hcan⟩
  | lost _ hn =>
    rw [hf.keyed, hi] at hn
    cases hn
  | @hand _ _ _ _ _ j hd _ hj hh =>
    rw [hf.dispatcher] at hh
    have hfollow := Program.Obeys.run (R := A.rules i) (D.moment now) hseen
      (A.handled i event talk hd now hready hh)
    refine .inr ⟨i, _, rfl, rfl, hf.move_on ⟨rfl, A.going i event talk hready, ?_⟩ rfl rfl rfl, ?_⟩
    · exact hfollow.obeys
    · intro q hq
      show A.allows i (talk ++ []) q
      rw [List.append_nil]
      exact hfollow.allowed q hq
  | @refuse _ _ _ _ _ j _ hj hn ht =>
    -- An event that the account allows has a transition.
    rw [hf.keyed] at hj
    obtain rfl := Option.some.inj (hj.symm.trans hi)
    rw [hf.dispatcher] at hn
    rw [hf.definition] at ht
    have hsome := A.next j event talk hready hn
    rw [ht] at hsome
    cases hsome
  | @enter _ _ _ _ _ j s _ hj hn ht =>
    rw [hf.keyed] at hj ⊢
    obtain rfl := Option.some.inj (hj.symm.trans hi)
    rw [hf.dispatcher] at hn
    rw [hf.definition] at ht ⊢
    have hent : ((D.engine.record (.ofEvent j.params j.state (some s) event)).enter f s
        event).instance? f = some (d.entered j s event) :=
      hf.definition ▸ Engine.instance?_enter (e := D.engine.record _) hi s event
    obtain ⟨hs, hallow⟩ := A.stands_enter hready hn ht lock (D.moment now) hseen
    refine .inr ⟨d.entered j s event, _, rfl, d.params_entered j s event, ?_, ?_⟩
    · refine ⟨hf.definition, hf.dispatcher, hent, ?_, ?_, hs⟩
      · rw [Definition.params_entered, hf.keyed]
      · rw [Definition.status_entered, hf.running]
    · intro q hq
      show A.allows _ (talk ++ []) q
      rw [List.append_nil]
      exact hallow q hq

theorem step_handling {lock : LockId} {p : FlowParameters} {event : V.Event} {hd : Handler V I}
    {a : Activity I (HandlerResult V)}
    (hf : A.Fits D.engine f i talk (.handling lock p event hd a))
    (hseen : ∀ r, D.registry.isCancelled r = true → A.seen r)
    (hm : Desk.Move D t now reply (.process o f (.handling lock p event hd a)) D' w') :
    (∃ s, Desk.Ending D t f i (.process o f (.handling lock p event hd a)) s) ∨
      Continues A o f i talk now reply (.process o f (.handling lock p event hd a)) D'.engine
        w' := by
  obtain ⟨rfl, hgoing, ha⟩ := hf.stands
  cases hm with
  | handle _ =>
    have hfollow := Activity.Obeys.step ha (D.moment now) hseen reply
    refine .inr ⟨i, _, rfl, rfl, hf.move_on ⟨rfl, hgoing, ?_⟩ rfl rfl rfl, hfollow.allowed⟩
    rw [Work.said, ← List.append_assoc]
    exact hfollow.obeys
  | handled =>
    obtain ⟨-, hready⟩ := ha
    exact .inr (continues_of_silent rfl rfl (hf.move_on ⟨rfl, hready⟩ rfl rfl rfl))
  | handlerFailed he =>
    obtain ⟨-, -, hready⟩ := ha
    exact .inr (continues_of_silent rfl rfl (hf.move_on ⟨rfl, hready he⟩ rfl rfl rfl))
  | handlerCancelled he => exact .inl ⟨_, .handler he⟩

theorem step_acting {lock : LockId} {p : FlowParameters} {event : V.Event} {s : V.State}
    {a : Activity I (ActionResult V)} (hf : A.Fits D.engine f i talk (.acting lock p event s a))
    (hseen : ∀ r, D.registry.isCancelled r = true → A.seen r)
    (hm : Desk.Move D t now reply (.process o f (.acting lock p event s a)) D' w') :
    (∃ s', Desk.Ending D t f i (.process o f (.acting lock p event s a)) s') ∨
      Continues A o f i talk now reply (.process o f (.acting lock p event s a)) D'.engine w' := by
  obtain ⟨rfl, rfl, hter, ha⟩ := hf.stands
  cases hm with
  | act hn =>
    -- The action of a terminal state has ended already.
    have hgoing : d.isTerminal i.state = false := by
      rw [Bool.eq_false_iff]
      intro ht
      obtain ⟨r, hr⟩ := (hter ht).2
      exact hn _ hr
    have hfollow := Activity.Obeys.step (ha hgoing) (D.moment now) hseen reply
    refine .inr ⟨i, _, rfl, rfl, hf.move_on ⟨rfl, rfl, fun ht => ?_, fun _ => ?_⟩ rfl rfl rfl,
      hfollow.allowed⟩
    · rw [hgoing] at ht
      cases ht
    · rw [Work.said, ← List.append_assoc]
      exact hfollow.obeys
  | acted hs =>
    obtain ⟨-, e, he, hready⟩ := ha (hf.definition ▸ hs)
    cases he
    exact .inr (continues_of_silent rfl rfl (hf.move_on ⟨rfl, hready⟩ rfl rfl rfl))
  | actionFailed he hs =>
    obtain ⟨-, -, hready⟩ := ha (hf.definition ▸ hs)
    rw [hf.definition]
    exact .inr (continues_of_silent rfl rfl (hf.move_on ⟨rfl, hready he⟩ rfl rfl rfl))
  | completed hr hs => exact .inl ⟨_, .completed hr hs⟩
  | parked hs =>
    -- The account has an event at hand after every action.
    obtain ⟨-, e, he, -⟩ := ha (hf.definition ▸ hs)
    cases he
  | actionCancelled he => exact .inl ⟨_, .action he⟩

/-- A step of the task that processes the flow's events ends the flow, or it fits afterwards. -/
theorem step (hf : A.Fits D.engine f i talk stage)
    (hl : D.registry.lanes.holds i.params.resourceId f = true)
    (hseen : ∀ r, D.registry.isCancelled r = true → A.seen r)
    (hm : Desk.Move D t now reply (.process o f stage) D' w') :
    (∃ s, Desk.Ending D t f i (.process o f stage) s) ∨
      Continues A o f i talk now reply (.process o f stage) D'.engine w' := by
  cases stage with
  | arriving event => exact .inr (hf.step_arriving hl hm)
  | queued lock event => exact .inr (hf.step_queued hm)
  | ready lock p event => exact hf.step_ready hseen hm
  | handling lock p event hd a => exact hf.step_handling hseen hm
  | acting lock p event s a => exact hf.step_acting hseen hm
  | _ => exact absurd hf.stands id

/-- If the flow's own task ends it as cancelled, its resource may be seen to be cancelled. -/
theorem seen_of_ending (hf : A.Fits D.engine f i talk stage)
    (hseen : ∀ r, D.registry.isCancelled r = true → A.seen r)
    (he : Desk.Ending D t f i (.process o f stage) .cancelled) : A.seen i.params.resourceId := by
  have hs := hf.stands
  generalize hst : FlowStatus.cancelled = s at he
  cases he with
  | halt hc => exact hseen _ hc
  | handler hcan =>
    obtain ⟨-, -, -, hcancelled, -⟩ := hs
    exact hcancelled hcan
  | @action _ _ _ s _ hcan =>
    obtain ⟨-, -, hter, ha⟩ := hs
    cases hs : d.isTerminal s with
    | true =>
      obtain ⟨-, next, hnext⟩ := hter hs
      cases hnext
    | false =>
      obtain ⟨-, hcancelled, -⟩ := ha hs
      exact hcancelled hcan
  | completed _ _ => split at hst <;> cases hst

end Fits

end Account

end ResourceFlow
