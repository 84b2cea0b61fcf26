import ResourceFlow.Proofs.Engine.Instances
/-! # What one step of a task can do

  `Desk.Move` lists the steps of a task, each with what it finds and what it
  leaves: the desk and the task's work. `Desk.move_of_work` says that the list
  is complete. Everything that is proved about steps goes through it:

  - processing: `unknown`, `ended`, `displaced` and `queue` up to the queue of
    the lock; `forgotten`, `late` and `admitted` with the lock in hand; `halt`,
    `lost`, `hand`, `refuse` and `enter` when an event is taken; then the work
    of a handler (`handle` to `handlerCancelled`) or of an action (`act` to
    `actionCancelled`);
  - cancelling: `nothing` and `request`, then `gone` and `finish`.

  What a step does to occupancy is one of two things: it leaves it alone
  (`Desk.Quiet`), or it ends one flow (`Desk.Quits`).
-/

namespace ResourceFlow

/-- The stage with its outcome as the caller is told of it. -/
def Processing.reported {V : Vocabulary} {I : Interface} (o : Origin) (flow : FlowId) :
    Processing V I → Processing V I
  | .over outcome => .over (o.report flow outcome)
  | stage => stage

namespace Desk

variable {V : Vocabulary} {I : Interface}

/-! ### The moves -/

/-- The steps that a task can take at a desk. -/
inductive Move (d : Desk V I) (t : TaskId) (now : Duration) (reply : I.Reply) :
    Work V I → Desk V I → Work V I → Prop where
  /-- The flow is not known. -/
  | unknown {o : Origin} {flow : FlowId} {event : V.Event}
      (hi : d.engine.instance? flow = none) :
      Move d t now reply (.process o flow (.arriving event)) d
        (.process o flow (.over (o.report flow (.error (.notFound flow)))))
  /-- The flow has ended. -/
  | ended {o : Origin} {flow : FlowId} {event : V.Event} {i : Instance V}
      (hi : d.engine.instance? flow = some i) (he : i.status ≠ .running) :
      Move d t now reply (.process o flow (.arriving event)) d
        (.process o flow (.over (o.report flow (.error (.terminated flow i.status)))))
  /-- The flow runs, but does not occupy its lane. -/
  | displaced {o : Origin} {flow : FlowId} {event : V.Event} {i : Instance V}
      (hi : d.engine.instance? flow = some i) (hr : i.status = .running)
      (hl : d.registry.lanes.holds i.params.resourceId flow = false) :
      Move d t now reply (.process o flow (.arriving event)) d
        (.process o flow (.over (o.report flow (.error (.terminated flow .running)))))
  /-- The task asks for the lock of the flow's lane. -/
  | queue {o : Origin} {flow : FlowId} {event : V.Event} {i : Instance V} {lane : Lane}
      (hi : d.engine.instance? flow = some i) (hr : i.status = .running)
      (hl : d.registry.lanes.lane? i.params.resourceId = some lane) (hf : lane.flow = flow) :
      Move d t now reply (.process o flow (.arriving event))
        { d with registry := d.registry.askLock lane.lock t }
        (.process o flow (.queued lane.lock event))
  /-- With the lock in hand: the flow is not known any more. -/
  | forgotten {o : Origin} {flow : FlowId} {lock : LockId} {event : V.Event}
      (hh : d.registry.lanes.isHeldBy lock t = true)
      (hi : d.engine.instance? flow = none) :
      Move d t now reply (.process o flow (.queued lock event)) (d.passLock lock)
        (.process o flow (.over (o.report flow (.error (.notFound flow)))))
  /-- With the lock in hand: the flow has ended meanwhile. -/
  | late {o : Origin} {flow : FlowId} {lock : LockId} {event : V.Event} {i : Instance V}
      (hh : d.registry.lanes.isHeldBy lock t = true)
      (hi : d.engine.instance? flow = some i) (he : i.status ≠ .running) :
      Move d t now reply (.process o flow (.queued lock event)) (d.passLock lock)
        (.process o flow (.over (o.report flow (.error (.terminated flow i.status)))))
  /-- With the lock in hand: the flow runs. -/
  | admitted {o : Origin} {flow : FlowId} {lock : LockId} {event : V.Event} {i : Instance V}
      (hh : d.registry.lanes.isHeldBy lock t = true)
      (hi : d.engine.instance? flow = some i) (hr : i.status = .running) :
      Move d t now reply (.process o flow (.queued lock event)) d
        (.process o flow (.ready lock i.params event))
  /-- A recorded cancel ends the flow before the event is looked at. -/
  | halt {o : Origin} {flow : FlowId} {lock : LockId} {p : FlowParameters} {event : V.Event}
      (hc : d.registry.isCancelled p.resourceId = true) :
      Move d t now reply (.process o flow (.ready lock p event))
        ((d.finishCancelled p now).passLock lock)
        (.process o flow (.over (o.report flow (.error (.cancelled p.flow p.resourceId)))))
  /-- The flow is not known any more. -/
  | lost {o : Origin} {flow : FlowId} {lock : LockId} {p : FlowParameters} {event : V.Event}
      (hc : d.registry.isCancelled p.resourceId = false)
      (hi : d.engine.instance? p.flow = none) :
      Move d t now reply (.process o flow (.ready lock p event)) (d.passLock lock)
        (.process o flow (.over (o.report flow (.error (.notFound p.flow)))))
  /-- The event is recorded and handed to a handler. -/
  | hand {o : Origin} {flow : FlowId} {lock : LockId} {p : FlowParameters} {event : V.Event}
      {i : Instance V} {h : Handler V I}
      (hc : d.registry.isCancelled p.resourceId = false)
      (hi : d.engine.instance? p.flow = some i)
      (hh : d.engine.dispatcher.handler? event.selector = some h) :
      Move d t now reply (.process o flow (.ready lock p event))
        { d with engine := d.engine.record (.ofEvent p i.state none event) }
        (.process o flow (.handling lock p event h
          ((h.accept (some p.flow) event).run (d.moment now))))
  /-- The event has no transition. -/
  | refuse {o : Origin} {flow : FlowId} {lock : LockId} {p : FlowParameters} {event : V.Event}
      {i : Instance V}
      (hc : d.registry.isCancelled p.resourceId = false)
      (hi : d.engine.instance? p.flow = some i)
      (hh : d.engine.dispatcher.handler? event.selector = none)
      (ht : d.engine.definition.transition i.state event.selector = none) :
      Move d t now reply (.process o flow (.ready lock p event))
        ((d.reject p i.state event now).1.passLock lock)
        (.process o flow (.over (o.report flow (d.reject p i.state event now).2)))
  /-- The event is recorded, the next state is entered, and its action begins. -/
  | enter {o : Origin} {flow : FlowId} {lock : LockId} {p : FlowParameters} {event : V.Event}
      {i : Instance V} {s : V.State}
      (hc : d.registry.isCancelled p.resourceId = false)
      (hi : d.engine.instance? p.flow = some i)
      (hh : d.engine.dispatcher.handler? event.selector = none)
      (ht : d.engine.definition.transition i.state event.selector = some s) :
      Move d t now reply (.process o flow (.ready lock p event))
        { d with engine :=
            (d.engine.record (.ofEvent p i.state (some s) event)).enter p.flow s event }
        (.process o flow (.acting lock p event s
          ((d.engine.definition.execute s p event).run (d.moment now))))
  /-- A handler is at work. -/
  | handle {o : Origin} {flow : FlowId} {lock : LockId} {p : FlowParameters} {event : V.Event}
      {h : Handler V I} {a : Activity I (HandlerResult V)} (hn : ∀ r, a ≠ .ended r) :
      Move d t now reply (.process o flow (.handling lock p event h a)) d
        (.process o flow (.handling lock p event h (a.step (d.moment now) reply)))
  /-- A handler answered with the next event. -/
  | handled {o : Origin} {flow : FlowId} {lock : LockId} {p : FlowParameters} {event : V.Event}
      {h : Handler V I} {next : V.Event} :
      Move d t now reply (.process o flow (.handling lock p event h (.ended (.ok next)))) d
        (.process o flow (.ready lock p next))
  /-- A handler failed. -/
  | handlerFailed {o : Origin} {flow : FlowId} {lock : LockId} {p : FlowParameters}
      {event : V.Event} {h : Handler V I} {e : ActionError} (he : e.isCancellation = false) :
      Move d t now reply (.process o flow (.handling lock p event h (.ended (.error e)))) d
        (.process o flow (.ready lock p (h.failureEvent e event)))
  /-- A handler noticed a cancellation. -/
  | handlerCancelled {o : Origin} {flow : FlowId} {lock : LockId} {p : FlowParameters}
      {event : V.Event} {h : Handler V I} {e : ActionError} (he : e.isCancellation = true) :
      Move d t now reply (.process o flow (.handling lock p event h (.ended (.error e))))
        ((d.finishCancelled p now).passLock lock)
        (.process o flow (.over (o.report flow (.error (.cancelled p.flow p.resourceId)))))
  /-- An action is at work. -/
  | act {o : Origin} {flow : FlowId} {lock : LockId} {p : FlowParameters} {event : V.Event}
      {s : V.State} {a : Activity I (ActionResult V)} (hn : ∀ r, a ≠ .ended r) :
      Move d t now reply (.process o flow (.acting lock p event s a)) d
        (.process o flow (.acting lock p event s (a.step (d.moment now) reply)))
  /-- An action answered with the next event. -/
  | acted {o : Origin} {flow : FlowId} {lock : LockId} {p : FlowParameters} {event : V.Event}
      {s : V.State} {next : V.Event} (hs : d.engine.definition.isTerminal s = false) :
      Move d t now reply (.process o flow (.acting lock p event s (.ended (.ok (some next))))) d
        (.process o flow (.ready lock p next))
  /-- An action failed. -/
  | actionFailed {o : Origin} {flow : FlowId} {lock : LockId} {p : FlowParameters}
      {event : V.Event} {s : V.State} {e : ActionError} (he : e.isCancellation = false)
      (hs : d.engine.definition.isTerminal s = false) :
      Move d t now reply (.process o flow (.acting lock p event s (.ended (.error e)))) d
        (.process o flow (.ready lock p (d.engine.definition.failureEvent s event (some p) e)))
  /-- The action of a terminal state has ended. -/
  | completed {o : Origin} {flow : FlowId} {lock : LockId} {p : FlowParameters}
      {event : V.Event} {s : V.State} {r : ActionResult V}
      (hr : ∀ e, r = .error e → e.isCancellation = false)
      (hs : d.engine.definition.isTerminal s = true) :
      Move d t now reply (.process o flow (.acting lock p event s (.ended r)))
        ((d.complete p now).1.passLock lock)
        (.process o flow (.over (o.report flow (d.complete p now).2)))
  /-- An action has no next event: the flow waits for one from outside. -/
  | parked {o : Origin} {flow : FlowId} {lock : LockId} {p : FlowParameters} {event : V.Event}
      {s : V.State} (hs : d.engine.definition.isTerminal s = false) :
      Move d t now reply (.process o flow (.acting lock p event s (.ended (.ok none))))
        (d.passLock lock)
        (.process o flow (.over (o.report flow
          ((d.engine.get? p.flow).elim (.error (.notFound p.flow)) .ok))))
  /-- An action noticed a cancellation. -/
  | actionCancelled {o : Origin} {flow : FlowId} {lock : LockId} {p : FlowParameters}
      {event : V.Event} {s : V.State} {e : ActionError} (he : e.isCancellation = true) :
      Move d t now reply (.process o flow (.acting lock p event s (.ended (.error e))))
        ((d.finishCancelled p now).passLock lock)
        (.process o flow (.over (o.report flow (.error (.cancelled p.flow p.resourceId)))))
  /-- There is no flow of this engine to cancel. -/
  | nothing {r : ResourceId} :
      Move d t now reply (.cancel r .arriving) d (.cancel r (.over none))
  /-- A cancel is recorded, and the task asks for the lock. -/
  | request {r : ResourceId} {lane : Lane} (hl : d.registry.lanes.lane? r = some lane)
      (ho : d.engine.owns lane.flow = true) :
      Move d t now reply (.cancel r .arriving)
        { d with registry := (d.registry.markCancelled r).askLock lane.lock t }
        (.cancel r (.queued lane.lock lane.flow))
  /-- With the lock in hand: the flow to cancel is not known any more. -/
  | gone {r : ResourceId} {lock : LockId} {flow : FlowId}
      (hh : d.registry.lanes.isHeldBy lock t = true)
      (hi : d.engine.instance? flow = none) :
      Move d t now reply (.cancel r (.queued lock flow)) (d.passLock lock)
        (.cancel r (.over none))
  /-- With the lock in hand: the flow ends cancelled, unless it has ended before. -/
  | finish {r : ResourceId} {lock : LockId} {flow : FlowId} {i : Instance V}
      (hh : d.registry.lanes.isHeldBy lock t = true)
      (hi : d.engine.instance? flow = some i) :
      Move d t now reply (.cancel r (.queued lock flow))
        ((d.finishCancelled i.params now).passLock lock)
        (.cancel r (.over ((d.finishCancelled i.params now).engine.get? flow)))

/-! ### The list is complete -/

theorem move_of_arrive {d d' : Desk V I} {t : TaskId} {now : Duration} {reply : I.Reply}
    {o : Origin} {flow : FlowId} {event : V.Event} {stage : Processing V I}
    (h : d.arrive t flow event = (d', stage)) :
    Move d t now reply (.process o flow (.arriving event)) d'
      (.process o flow (stage.reported o flow)) := by
  unfold arrive at h
  -- The checks in the order in which they are made: instance, status, lane.
  cases hi : d.engine.instance? flow with
  | none =>
    simp only [hi] at h
    obtain ⟨rfl, rfl⟩ := Prod.mk.inj h
    exact .unknown hi
  | some i =>
    simp only [hi] at h
    by_cases hr : i.status = .running
    · have hs : d.engine.statusOf flow = .running := by simp [Engine.statusOf, hi, hr]
      simp only [hr, FlowStatus.isTerminal, Bool.false_eq_true, if_false, hs] at h
      cases hl : d.registry.lanes.lane? i.params.resourceId with
      | none =>
        -- A free lane is no lane of the flow, just as one that another flow occupies.
        simp only [hl] at h
        obtain ⟨rfl, rfl⟩ := Prod.mk.inj h
        refine .displaced hi hr ?_
        rw [Bool.eq_false_iff, ne_eq, Lanes.holds_iff]
        simp [hl]
      | some lane =>
        simp only [hl] at h
        by_cases hf : lane.flow = flow
        · rw [if_pos hf] at h
          obtain ⟨rfl, rfl⟩ := Prod.mk.inj h
          exact .queue hi hr hl hf
        · rw [if_neg hf] at h
          obtain ⟨rfl, rfl⟩ := Prod.mk.inj h
          refine .displaced hi hr ?_
          rw [Bool.eq_false_iff, ne_eq, Lanes.holds_iff]
          simp [hl, hf]
    · rw [if_pos (FlowStatus.isTerminal_iff.mpr hr)] at h
      obtain ⟨rfl, rfl⟩ := Prod.mk.inj h
      exact .ended hi hr

theorem move_of_admitted {d d' : Desk V I} {t : TaskId} {now : Duration} {reply : I.Reply}
    {o : Origin} {flow : FlowId} {lock : LockId} {event : V.Event} {stage : Processing V I}
    (hh : d.registry.lanes.isHeldBy lock t = true)
    (h : d.admitted flow lock event = (d', stage)) :
    Move d t now reply (.process o flow (.queued lock event)) d'
      (.process o flow (stage.reported o flow)) := by
  unfold Desk.admitted at h
  -- While the task waited for the lock, the flow may have ended or been forgotten.
  cases hi : d.engine.instance? flow with
  | none =>
    simp only [hi] at h
    obtain ⟨rfl, rfl⟩ := Prod.mk.inj h
    exact .forgotten hh hi
  | some i =>
    simp only [hi] at h
    by_cases hr : i.status = .running
    · rw [if_neg (by simp [hr, FlowStatus.isTerminal])] at h
      obtain ⟨rfl, rfl⟩ := Prod.mk.inj h
      exact .admitted hh hi hr
    · rw [if_pos (FlowStatus.isTerminal_iff.mpr hr)] at h
      obtain ⟨rfl, rfl⟩ := Prod.mk.inj h
      exact .late hh hi hr

theorem move_of_turn {d d' : Desk V I} {t : TaskId} {now : Duration} {reply : I.Reply}
    {o : Origin} {flow : FlowId} {lock : LockId} {p : FlowParameters} {event : V.Event}
    {stage : Processing V I} (h : d.turn lock p event now = (d', stage)) :
    Move d t now reply (.process o flow (.ready lock p event)) d'
      (.process o flow (stage.reported o flow)) := by
  unfold turn take at h
  -- A recorded cancel comes before everything else, then handlers, then transitions.
  cases hc : d.registry.isCancelled p.resourceId with
  | true =>
    simp only [hc, if_true] at h
    obtain ⟨rfl, rfl⟩ := Prod.mk.inj h
    exact .halt hc
  | false =>
    simp only [hc, Bool.false_eq_true, if_false] at h
    cases hi : d.engine.instance? p.flow with
    | none =>
      simp only [hi] at h
      obtain ⟨rfl, rfl⟩ := Prod.mk.inj h
      exact .lost hc hi
    | some i =>
      simp only [hi] at h
      cases hh : d.engine.dispatcher.handler? event.selector with
      | some handler =>
        simp only [hh] at h
        obtain ⟨rfl, rfl⟩ := Prod.mk.inj h
        exact .hand hc hi hh
      | none =>
        simp only [hh] at h
        cases ht : d.engine.definition.transition i.state event.selector with
        | none =>
          simp only [ht] at h
          obtain ⟨rfl, rfl⟩ := Prod.mk.inj h
          exact .refuse hc hi hh ht
        | some s =>
          simp only [ht] at h
          obtain ⟨rfl, rfl⟩ := Prod.mk.inj h
          exact .enter hc hi hh ht

theorem move_of_handled {d d' : Desk V I} {t : TaskId} {now : Duration} {reply : I.Reply}
    {o : Origin} {flow : FlowId} {lock : LockId} {p : FlowParameters} {event : V.Event}
    {h : Handler V I} {result : HandlerResult V} {stage : Processing V I}
    (hs : onward lock p (d.handled p h event now result) = (d', stage)) :
    Move d t now reply (.process o flow (.handling lock p event h (.ended result))) d'
      (.process o flow (stage.reported o flow)) := by
  unfold Desk.handled Handler.delivery at hs
  cases result with
  | ok next =>
    obtain ⟨rfl, rfl⟩ := Prod.mk.inj hs
    exact .handled
  | error e =>
    cases he : e.isCancellation with
    | true =>
      simp only [he, if_true] at hs
      obtain ⟨rfl, rfl⟩ := Prod.mk.inj hs
      exact .handlerCancelled he
    | false =>
      simp only [he, Bool.false_eq_true, if_false] at hs
      obtain ⟨rfl, rfl⟩ := Prod.mk.inj hs
      exact .handlerFailed he

theorem move_of_acted {d d' : Desk V I} {t : TaskId} {now : Duration} {reply : I.Reply}
    {o : Origin} {flow : FlowId} {lock : LockId} {p : FlowParameters} {event : V.Event}
    {s : V.State} {result : ActionResult V} {stage : Processing V I}
    (h : onward lock p (d.acted p s event now result) = (d', stage)) :
    Move d t now reply (.process o flow (.acting lock p event s (.ended result))) d'
      (.process o flow (stage.reported o flow)) := by
  unfold Desk.acted at h
  cases hs : d.engine.definition.isTerminal s with
  | true =>
    -- In a terminal state the result does not matter, unless it is a cancellation.
    cases result with
    | ok next =>
      simp only [hs, if_true] at h
      obtain ⟨rfl, rfl⟩ := Prod.mk.inj h
      exact .completed (fun e he => nomatch he) hs
    | error e =>
      cases he : e.isCancellation with
      | true =>
        simp only [he, if_true] at h
        obtain ⟨rfl, rfl⟩ := Prod.mk.inj h
        exact .actionCancelled he
      | false =>
        simp only [he, hs, Bool.false_eq_true, if_false, if_true] at h
        obtain ⟨rfl, rfl⟩ := Prod.mk.inj h
        refine .completed ?_ hs
        intro e' he'
        cases he'
        exact he
  | false =>
    cases result with
    | ok next =>
      simp only [hs, Bool.false_eq_true, if_false] at h
      cases next with
      | some next =>
        obtain ⟨rfl, rfl⟩ := Prod.mk.inj h
        exact .acted hs
      | none =>
        obtain ⟨rfl, rfl⟩ := Prod.mk.inj h
        exact .parked hs
    | error e =>
      cases he : e.isCancellation with
      | true =>
        simp only [he, if_true] at h
        obtain ⟨rfl, rfl⟩ := Prod.mk.inj h
        exact .actionCancelled he
      | false =>
        simp only [he, hs, Bool.false_eq_true, if_false] at h
        obtain ⟨rfl, rfl⟩ := Prod.mk.inj h
        exact .actionFailed he hs

theorem move_of_process {d d' : Desk V I} {t : TaskId} {now : Duration} {reply : I.Reply}
    {o : Origin} {flow : FlowId} {stage stage' : Processing V I}
    (h : d.process t flow now reply stage = some (d', stage')) :
    Move d t now reply (.process o flow stage) d'
      (.process o flow (stage'.reported o flow)) := by
  cases stage with
  | arriving event => exact move_of_arrive (Option.some.inj h)
  | queued lock event =>
    by_cases hh : d.registry.lanes.isHeldBy lock t = true
    · simp only [process, hh, if_true] at h
      exact move_of_admitted hh (Option.some.inj h)
    · simp [process, hh] at h
  | ready lock p event => exact move_of_turn (Option.some.inj h)
  | handling lock p event handler activity =>
    -- A handler that has not ended takes a step of its own, whatever it waits for.
    cases activity with
    | ended result => exact move_of_handled (Option.some.inj h)
    | calling q next =>
      obtain ⟨rfl, rfl⟩ := Prod.mk.inj (Option.some.inj h)
      exact .handle (fun r => nofun)
    | waiting w next =>
      obtain ⟨rfl, rfl⟩ := Prod.mk.inj (Option.some.inj h)
      exact .handle (fun r => nofun)
  | acting lock p event s activity =>
    cases activity with
    | ended result => exact move_of_acted (Option.some.inj h)
    | calling q next =>
      obtain ⟨rfl, rfl⟩ := Prod.mk.inj (Option.some.inj h)
      exact .act (fun r => nofun)
    | waiting w next =>
      obtain ⟨rfl, rfl⟩ := Prod.mk.inj (Option.some.inj h)
      exact .act (fun r => nofun)
  | _ => cases h

theorem move_of_cancel {d d' : Desk V I} {t : TaskId} {now : Duration} {reply : I.Reply}
    {r : ResourceId} {stage stage' : Cancelling V}
    (h : d.cancel t r now stage = some (d', stage')) :
    Move d t now reply (.cancel r stage) d' (.cancel r stage') := by
  cases stage with
  | arriving =>
    have h := Option.some.inj h
    unfold requestCancel at h
    cases hl : d.registry.lanes.lane? r with
    | none =>
      simp only [hl] at h
      obtain ⟨rfl, rfl⟩ := Prod.mk.inj h
      exact .nothing
    | some lane =>
      simp only [hl] at h
      cases ho : d.engine.owns lane.flow with
      | false =>
        simp only [ho, Bool.false_eq_true, if_false] at h
        obtain ⟨rfl, rfl⟩ := Prod.mk.inj h
        exact .nothing
      | true =>
        have hh : d.registry.lanes.holds r lane.flow = true := Lanes.holds_iff.mpr ⟨lane, hl, rfl⟩
        simp only [ho, if_true, Registry.requestCancel, Registry.withHolder, hh] at h
        obtain ⟨rfl, rfl⟩ := Prod.mk.inj h
        exact .request hl ho
  | queued lock flow =>
    by_cases hh : d.registry.lanes.isHeldBy lock t = true
    · simp only [cancel, hh, if_true] at h
      have h := Option.some.inj h
      unfold finishCancel at h
      cases hi : d.engine.instance? flow with
      | none =>
        simp only [hi] at h
        obtain ⟨rfl, rfl⟩ := Prod.mk.inj h
        exact .gone hh hi
      | some i =>
        simp only [hi] at h
        obtain ⟨rfl, rfl⟩ := Prod.mk.inj h
        exact .finish hh hi
    · simp [cancel, hh] at h
  | _ => cases h

/-- Every step of a task is one of the moves. -/
theorem move_of_work {d d' : Desk V I} {t : TaskId} {now : Duration} {reply : I.Reply}
    {w w' : Work V I} (h : d.work t now reply w = some (d', w')) : Move d t now reply w d' w' := by
  cases w with
  | process o flow stage =>
    simp only [work, Option.map_eq_some_iff] at h
    obtain ⟨⟨d₁, stage'⟩, h, he⟩ := h
    obtain ⟨rfl, rfl⟩ := Prod.mk.inj he
    have hm := move_of_process (o := o) h
    cases stage' <;> exact hm
  | cancel r stage =>
    simp only [work, Option.map_eq_some_iff] at h
    obtain ⟨⟨d₁, stage'⟩, h, he⟩ := h
    obtain ⟨rfl, rfl⟩ := Prod.mk.inj he
    exact move_of_cancel h
  | refused e => cases h

end Desk

end ResourceFlow
