import ResourceFlow.Proofs.Engine.Endings
/-! # Events that are taken, and what is recorded of them

  When a task takes an event of a flow, one of four things becomes of it: it
  is handed to a handler, it leads to the next state, it is refused because
  there is no transition, or it is dropped because a cancel is recorded.
  `Desk.taken?` observes which, by what the task turns to.

  The trail is written in these steps only, with one record for every event
  that is not dropped (`Desk.Move.trail`). How the instance of the flow at hand
  changes in them is said by `Engine.instance?_enter` and
  `Desk.instance?_reject_self`.
-/

namespace ResourceFlow

variable {V : Vocabulary} {I : Interface}

/-! ### What becomes of an event -/

/-- What became of an event that was taken. -/
inductive Fate (V : Vocabulary) where
  /-- It was handed to a handler. -/
  | handed
  /-- It led to this state. -/
  | entered (s : V.State)
  /-- There was no transition for it. -/
  | refused
  /-- It was dropped because a cancel is recorded. -/
  | dropped

/-- An event that was taken. -/
structure Taken (V : Vocabulary) where
  /-- The run as it stood when the event was taken. -/
  run : Instance V
  /-- The event. -/
  event : V.Event
  /-- What became of it. -/
  fate : Fate V

/-- What became of an event, seen from what follows. -/
def Turn.fate? : Turn V I → Option (Fate V)
  | .handle _ => some .handed
  | .act s => some (.entered s)
  | .over (.error (.illegalTransition ..)) => some .refused
  | .over (.error (.cancelled ..)) => some .dropped
  | .over _ => none

/-- The event that a task takes in its next step. -/
def Desk.taken? (d : Desk V I) (now : Duration) : Work V I → Option (Taken V)
  | .process _ _ (.ready _ p event) => do
    let run ← d.engine.instance? p.flow
    let fate ← (d.take p event now).2.fate?
    return { run, event, fate }
  | _ => none

/-- The failure that is recorded for an event without transition. -/
def Vocabulary.noTransition (V : Vocabulary) (s : V.State) (event : V.Event) : Failure :=
  ⟨.unset, "no transition from " ++ V.stateName s ++ " on " ++ V.selectorName event.selector⟩

namespace Taken

/-- What is recorded of an event: nothing if it was dropped. -/
def record? (x : Taken V) : Option AuditRecord :=
  match x.fate with
  | .handed => some (.ofEvent x.run.params x.run.state none x.event)
  | .entered s => some (.ofEvent x.run.params x.run.state (some s) x.event)
  | .refused => some { AuditRecord.ofEvent x.run.params x.run.state none x.event with
      failure := some (V.noTransition x.run.state x.event) }
  | .dropped => none

/-- The state that an event led to. -/
def entered? (x : Taken V) : Option V.State :=
  match x.fate with
  | .entered s => some s
  | _ => none

/-- What is recorded names the state that an event led to, and no other events lead to states. -/
theorem bind_toState_record? (x : Taken V) :
    x.record?.bind AuditRecord.toState = x.entered?.map V.stateName := by
  unfold record? entered?
  cases x.fate <;> rfl

/-- The record of an event is a record of its flow, and names the state of the flow. -/
theorem origin_of_record? {x : Taken V} {a : AuditRecord} (h : x.record? = some a) :
    a.flow = x.run.params.flow ∧ a.fromState = V.stateName x.run.state := by
  unfold record? at h
  split at h <;> cases h <;> exact ⟨rfl, rfl⟩

end Taken

/-! ### What becomes of the run -/

/-- The run after it entered a state on an event. -/
def Definition.entered (d : Definition V I) (i : Instance V) (s : V.State) (event : V.Event) :
    Instance V :=
  if s = d.failedState then
    { i.enter s with failure := some (event.failure.getD
        ⟨.unset, V.stateName s ++ " entered on " ++ V.selectorName event.selector⟩) }
  else i.enter s

namespace Definition

variable (d : Definition V I) (i : Instance V) (s : V.State) (event : V.Event)

@[simp] theorem params_entered : (d.entered i s event).params = i.params := by
  unfold entered
  split <;> rfl

@[simp] theorem state_entered : (d.entered i s event).state = s := by
  unfold entered
  split <;> rfl

@[simp] theorem status_entered : (d.entered i s event).status = i.status := by
  unfold entered
  split <;> rfl

@[simp] theorem finishedAt_entered : (d.entered i s event).finishedAt = i.finishedAt := by
  unfold entered
  split <;> rfl

@[simp] theorem history_entered : (d.entered i s event).history = i.history ++ [s] := by
  unfold entered
  split <;> rfl

/-- Entering the failed state records a failure, and no other state does. -/
theorem failure_entered : (d.entered i s event).failure.isSome = true ↔
    s = d.failedState ∨ i.failure.isSome = true := by
  unfold entered
  split
  · simp [*]
  · simp [*, Instance.enter]

end Definition

/-- The run with the failure that is recorded for an event without transition. -/
def Instance.refused (i : Instance V) (event : V.Event) : Instance V :=
  { i with failure := some (V.noTransition i.state event) }

theorem Engine.instance?_enter {e : Engine V I} {f : FlowId} {i : Instance V}
    (hi : e.instance? f = some i) (s : V.State) (event : V.Event) :
    (e.enter f s event).instance? f = some (e.definition.entered i s event) := by
  unfold enter
  rw [Engine.instance?_update, if_pos rfl, hi]
  rfl

@[simp] theorem Instance.state_finish (i : Instance V) (s : FlowStatus) (now : Duration) :
    (i.finish s now).state = i.state := by
  unfold finish
  split <;> rfl

@[simp] theorem Instance.failure_finish (i : Instance V) (s : FlowStatus) (now : Duration) :
    (i.finish s now).failure = i.failure := by
  unfold finish
  split <;> rfl

theorem Instance.finishedAt_finish_of_running {i : Instance V} (h : i.status = .running)
    (s : FlowStatus) (now : Duration) : (i.finish s now).finishedAt = some now := by
  simp [finish, h, FlowStatus.isTerminal]

namespace Desk

/-! ### What a task takes -/

/-- What a task takes, it takes of a flow that the engine remembers. -/
theorem taken?_eq_some {d : Desk V I} {now : Duration} {w : Work V I} {x : Taken V}
    (h : d.taken? now w = some x) : ∃ o g lock p, w = .process o g (.ready lock p x.event) ∧
      d.engine.instance? p.flow = some x.run := by
  unfold taken? at h
  split at h
  · obtain ⟨i, hi, h⟩ := Option.bind_eq_some_iff.mp h
    obtain ⟨fate, -, h⟩ := Option.bind_eq_some_iff.mp h
    obtain rfl := Option.some.inj h
    exact ⟨_, _, _, _, rfl, hi⟩
  · cases h

/-- What becomes of an event depends on the registry, the run and what the engine is built of. -/
theorem fate?_take (d : Desk V I) (p : FlowParameters) (event : V.Event) (now : Duration) :
    (d.take p event now).2.fate? =
      if d.registry.isCancelled p.resourceId then some .dropped
      else (d.engine.instance? p.flow).bind fun i =>
        match d.engine.dispatcher.handler? event.selector with
        | some _ => some .handed
        | none =>
          some ((d.engine.definition.transition i.state event.selector).elim .refused .entered) := by
  -- The checks in the order in which they are made.
  unfold take
  split
  · rfl
  · cases hi : d.engine.instance? p.flow with
    | none => rfl
    | some i =>
      cases hh : d.engine.dispatcher.handler? event.selector with
      | some h => rfl
      | none =>
        cases ht : d.engine.definition.transition i.state event.selector with
        | some s => simp [ht, Turn.fate?]
        | none =>
          -- An event is refused whether the flow runs or not.
          simp only [ht, Option.bind_some, Option.elim_none]
          unfold reject
          dsimp only
          split <;> rfl

section Take

variable {d : Desk V I} {now : Duration} {o : Origin} {g : FlowId} {lock : LockId}
  {p : FlowParameters} {event : V.Event} {i : Instance V}

theorem taken?_of_cancelled (hc : d.registry.isCancelled p.resourceId = true)
    (hi : d.engine.instance? p.flow = some i) :
    d.taken? now (.process o g (.ready lock p event)) = some ⟨i, event, .dropped⟩ := by
  simp [taken?, fate?_take, hc, hi]

theorem taken?_of_handler {h : Handler V I} (hc : d.registry.isCancelled p.resourceId = false)
    (hi : d.engine.instance? p.flow = some i)
    (hh : d.engine.dispatcher.handler? event.selector = some h) :
    d.taken? now (.process o g (.ready lock p event)) = some ⟨i, event, .handed⟩ := by
  simp [taken?, fate?_take, hc, hi, hh]

theorem taken?_of_transition {s : V.State} (hc : d.registry.isCancelled p.resourceId = false)
    (hi : d.engine.instance? p.flow = some i)
    (hh : d.engine.dispatcher.handler? event.selector = none)
    (ht : d.engine.definition.transition i.state event.selector = some s) :
    d.taken? now (.process o g (.ready lock p event)) = some ⟨i, event, .entered s⟩ := by
  simp [taken?, fate?_take, hc, hi, hh, ht]

theorem taken?_of_refused (hc : d.registry.isCancelled p.resourceId = false)
    (hi : d.engine.instance? p.flow = some i)
    (hh : d.engine.dispatcher.handler? event.selector = none)
    (ht : d.engine.definition.transition i.state event.selector = none) :
    d.taken? now (.process o g (.ready lock p event)) = some ⟨i, event, .refused⟩ := by
  simp [taken?, fate?_take, hc, hi, hh, ht]

end Take

/-! ### What becomes of the run at hand -/

/-- How a flow that runs is refused an event. -/
theorem reject_eq {d : Desk V I} {p : FlowParameters} {i : Instance V}
    (hi : d.engine.instance? p.flow = some i) (hr : i.status = .running) (s : V.State)
    (event : V.Event) (now : Duration) :
    (d.reject p s event now).1 =
      Desk.conclude
        { d with
          engine := Engine.record
            (d.engine.update p.flow fun i => { i with failure := some (V.noTransition s event) })
            { AuditRecord.ofEvent p s none event with
              failure := some (V.noTransition s event) } } p .failed now := by
  have hran : d.engine.isRunning p.flow = true := by
    rw [Engine.isRunning_eq, Engine.running?_of_instance? hi hr]
    rfl
  unfold reject
  dsimp only
  rw [if_pos hran]
  rfl

/-- A flow that is refused an event is failed, and perhaps forgotten at once. -/
theorem instance?_reject_self {d : Desk V I} {p : FlowParameters} {i : Instance V}
    (hi : d.engine.instance? p.flow = some i) (hr : i.status = .running) (event : V.Event)
    (now : Duration) :
    (d.reject p i.state event now).1.engine.instance? p.flow =
        some ((i.refused event).finish .failed now) ∨
      (d.engine.retention ≤ d.engine.retired.length ∧
        (d.reject p i.state event now).1.engine.instance? p.flow = none) := by
  rw [reject_eq hi hr]
  refine instance?_conclude_self (i := i.refused event) ?_ hr .failed now
  rw [Engine.instance?_record, Engine.instance?_update, if_pos rfl, hi]
  rfl

/-! ### The trail -/

theorem trail_conclude (d : Desk V I) (p : FlowParameters) (s : FlowStatus) (now : Duration) :
    (d.conclude p s now).engine.trail = d.engine.trail := by
  unfold conclude
  dsimp only
  split <;> rfl

theorem trail_complete (d : Desk V I) (p : FlowParameters) (now : Duration) :
    (d.complete p now).1.engine.trail = d.engine.trail := by
  unfold complete
  split
  · rfl
  · exact trail_conclude ..

/-- A step records the event that it takes, and nothing else. -/
theorem Move.trail {d d' : Desk V I} {t : TaskId} {now : Duration} {reply : I.Reply}
    {w w' : Work V I} (h : Move d t now reply w d' w')
    (hin : ∀ lock p, w.inHand? = some (lock, p) → d.engine.running? p.flow = some p) :
    d'.engine.trail = d.engine.trail ++ ((d.taken? now w).bind Taken.record?).toList := by
  -- Only a task that is about to take an event can take one.
  cases h with
  | halt hc =>
    obtain ⟨i, hi, -, -⟩ := Engine.running?_eq_some_iff.mp (hin _ _ rfl)
    simp [taken?_of_cancelled hc hi, Taken.record?, passLock, finishCancelled, trail_conclude]
  | lost hc hi => simp [taken?, hi, passLock]
  | hand hc hi hh =>
    obtain ⟨j, hj, -, hp⟩ := Engine.running?_eq_some_iff.mp (hin _ _ rfl)
    obtain rfl := Option.some.inj (hi.symm.trans hj)
    simp [taken?_of_handler hc hi hh, Taken.record?, Engine.record, hp]
  | @refuse o flow lock p event i hc hi hh ht =>
    obtain ⟨j, hj, hr, hp⟩ := Engine.running?_eq_some_iff.mp (hin _ _ rfl)
    obtain rfl := Option.some.inj (hi.symm.trans hj)
    show (d.reject p i.state event now).1.engine.trail = _
    rw [reject_eq hi hr, trail_conclude]
    simp [taken?_of_refused hc hi hh ht, Taken.record?, Engine.record, Engine.update, hp]
  | enter hc hi hh ht =>
    obtain ⟨j, hj, -, hp⟩ := Engine.running?_eq_some_iff.mp (hin _ _ rfl)
    obtain rfl := Option.some.inj (hi.symm.trans hj)
    simp [taken?_of_transition hc hi hh ht, Taken.record?, Engine.record, Engine.enter,
      Engine.update, hp]
  | handlerCancelled _ | actionCancelled _ | finish _ _ =>
    simp [taken?, passLock, finishCancelled, trail_conclude]
  | completed _ _ => simp [taken?, passLock, trail_complete]
  | _ => simp [taken?, passLock]

end Desk

end ResourceFlow
