import ResourceFlow.Engine.Desk
import ResourceFlow.Program.Run
/-! # Tasks

  A task is a call of an engine in progress: the run of an opened flow, the
  delivery of an event to a flow, or a cancel. Between its steps, other tasks
  take theirs. A task that processes events first finds the flow's lane, then
  waits for its lock, and holds the lock until it is over.
-/

namespace ResourceFlow

/-- The number of a task. -/
abbrev TaskId := Nat

/-! ### Stages -/

/-- How far the processing of events has come. -/
inductive Processing (V : Vocabulary) (I : Interface) where
  /-- About to find the lane, for this event. -/
  | arriving (event : V.Event)
  /-- In the queue of a lock. -/
  | queued (lock : LockId) (event : V.Event)
  /-- Holds the lock; about to take an event. -/
  | ready (lock : LockId) (params : FlowParameters) (event : V.Event)
  /-- A handler is at work on an event. -/
  | handling (lock : LockId) (params : FlowParameters) (event : V.Event) (h : Handler V I)
      (activity : Activity I (HandlerResult V))
  /-- The action of a state entered on an event is at work. -/
  | acting (lock : LockId) (params : FlowParameters) (event : V.Event) (s : V.State)
      (activity : Activity I (ActionResult V))
  /-- Over. -/
  | over (outcome : Outcome V)

/-- How far a cancel has come. -/
inductive Cancelling (V : Vocabulary) where
  /-- About to look who occupies the lane. -/
  | arriving
  /-- The request for the flow is recorded; in the queue of its lock. -/
  | queued (lock : LockId) (flow : FlowId)
  /-- Over: the flow as it then stood, or none. -/
  | over (outcome : Option (Snapshot V))

/-- How an event came to be processed. -/
inductive Origin where
  /-- It started the flow, on this resource. -/
  | started (resource : ResourceId)
  /-- It was delivered from outside. -/
  | dispatched
  deriving DecidableEq, Inhabited

/-- What the caller is told. Whoever started a flow that was cancelled before it took its lane is
    told of the cancellation. -/
def Origin.report {V : Vocabulary} (o : Origin) (flow : FlowId) (outcome : Outcome V) : Outcome V :=
  match o, outcome with
  | .started r, .error (.terminated _ .cancelled) => .error (.cancelled flow r)
  | _, outcome => outcome

/-- What a task does. -/
inductive Work (V : Vocabulary) (I : Interface) where
  /-- It processes events of a flow. -/
  | process (origin : Origin) (flow : FlowId) (stage : Processing V I)
  /-- It cancels the flow of a resource. -/
  | cancel (resource : ResourceId) (stage : Cancelling V)
  /-- It could not open a flow. -/
  | refused (error : FlowError)

/-- What a task that is over came to. -/
inductive TaskResult (V : Vocabulary) where
  /-- The outcome of processing events. -/
  | processed (outcome : Outcome V)
  /-- The outcome of a cancel. -/
  | cancelled (outcome : Option (Snapshot V))

namespace Work

variable {V : Vocabulary} {I : Interface}

/-- The result, once the task is over. -/
def result? : Work V I → Option (TaskResult V)
  | .process _ _ (.over outcome) => some (.processed outcome)
  | .cancel _ (.over outcome) => some (.cancelled outcome)
  | .refused e => some (.processed (.error e))
  | _ => none

/-- The lock for which the task waits or which it holds. -/
def lock? : Work V I → Option LockId
  | .process _ _ (.queued lock _) => some lock
  | .process _ _ (.ready lock ..) => some lock
  | .process _ _ (.handling lock ..) => some lock
  | .process _ _ (.acting lock ..) => some lock
  | .cancel _ (.queued lock _) => some lock
  | _ => none

/-- What an activity inside the task needs to go on. -/
def need : Work V I → Need I
  | .process _ _ (.handling _ _ _ _ activity) => activity.need
  | .process _ _ (.acting _ _ _ _ activity) => activity.need
  | _ => .nothing

end Work

/-! ### Steps -/

namespace Desk

variable {V : Vocabulary} {I : Interface}

/-- What can be seen from the desk. -/
def moment (d : Desk V I) (now : Duration) : Moment where
  now := now
  cancelled := d.registry.isCancelled

/-- Lets go of a lock. -/
def passLock (d : Desk V I) (lock : LockId) : Desk V I :=
  { d with registry := d.registry.passLock lock }

/-- Finds the lane of a flow and asks for its lock. -/
def arrive (d : Desk V I) (t : TaskId) (flow : FlowId) (event : V.Event) :
    Desk V I × Processing V I :=
  match d.engine.instance? flow with
  | none => (d, .over (.error (.notFound flow)))
  | some i =>
    if i.status.isTerminal then (d, .over (.error (.terminated flow i.status)))
    else
      match d.registry.lanes.lane? i.params.resourceId with
      -- Only a writer other than the engines can take the lane from a running flow.
      | none => (d, .over (.error (.terminated flow (d.engine.statusOf flow))))
      | some lane =>
        if lane.flow = flow then
          ({ d with registry := d.registry.askLock lane.lock t }, .queued lane.lock event)
        else (d, .over (.error (.terminated flow (d.engine.statusOf flow))))

/-- With the lock in hand, looks at the flow again. -/
def admitted (d : Desk V I) (flow : FlowId) (lock : LockId) (event : V.Event) :
    Desk V I × Processing V I :=
  match d.engine.instance? flow with
  -- While the task waited for the lock, the flow may have ended and have been forgotten.
  | none => (d.passLock lock, .over (.error (.notFound flow)))
  | some i =>
    if i.status.isTerminal then (d.passLock lock, .over (.error (.terminated flow i.status)))
    else (d, .ready lock i.params event)

/-- Goes on after an action or a handler. -/
def onward (lock : LockId) (p : FlowParameters) :
    Desk V I × Onward V → Desk V I × Processing V I
  | (d, .next event) => (d, .ready lock p event)
  | (d, .over outcome) => (d.passLock lock, .over outcome)

/-- Takes the event at hand. -/
def turn (d : Desk V I) (lock : LockId) (p : FlowParameters) (event : V.Event) (now : Duration) :
    Desk V I × Processing V I :=
  match d.take p event now with
  | (d, .handle h) =>
    (d, .handling lock p event h ((h.accept (some p.flow) event).run (d.moment now)))
  | (d, .act s) =>
    (d, .acting lock p event s ((d.engine.definition.execute s p event).run (d.moment now)))
  | (d, .over outcome) => (d.passLock lock, .over outcome)

/-- One step of processing events; none while the lock is not in hand, or after the end. -/
def process (d : Desk V I) (t : TaskId) (flow : FlowId) (now : Duration) (reply : I.Reply) :
    Processing V I → Option (Desk V I × Processing V I)
  | .arriving event => some (d.arrive t flow event)
  | .queued lock event =>
    if d.registry.lanes.isHeldBy lock t then some (d.admitted flow lock event) else none
  | .ready lock p event => some (d.turn lock p event now)
  | .handling lock p event h activity =>
    match activity with
    | .ended outcome => some (onward lock p (d.handled p h event now outcome))
    | activity => some (d, .handling lock p event h (activity.step (d.moment now) reply))
  | .acting lock p event s activity =>
    match activity with
    | .ended outcome => some (onward lock p (d.acted p s event now outcome))
    | activity => some (d, .acting lock p event s (activity.step (d.moment now) reply))
  | .over _ => none

/-- Records a cancel of the flow that occupies the lane, if this engine runs it. -/
def requestCancel (d : Desk V I) (t : TaskId) (r : ResourceId) : Desk V I × Cancelling V :=
  match d.registry.lanes.lane? r with
  | none => (d, .over none)
  | some lane =>
    if d.engine.owns lane.flow then
      match d.registry.requestCancel r lane.flow with
      | none => (d, .over none)
      | some g => ({ d with registry := g.askLock lane.lock t }, .queued lane.lock lane.flow)
    else (d, .over none)

/-- With the lock in hand, ends the flow as cancelled. -/
def finishCancel (d : Desk V I) (lock : LockId) (flow : FlowId) (now : Duration) :
    Desk V I × Cancelling V :=
  match d.engine.instance? flow with
  | none => (d.passLock lock, .over none)
  | some i =>
    let d := d.finishCancelled i.params now
    (d.passLock lock, .over (d.engine.get? flow))

/-- One step of a cancel; none while the lock is not in hand, or after the end. -/
def cancel (d : Desk V I) (t : TaskId) (r : ResourceId) (now : Duration) :
    Cancelling V → Option (Desk V I × Cancelling V)
  | .arriving => some (d.requestCancel t r)
  | .queued lock flow =>
    if d.registry.lanes.isHeldBy lock t then some (d.finishCancel lock flow now) else none
  | .over _ => none

/-- One step of a task. -/
def work (d : Desk V I) (t : TaskId) (now : Duration) (reply : I.Reply) :
    Work V I → Option (Desk V I × Work V I)
  | .process origin flow stage =>
    (d.process t flow now reply stage).map fun (d, stage) =>
      (d, .process origin flow (match stage with
        | .over outcome => .over (origin.report flow outcome)
        | stage => stage))
  | .cancel r stage => (d.cancel t r now stage).map fun (d, stage) => (d, .cancel r stage)
  | .refused _ => none

end Desk

end ResourceFlow
