import ResourceFlow.Engine.Basic
/-! # An engine at work

  A desk is an engine together with the registry that it works on. This module
  holds what happens there between two points at which others may act: opening
  a flow, taking an event, and what follows from the outcome of an action or a
  handler. Each of these is one indivisible step.

  Taking an event:

  - if a cancel of the resource is recorded, the flow ends cancelled;
  - if a handler is registered for the selector, it is recorded and handed over;
  - else, if the state has a transition, it is recorded, the next state is
    entered and its action begins;
  - else the flow fails, and the caller is told of an illegal transition.
-/

namespace ResourceFlow

/-- An engine and the registry that it works on. -/
structure Desk (V : Vocabulary) (I : Interface) where
  /-- The registry, which other engines may share. -/
  registry : Registry
  /-- The engine. -/
  engine : Engine V I

/-- What a caller of an engine is told in the end. -/
abbrev Outcome (V : Vocabulary) : Type := Except FlowError (Snapshot V)

/-- How a run goes on after an action or a handler. -/
inductive Onward (V : Vocabulary) where
  /-- With the next event. -/
  | next (event : V.Event)
  /-- Not now: it has ended, or it waits for an event from outside. -/
  | over (outcome : Outcome V)

/-- What taking an event leads to. -/
inductive Turn (V : Vocabulary) (I : Interface) where
  /-- A handler consumes the event. -/
  | handle (h : Handler V I)
  /-- A state was entered, and its action begins. -/
  | act (s : V.State)
  /-- The run is over. -/
  | over (outcome : Outcome V)

namespace Desk

variable {V : Vocabulary} {I : Interface}

/-! ### Opening -/

/-- Opens a flow: takes the lane, records the resource as running and adds the instance. -/
def start (d : Desk V I) (f : FlowId) (q : StartRequest V) : Except FlowError (Desk V I) :=
  let params := q.params f d.engine.definition.flowType
  match d.registry.enroll q.resourceId f params.flowType with
  | .error e => .error e
  | .ok g => .ok {
      registry := g
      engine := d.engine.add (Instance.new params d.engine.definition.initial) }

/-! ### Ending -/

/-- Frees the resource, if the flow still occupies its lane. -/
def discharge (d : Desk V I) (p : FlowParameters) : Desk V I :=
  { d with registry := d.registry.discharge p.resourceId p.flow }

/-- Ends a flow with a status, frees the resource, and retires the flow if it ended now. -/
def conclude (d : Desk V I) (p : FlowParameters) (status : FlowStatus) (now : Duration) :
    Desk V I :=
  let ended := d.engine.isRunning p.flow
  let d := { d with engine := d.engine.finish p.flow status now }.discharge p
  -- A flow that had ended before is in the queue of retired flows already.
  if ended then { d with engine := d.engine.retire p.flow } else d

/-- Ends a flow as cancelled. -/
def finishCancelled (d : Desk V I) (p : FlowParameters) (now : Duration) : Desk V I :=
  d.conclude p .cancelled now

/-- Ends a flow that reached a terminal state: failed if a failure was recorded. -/
def complete (d : Desk V I) (p : FlowParameters) (now : Duration) : Desk V I × Outcome V :=
  match d.engine.instance? p.flow with
  | none => (d.discharge p, .error (.notFound p.flow))
  | some i =>
    let status := if i.failure.isSome then .failed else .finished
    -- The caller is told how the flow ended even if the retention forgets it at once.
    (d.conclude p status now, .ok (i.finish status now).snapshot)

/-- Fails a flow for an event without transition. -/
def reject (d : Desk V I) (p : FlowParameters) (s : V.State) (event : V.Event) (now : Duration) :
    Desk V I × Outcome V :=
  let failure : Failure :=
    ⟨.unset, "no transition from " ++ V.stateName s ++ " on " ++ V.selectorName event.selector⟩
  let refused : Outcome V :=
    .error (.illegalTransition p.flow (V.stateName s) (V.selectorName event.selector))
  -- The failure is noted on the instance in any case, but a run ends and is recorded only once.
  let engine := d.engine.update p.flow fun i => { i with failure := some failure }
  if d.engine.isRunning p.flow then
    let a := { AuditRecord.ofEvent p s none event with failure := some failure }
    ({ d with engine := engine.record a }.conclude p .failed now, refused)
  else ({ d with engine := engine }, refused)

/-! ### Taking an event -/

/-- Takes an event of a flow. -/
def take (d : Desk V I) (p : FlowParameters) (event : V.Event) (now : Duration) :
    Desk V I × Turn V I :=
  if d.registry.isCancelled p.resourceId then
    (d.finishCancelled p now, .over (.error (.cancelled p.flow p.resourceId)))
  else match d.engine.instance? p.flow with
    | none => (d, .over (.error (.notFound p.flow)))
    | some i =>
      match d.engine.dispatcher.handler? event.selector with
      | some h =>
        ({ d with engine := d.engine.record (.ofEvent p i.state none event) }, .handle h)
      | none =>
        match d.engine.definition.transition i.state event.selector with
        | none =>
          let (d, outcome) := d.reject p i.state event now
          (d, .over outcome)
        | some s =>
          let engine := d.engine.record (.ofEvent p i.state (some s) event)
          ({ d with engine := engine.enter p.flow s event }, .act s)

/-! ### After an action or a handler -/

/-- What follows when the action of a state has ended. -/
def acted (d : Desk V I) (p : FlowParameters) (s : V.State) (event : V.Event) (now : Duration) :
    ActionResult V → Desk V I × Onward V
  | .ok next =>
    -- A terminal state ends the run, and an event that its action emits is dropped.
    if d.engine.definition.isTerminal s then
      let (d, outcome) := d.complete p now
      (d, .over outcome)
    else match next with
      | some e => (d, .next e)
      | none => (d, .over ((d.engine.get? p.flow).elim (.error (.notFound p.flow)) .ok))
  | .error e =>
    if e.isCancellation then
      (d.finishCancelled p now, .over (.error (.cancelled p.flow p.resourceId)))
    else if d.engine.definition.isTerminal s then
      let (d, outcome) := d.complete p now
      (d, .over outcome)
    else (d, .next (d.engine.definition.failureEvent s event (some p) e))

/-- What follows when a handler has ended. -/
def handled (d : Desk V I) (p : FlowParameters) (h : Handler V I) (event : V.Event)
    (now : Duration) (result : HandlerResult V) : Desk V I × Onward V :=
  match h.delivery event result with
  | .handled next => (d, .next next)
  | .failed next => (d, .next next)
  | .unhandled event => (d, .next event)
  | .cancelled => (d.finishCancelled p now, .over (.error (.cancelled p.flow p.resourceId)))

end Desk

end ResourceFlow
