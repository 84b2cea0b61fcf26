import ResourceFlow.Rehearsal.RegistryStep
import ResourceFlow.Rehearsal.Vocabulary
/-! # Scripted outcomes

  What an action or a handler of a scripted flow does: it sleeps, acts on the
  registry, waits with scripted attempts, and ends with an error, an event or
  nothing. Outcomes are given as lists; they are used in order, and the last
  is used again and again.
-/

namespace ResourceFlow.Rehearsal

/-- The item of a number in a list of which the last item repeats. -/
def pick? {α : Type} (l : List α) (k : Nat) : Option α :=
  match l[k]? with
  | some a => some a
  | none => l.getLast?

/-! ### Attempts -/

/-- One scripted attempt. -/
structure ScriptedAttempt where
  /-- Acts on the registry before anything else. -/
  registry : List RegistryStep := []
  /-- How many milliseconds the attempt takes. -/
  takes : Nat := 0
  /-- What it comes to. -/
  outcome : Except String (Attempt Json) := .ok .again

/-- What an attempt comes to. Any value may finish it, null too. -/
def readAttemptOutcome (j : Json) : Except String (Attempt Json) :=
  match j.field? "finish", j.given? "break", j.given? "error" with
  | some v, _, _ => .ok (.finish v)
  | none, some r, _ => .ok (.giveUp (readAbortReason r))
  | none, none, some e => .error (e.text?.getD "")
  | none, none, none => .ok .again

/-- A scripted attempt. -/
def readAttempt (j : Json) : ScriptedAttempt where
  registry := (j.listAt "registry").filterMap readRegistryStep?
  takes := j.natAt "takes_ms"
  outcome := readAttemptOutcome j

/-- A scripted wait. -/
structure ScriptedWait where
  /-- Interval, time limit and error policy. -/
  polling : Polling
  /-- The attempts; the last repeats, and without any all continue. -/
  attempts : List ScriptedAttempt

/-- A scripted wait. -/
def readWait (j : Json) : ScriptedWait where
  polling := readPollingFields j
  attempts := (j.listAt "attempts").map readAttempt

/-- The attempt of a number. -/
def ScriptedWait.attempt (w : ScriptedWait) (k : Nat) : ScriptedAttempt :=
  (pick? w.attempts k).getD {}

/-! ### Outcomes -/

/-- An event made from the event at hand. -/
structure Emission where
  /-- Its selector. -/
  selector : Selector
  /-- A new payload. -/
  payload : Option Payload
  /-- An operation id to attach. -/
  operationId : Option String
  /-- A failure to attach. -/
  failure : Option Failure

/-- How an outcome ends. -/
inductive Ending where
  /-- With an error. -/
  | fail (error : ActionError)
  /-- With exactly this event. -/
  | event (e : vocabulary.Event)
  /-- With an event made from the event at hand. -/
  | emit (emission : Emission)
  /-- With no event. -/
  | nothing

/-- What a scripted action or handler does once. -/
structure Outcome where
  /-- How many milliseconds it sleeps. -/
  sleeps : Nat := 0
  /-- What it does to the registry. -/
  registry : List RegistryStep := []
  /-- How it waits. -/
  wait : Option ScriptedWait := none
  /-- How it ends. -/
  ending : Ending := .nothing

/-- An event made from the event at hand. A failure makes it a failure event; else a new payload
    replaces the old one. -/
def Emission.apply (m : Emission) (e : vocabulary.Event) : vocabulary.Event :=
  let next := match m.failure, m.payload with
    | some f, _ => e.failed m.selector f.type f.cause
    | none, some p => e.followUpWith m.selector p
    | none, none => e.followUp m.selector
  match m.operationId with
  | some o => next.withOperationId o
  | none => next

/-- What the end of an outcome means for the event at hand. -/
def Ending.result (e : vocabulary.Event) : Ending → Except ActionError (Option vocabulary.Event)
  | .fail error => .error error
  | .event e => .ok (some e)
  | .emit m => .ok (some (m.apply e))
  | .nothing => .ok none

/-- An event of a scripted flow. -/
def readNamedEvent (j : Json) : vocabulary.Event := readEvent .named .json j

/-- An event made from the event at hand. -/
def readEmission (j : Json) : Emission where
  selector := .named (j.textAt "selector")
  payload := (j.field? "payload").map .json
  operationId := j.textAt? "operation_id"
  failure := (j.given? "failure").map readFailure

/-- How an outcome ends. -/
def readEnding (j : Json) : Ending :=
  match j.given? "fail", j.given? "event", j.given? "emit" with
  | some e, _, _ => .fail (readActionError e)
  | none, some e, _ => .event (readNamedEvent e)
  | none, none, some m => .emit (readEmission m)
  | none, none, none => .nothing

/-- An outcome. -/
def readOutcome (j : Json) : Outcome where
  sleeps := j.natAt "sleep_ms"
  registry := (j.listAt "registry").filterMap readRegistryStep?
  wait := (j.given? "wait").map readWait
  ending := readEnding j

end ResourceFlow.Rehearsal
