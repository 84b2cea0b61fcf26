import ResourceFlow.Rehearsal.Request
/-! # Scripted flows

  A flow whose transition table, actions and handlers are data. An action logs
  that it runs and performs the next outcome of its state; a handler does so
  with the next of its own outcomes, and answers with the event that it was
  given if the outcome has none.
-/

namespace ResourceFlow.Rehearsal

/-! ### Performing an outcome -/

/-- The steps of a script, on the registry of this name. -/
def onRegistry (registry : String) (steps : List RegistryStep) : List RegistryStep :=
  steps.map fun s => { s with registry := registry }

/-- Attempt `k` of a scripted wait for an event. -/
def attemptProcedure (registry : String) (resource : ResourceId) (w : ScriptedWait) (k : Nat) :
    Procedure Requests (Except String (Attempt Unit)) :=
  let a := w.attempt k
  .call (.log [("attempt", .int resource.toInt)]) fun _ =>
  .call (.registry (onRegistry registry a.registry)) fun _ =>
  .call (.sleep a.takes) fun _ =>
  .done (a.outcome.map fun
    | .again => .again
    | .finish _ => .finish ()
    | .giveUp reason => .giveUp reason)

/-- Performs an outcome for an event, with the cancellation of a resource ending its wait. -/
def perform (registry : String) (cancelling : ResourceId) (o : Outcome) (e : vocabulary.Event) :
    Program Requests (Except ActionError (Option vocabulary.Event)) :=
  .call (.sleep o.sleeps) fun _ =>
  .call (.registry (onRegistry registry o.registry)) fun _ =>
  match o.wait with
  | none => .done (o.ending.result e)
  | some w =>
    .wait { polling := w.polling
            resource := cancelling
            attempt := attemptProcedure registry e.resourceId w } fun
    | .ok _ => .done (o.ending.result e)
    | .error error => .done (.error (.poll error))

/-- Performs the next of a list of outcomes. -/
def performNext (registry : String) (cancelling : ResourceId) (slot : Slot) (l : List Outcome)
    (e : vocabulary.Event) : Program Requests (Except ActionError (Option vocabulary.Event)) :=
  .call (.uses slot) fun k => perform registry cancelling ((pick? l k).getD {}) e

/-! ### Definitions -/

/-- A flow made of data. -/
structure ScriptedFlow where
  /-- The name of its type. -/
  flowType : String
  /-- The initial state. -/
  initial : String
  /-- The selector of the start event. -/
  start : String
  /-- The failed state. -/
  failed : String
  /-- The selector of failure events. -/
  failureSelector : String
  /-- The usual category of failures. -/
  failureType : FailureType
  /-- The terminal states. -/
  terminal : List String
  /-- The transition table; the first row that fits counts. -/
  transitions : List (String × String × String)
  /-- The outcomes of the actions, by state. -/
  actions : List (String × List Outcome)

/-- The parameters of a run as the log shows them. -/
def parametersOfRun (p : FlowParameters) : Json := .obj [
  ("flow_id", flowJson p.flow),
  ("flow_type", .str p.flowType),
  ("resource_id", .int p.resourceId.toInt),
  ("resource_crn", .str p.resourceCrn),
  ("user_crn", Json.ofOption .str p.userCrn),
  ("cascading", .bool p.cascading),
  ("forced", .bool p.forced)]

/-- The action of a state. -/
def ScriptedFlow.execute (f : ScriptedFlow) (engine registry : String) (s : State)
    (p : FlowParameters) (e : vocabulary.Event) :
    Program Requests (Except ActionError (Option vocabulary.Event)) :=
  .look p.resourceId fun cancelled =>
  .call (.log [("action", .str s.name), ("selector", .str e.selector.name),
    ("params", parametersOfRun p), ("cancelled", .bool cancelled)]) fun _ =>
  performNext registry p.resourceId ⟨engine, "state " ++ s.name, p.resourceId⟩
    ((f.actions.lookup s.name).getD []) e

/-- The definition of a scripted flow on the engine and the registry of these names. -/
def ScriptedFlow.definition (f : ScriptedFlow) (engine registry : String) :
    Definition vocabulary Requests where
  flowType := f.flowType
  initial := .named f.initial
  start := .named f.start
  failedState := .named f.failed
  isTerminal s := f.terminal.contains s.name
  transition s sel := (f.transitions.find? fun (fromState, selector, _) =>
    fromState = s.name ∧ selector = sel.name).map fun (_, _, toState) => .named toState
  execute := f.execute engine registry
  failureEvent _ e _ error :=
    e.failed (.named f.failureSelector) (error.failureType f.failureType) error.message

/-! ### Handlers -/

/-- A handler made of data. -/
structure ScriptedHandler where
  /-- The selector that it consumes. -/
  selector : String
  /-- Its outcomes. -/
  outcomes : List Outcome
  /-- The selector of its failure events. -/
  failureSelector : String
  /-- The usual category of its failures. -/
  failureType : FailureType

/-- The handler, which is the engine's handler of this number, on the registry of this name. -/
def ScriptedHandler.handler (h : ScriptedHandler) (engine registry : String) (number : Nat) :
    Handler vocabulary Requests where
  selector := .named h.selector
  accept flow e :=
    .call (.log [("handler", .str e.selector.name), ("flow", Json.ofOption flowJson flow)]) fun _ =>
    (performNext registry e.resourceId ⟨engine, "handler " ++ toString number, e.resourceId⟩
      h.outcomes e).map (·.map (·.getD e))
  failureEvent error e :=
    e.failed (.named h.failureSelector) (error.failureType h.failureType) error.message

/-! ### Reading -/

/-- A scripted handler. -/
def readHandler (j : Json) : ScriptedHandler where
  selector := j.textAt "selector"
  outcomes := (j.listAt "outcomes").map readOutcome
  failureSelector := j.textAt "failure_selector"
  failureType := (j.namedAt? "failure_type").getD .unset

/-- The texts of a row. -/
def readRow (j : Json) : String × String × String :=
  match readTexts j with
  | [fromState, selector, toState] => (fromState, selector, toState)
  | _ => ("", "", "")

/-- A scripted flow. -/
def readScriptedFlow (j : Json) : ScriptedFlow where
  flowType := j.textAt "flow_type"
  initial := j.textAt "initial"
  start := j.textAt "start"
  failed := j.textAt "failed"
  failureSelector := j.textAt "failure_selector"
  failureType := (j.namedAt? "failure_type").getD .unset
  terminal := j.textsAt "terminal"
  transitions := (j.listAt "transitions").map readRow
  actions := (j.field "actions").fields.map fun (state, l) =>
    (state, (l.items?.getD []).map readOutcome)

end ResourceFlow.Rehearsal
