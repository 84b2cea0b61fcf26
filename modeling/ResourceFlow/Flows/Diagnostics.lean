import ResourceFlow.Flow.Definition
import ResourceFlow.Service.Telemetry
/-! # Collecting diagnostics

  A flow that prepares the nodes, upgrades their telemetry, makes sure of a
  credential when the bundle goes to support, collects, and cleans up. Each
  state only asks for its work; a handler does it and answers with the event
  that leads on. A failing handler tags the failure with its stage.
-/

namespace ResourceFlow.Diagnostics

/-! ### States, selectors -/

/-- The states of a collection. -/
inductive State where
  /-- Nothing has happened. -/
  | init
  /-- Nodes are prepared. -/
  | initializing
  /-- Telemetry is upgraded. -/
  | upgrading
  /-- The credential is made sure of. -/
  | ensuringMachineUser
  /-- Diagnostics are collected. -/
  | collecting
  /-- Leftovers are removed. -/
  | cleaningUp
  /-- All is collected. -/
  | finished
  /-- The collection failed. -/
  | failed
  /-- The run is over. -/
  | final
  deriving DecidableEq, Inhabited

instance : Named State where
  all := [.init, .initializing, .upgrading, .ensuringMachineUser, .collecting, .cleaningUp,
    .finished, .failed, .final]
  name
    | .init => "INIT"
    | .initializing => "DIAGNOSTICS_INIT"
    | .upgrading => "DIAGNOSTICS_UPGRADE"
    | .ensuringMachineUser => "DIAGNOSTICS_ENSURE_MACHINE_USER"
    | .collecting => "DIAGNOSTICS_COLLECTION"
    | .cleaningUp => "DIAGNOSTICS_CLEANUP"
    | .finished => "DIAGNOSTICS_COLLECTION_FINISHED"
    | .failed => "DIAGNOSTICS_COLLECTION_FAILED"
    | .final => "FINAL"

/-- The selectors of a collection's events: for each stage, one that leads to it and one that
    asks for its work. -/
inductive Selector where
  /-- The collection is asked for. -/
  | startInit
  /-- Nodes are to be prepared. -/
  | init
  /-- Nodes are prepared. -/
  | startUpgrade
  /-- Telemetry is to be upgraded. -/
  | upgrade
  /-- Telemetry is upgraded. -/
  | startEnsureMachineUser
  /-- The credential is to be made sure of. -/
  | ensureMachineUser
  /-- The credential is there. -/
  | startCollection
  /-- Diagnostics are to be collected. -/
  | collect
  /-- Diagnostics are collected. -/
  | startCleanup
  /-- Leftovers are to be removed. -/
  | cleanup
  /-- Leftovers are removed. -/
  | finish
  /-- All is done. -/
  | finalize
  /-- Something failed. -/
  | failed
  /-- The failure was dealt with. -/
  | failedHandled
  deriving DecidableEq, Inhabited

instance : Named Selector where
  all := [.startInit, .init, .startUpgrade, .upgrade, .startEnsureMachineUser, .ensureMachineUser,
    .startCollection, .collect, .startCleanup, .cleanup, .finish, .finalize, .failed,
    .failedHandled]
  name
    | .startInit => "START_DIAGNOSTICS_INIT_EVENT"
    | .init => "INIT_DIAGNOSTICS_EVENT"
    | .startUpgrade => "START_DIAGNOSTICS_UPGRADE_EVENT"
    | .upgrade => "UPGRADE_DIAGNOSTICS_EVENT"
    | .startEnsureMachineUser => "START_DIAGNOSTICS_ENSURE_MACHINE_USER_EVENT"
    | .ensureMachineUser => "ENSURE_MACHINE_USER_EVENT"
    | .startCollection => "START_DIAGNOSTICS_COLLECTION_EVENT"
    | .collect => "COLLECT_DIAGNOSTICS_EVENT"
    | .startCleanup => "START_DIAGNOSTICS_CLEANUP_EVENT"
    | .cleanup => "CLEANUP_DIAGNOSTICS_EVENT"
    | .finish => "FINISH_DIAGNOSTICS_COLLECTION_EVENT"
    | .finalize => "FINALIZE_DIAGNOSTICS_COLLECTION_EVENT"
    | .failed => "FAILED_DIAGNOSTICS_COLLECTION_EVENT"
    | .failedHandled => "HANDLED_FAILED_DIAGNOSTICS_COLLECTION_EVENT"

/-- The vocabulary of collections. -/
@[reducible] def vocabulary : Vocabulary where
  State := State
  Selector := Selector
  Payload := DiagnosticsParameters
  stateName := Named.name
  selectorName := Named.name
  payloadJson := DiagnosticsParameters.toJson

/-! ### Transitions -/

/-- Whether a state ends the run. -/
def isTerminal : State → Bool
  | .final => true
  | _ => false

/-- The transition table. -/
def transition : State → Selector → Option State
  | .init, .startInit => some .initializing
  | .initializing, .startUpgrade => some .upgrading
  | .upgrading, .startEnsureMachineUser => some .ensuringMachineUser
  | .ensuringMachineUser, .startCollection => some .collecting
  | .collecting, .startCleanup => some .cleaningUp
  | .cleaningUp, .finish => some .finished
  | .finished, .finalize => some .final
  | .failed, .failedHandled => some .final
  | .failed, .failed | .final, .failed => none
  | _, .failed => some .failed
  | _, _ => none

/-! ### Actions -/

/-- The event that follows a failure of a category. -/
def failureEvent (type : FailureType) (e : vocabulary.Event) (error : ActionError) :
    vocabulary.Event :=
  e.failed .failed (error.failureType type) error.message

/-- What is asked for when a state is entered. -/
def request? : State → Option Selector
  | .init | .final => none
  | .initializing => some .init
  | .upgrading => some .upgrade
  | .ensuringMachineUser => some .ensureMachineUser
  | .collecting => some .collect
  | .cleaningUp => some .cleanup
  | .finished => some .finalize
  | .failed => some .failedHandled

/-- The flow definition. -/
def definition : Definition vocabulary Collaborators where
  flowType := "diagnostics-collection"
  initial := .init
  start := .startInit
  failedState := .failed
  isTerminal := isTerminal
  transition := transition
  execute s _ e := .done (.ok ((request? s).map e.followUp))
  failureEvent _ e _ error := failureEvent .unset e error

/-! ### Handlers -/

/-- A handler that does the work of a stage. -/
def stageHandler (selector : Selector) (type : FailureType)
    (accept : Option FlowId → vocabulary.Event → Action ActionError vocabulary.Event) :
    Handler vocabulary Collaborators where
  selector := selector
  accept flow e := (accept flow e).run
  failureEvent error e := failureEvent type e error

/-- Puts the flow's id on the collection and prepares the nodes. -/
def prepare (flow : Option FlowId) (e : vocabulary.Event) :
    Action ActionError vocabulary.Event := do
  let parameters := { e.payload with uuid := flow.map FlowId.text }
  (Call.initDiagnostics e.resourceId parameters).orFail
  return e.followUpWith .startUpgrade parameters

/-- The nodes that a collection is about. -/
def targets (p : DiagnosticsParameters) : NodeFilter where
  includeHosts := p.hosts
  excludeHosts := p.excludeHosts
  includeHostGroups := p.hostGroups

/-- Upgrades the telemetry package on the nodes that the collection is about. -/
def upgrade (settings : TelemetrySettings) (e : vocabulary.Event) :
    Action ActionError vocabulary.Event := do
  ExceptT.adapt ServiceError.toActionError
    (TelemetryService.upgrade settings e.resourceId .cdpTelemetry (some (targets e.payload)))
  return e.followUp .startEnsureMachineUser

/-- Puts a credential on a collection that goes to support. -/
def ensureMachineUser (e : vocabulary.Event) : Action ActionError vocabulary.Event := do
  if e.payload.destination = .support then
    let credential ← (Call.databusCredential e.resourceId).orFail
    return e.followUpWith .startCollection { e.payload with
      accessKey := some credential.accessKey, privateKey := some credential.privateKey }
  else return e.followUpWith .startCollection e.payload

/-- Collects from the nodes. -/
def collect (e : vocabulary.Event) : Action ActionError vocabulary.Event := do
  (Call.collectDiagnostics e.resourceId e.payload).orFail
  return e.followUp .startCleanup

/-- Removes what the collection left on the nodes. -/
def cleanup (e : vocabulary.Event) : Action ActionError vocabulary.Event := do
  (Call.cleanupDiagnostics e.resourceId e.payload).orFail
  return e.followUp .finish

/-- The handlers of a collection, stage by stage. -/
def handlers (settings : TelemetrySettings) : List (Handler vocabulary Collaborators) := [
  stageHandler .init .initialization prepare,
  stageHandler .upgrade .upgrade fun _ => upgrade settings,
  stageHandler .ensureMachineUser .umsResourceCheck fun _ => ensureMachineUser,
  stageHandler .collect .collection fun _ => collect,
  stageHandler .cleanup .cleanup fun _ => cleanup]

end ResourceFlow.Diagnostics
