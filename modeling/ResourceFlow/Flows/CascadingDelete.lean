import ResourceFlow.Collaborator.Call
import ResourceFlow.Flow.Definition
/-! # Deleting an environment with what it holds

  A flow that deletes the data lakes of an environment (if the deletion
  cascades), then its identity service, then its other resources. After each
  of the first two it waits until they are gone. A forced run goes on when a
  request to delete something fails; any other failure ends it as failed.
-/

namespace ResourceFlow.CascadingDelete

/-! ### States, selectors -/

/-- The states of a deletion. -/
inductive State where
  /-- Nothing has happened. -/
  | init
  /-- Data lakes are being deleted. -/
  | datalakesDeleting
  /-- The identity service is being deleted. -/
  | freeIpaDeleting
  /-- Other resources are being deleted. -/
  | resourcesDeleting
  /-- All is deleted. -/
  | finished
  /-- The deletion failed. -/
  | failed
  /-- The run is over. -/
  | final
  deriving DecidableEq, Inhabited

instance : Named State where
  all := [.init, .datalakesDeleting, .freeIpaDeleting, .resourcesDeleting, .finished, .failed,
    .final]
  name
    | .init => "INIT"
    | .datalakesDeleting => "DATALAKES_DELETING"
    | .freeIpaDeleting => "FREEIPA_DELETING"
    | .resourcesDeleting => "RESOURCES_DELETING"
    | .finished => "ENV_DELETE_FINISHED"
    | .failed => "ENV_DELETE_FAILED"
    | .final => "FINAL"

/-- The selectors of a deletion's events. -/
inductive Selector where
  /-- The deletion is asked for. -/
  | start
  /-- The data lakes are gone. -/
  | datalakesDeleted
  /-- The identity service is gone. -/
  | freeIpaDeleted
  /-- The other resources are gone. -/
  | resourcesDeleted
  /-- All is done. -/
  | finalize
  /-- Something failed. -/
  | failed
  /-- The failure was dealt with. -/
  | failedHandled
  deriving DecidableEq, Inhabited

instance : Named Selector where
  all := [.start, .datalakesDeleted, .freeIpaDeleted, .resourcesDeleted, .finalize, .failed,
    .failedHandled]
  name
    | .start => "START_ENV_DELETE_EVENT"
    | .datalakesDeleted => "FINISH_DATALAKES_DELETE_EVENT"
    | .freeIpaDeleted => "FINISH_FREEIPA_DELETE_EVENT"
    | .resourcesDeleted => "FINISH_RESOURCES_DELETE_EVENT"
    | .finalize => "FINALIZE_ENV_DELETE_EVENT"
    | .failed => "FAILED_ENV_DELETE_EVENT"
    | .failedHandled => "HANDLED_FAILED_ENV_DELETE_EVENT"

/-- The vocabulary of deletions. -/
@[reducible] def vocabulary : Vocabulary where
  State := State
  Selector := Selector
  Payload := EnvironmentView
  stateName := Named.name
  selectorName := Named.name
  payloadJson := Codec.encode

/-! ### Transitions -/

/-- Whether a state ends the run. -/
def isTerminal : State → Bool
  | .final => true
  | _ => false

/-- The transition table. -/
def transition : State → Selector → Option State
  | .init, .start => some .datalakesDeleting
  | .datalakesDeleting, .datalakesDeleted => some .freeIpaDeleting
  | .freeIpaDeleting, .freeIpaDeleted => some .resourcesDeleting
  | .resourcesDeleting, .resourcesDeleted => some .finished
  | .finished, .finalize => some .final
  | .init, .failed | .datalakesDeleting, .failed | .freeIpaDeleting, .failed
  | .resourcesDeleting, .failed | .finished, .failed => some .failed
  | .failed, .failedHandled => some .final
  | _, _ => none

/-! ### Deleting -/

/-- A failed request to delete something is tolerated in a forced run and fails any other. -/
def tolerate (forced : Bool) (e : CollaboratorError) : Action ActionError Unit :=
  if forced then return () else throw e.toActionError

/-- Asks for the deletion of data lakes; the answer names those whose deletion was accepted. -/
def deleteEach (forced : Bool) : List DatalakeSummary → Action ActionError (List String)
  | [] => return []
  | d :: rest => do
    match ← (Call.deleteDatalake d.crn forced).ask with
    | .ok _ => return d.crn :: (← deleteEach forced rest)
    | .error e =>
      tolerate forced e
      deleteEach forced rest

/-- The wait until no data lake of a list is listed any more. -/
def datalakesWait (polling : Polling) (resource : ResourceId) (environment : String)
    (deleting : List String) : Wait Collaborators Unit where
  polling := polling
  resource := resource
  attempt _ := do
    match ← (Call.listDatalakes environment).attempt with
    | .ok remaining =>
      return .ok (if remaining.any fun d => deleting.contains d.crn then .again else .finish ())
    | .error e => return .error e.message

/-- Deletes the data lakes of an environment and waits until they are gone. -/
def deleteDatalakes (polling : Polling) (p : FlowParameters) (environment : String) :
    Action ActionError Unit := do
  let datalakes ← (Call.listDatalakes environment).orFail
  match ← deleteEach p.forced datalakes with
  | [] => return ()
  | deleting => (datalakesWait polling p.resourceId environment deleting).orFail

/-- The wait until the identity service of an environment is not found any more. -/
def freeIpaWait (polling : Polling) (resource : ResourceId) (environment : String) :
    Wait Collaborators Unit where
  polling := polling
  resource := resource
  attempt _ := do
    match ← (Call.describeFreeIpa environment).attempt with
    | .ok _ => return .ok .again
    | .error (.notFound _) => return .ok (.finish ())
    | .error e => return .error e.message

/-- Deletes the identity service of an environment and waits until it is gone. -/
def deleteFreeIpa (polling : Polling) (p : FlowParameters) (environment : String) :
    Action ActionError Unit := do
  match ← (Call.deleteFreeIpa environment p.forced).ask with
  | .ok _ => (freeIpaWait polling p.resourceId environment).orFail
  | .error (.notFound _) => return ()
  | .error e => tolerate p.forced e

/-- Deletes the other resources of an environment. -/
def deleteResources (p : FlowParameters) (environment : String) : Action ActionError Unit := do
  match ← (Call.deleteResources environment p.forced).ask with
  | .ok _ => return ()
  | .error e => tolerate p.forced e

/-! ### Actions -/

/-- The event that follows a failure. -/
def failureEvent (e : vocabulary.Event) (error : ActionError) : vocabulary.Event :=
  e.failed .failed (error.failureType .deletion) error.message

/-- What is done when a state is entered. -/
def execute (polling : Polling) (s : State) (p : FlowParameters) (e : vocabulary.Event) :
    Action ActionError (Option vocabulary.Event) := do
  match s with
  | .init | .final => return none
  | .datalakesDeleting =>
    if p.cascading then deleteDatalakes polling p e.resourceCrn
    return some (e.followUp .datalakesDeleted)
  | .freeIpaDeleting =>
    deleteFreeIpa polling p e.resourceCrn
    return some (e.followUp .freeIpaDeleted)
  | .resourcesDeleting =>
    deleteResources p e.resourceCrn
    return some (e.followUp .resourcesDeleted)
  | .finished => return some (e.followUp .finalize)
  | .failed => return some (e.followUp .failedHandled)

/-- The flow definition. -/
def definition (polling : Polling) : Definition vocabulary Collaborators where
  flowType := "environment-deletion"
  initial := .init
  start := .start
  failedState := .failed
  isTerminal := isTerminal
  transition := transition
  execute s p e := (execute polling s p e).run
  failureEvent _ e _ error := failureEvent e error

end ResourceFlow.CascadingDelete
