import ResourceFlow.Flow.Definition
import ResourceFlow.Service.FreeIpa
/-! # Upscaling the identity service

  A flow that brings the identity service of an environment to a number of
  instances. Entering `START` counts the nodes and, if there are too few,
  starts an operation; a handler then waits for the operation to complete.
  With enough nodes the flow finishes without an operation.
-/

namespace ResourceFlow.Upscale

/-! ### States, selectors, payload -/

/-- The states of an upscale. -/
inductive State where
  /-- Nothing has happened. -/
  | init
  /-- Nodes are counted and the operation is started. -/
  | start
  /-- The operation goes on. -/
  | inProgress
  /-- There are enough nodes. -/
  | finished
  /-- The upscale failed. -/
  | failed
  /-- The run is over. -/
  | final
  deriving DecidableEq, Inhabited

instance : Named State where
  all := [.init, .start, .inProgress, .finished, .failed, .final]
  name
    | .init => "INIT"
    | .start => "START"
    | .inProgress => "IN_PROGRESS"
    | .finished => "FINISHED"
    | .failed => "FAILED"
    | .final => "FINAL"

/-- The selectors of an upscale's events. -/
inductive Selector where
  /-- The upscale is asked for. -/
  | start
  /-- The operation was started. -/
  | inProgress
  /-- There are enough nodes already. -/
  | skipped
  /-- The operation is to be waited for. -/
  | waitRequest
  /-- The operation completed. -/
  | success
  /-- Something failed. -/
  | failed
  /-- The failure was dealt with. -/
  | failedHandled
  /-- All is done. -/
  | finalized
  deriving DecidableEq, Inhabited

instance : Named Selector where
  all := [.start, .inProgress, .skipped, .waitRequest, .success, .failed, .failedHandled,
    .finalized]
  name
    | .start => "FREE_IPA_UPSCALE_START_EVENT"
    | .inProgress => "FREE_IPA_UPSCALE_IN_PROGRESS_EVENT"
    | .skipped => "FREE_IPA_UPSCALE_SKIPPED_EVENT"
    | .waitRequest => "FREE_IPA_UPSCALE_WAIT_REQUEST"
    | .success => "FREE_IPA_UPSCALE_SUCCESS_EVENT"
    | .failed => "FREE_IPA_UPSCALE_FAILED_EVENT"
    | .failedHandled => "FREE_IPA_UPSCALE_FAILED_HANDLED_EVENT"
    | .finalized => "FREE_IPA_UPSCALE_FINALIZED_EVENT"

/-- What an upscale is about. -/
structure Payload where
  /-- The environment. -/
  environmentCrn : String
  /-- The account that it belongs to. -/
  accountId : String
  /-- How many instances there should be. -/
  target : AvailabilityType := .ha
  deriving DecidableEq, Inhabited

/-- The JSON form of a payload. -/
def Payload.toJson (p : Payload) : Json := .obj [
  ("environment_crn", .str p.environmentCrn),
  ("account_id", .str p.accountId),
  ("target", Codec.encode p.target)]

/-- The vocabulary of upscales. -/
@[reducible] def vocabulary : Vocabulary where
  State := State
  Selector := Selector
  Payload := Payload
  stateName := Named.name
  selectorName := Named.name
  payloadJson := Payload.toJson

/-! ### Transitions -/

/-- Whether a state ends the run. -/
def isTerminal : State → Bool
  | .final => true
  | _ => false

/-- The transition table. -/
def transition : State → Selector → Option State
  | .init, .start => some .start
  | .start, .inProgress => some .inProgress
  | .start, .skipped => some .finished
  | .inProgress, .success => some .finished
  | .finished, .finalized => some .final
  | .init, .failed | .start, .failed | .inProgress, .failed | .finished, .failed => some .failed
  | .failed, .failedHandled => some .final
  | _, _ => none

/-! ### Actions -/

/-- The event that follows a failure. -/
def failureEvent (e : vocabulary.Event) (error : ActionError) : vocabulary.Event :=
  e.failed .failed (error.failureType .scale) error.message

/-- Counts the nodes and starts the operation if there are too few. -/
def begin (e : vocabulary.Event) : Action ActionError (Option vocabulary.Event) := do
  let current ← ExceptT.adapt ServiceError.toActionError
    (FreeIpaService.nodeCount e.payload.environmentCrn)
  if current.toNat < e.payload.target.instanceCount then
    let operation ← (Call.upscaleFreeIpa e.payload.environmentCrn e.payload.target).orFail
    return some ((e.followUp .inProgress).withOperationId operation)
  else return some (e.followUp .skipped)

/-- What is done when a state is entered. -/
def execute (s : State) (_ : FlowParameters) (e : vocabulary.Event) :
    Action ActionError (Option vocabulary.Event) :=
  match s with
  | .init | .final => return none
  | .start => begin e
  | .inProgress => return some (e.followUp .waitRequest)
  | .finished => return some (e.followUp .finalized)
  | .failed => return some (e.followUp .failedHandled)

/-- The flow definition. -/
def definition : Definition vocabulary Collaborators where
  flowType := "freeipa-upscale"
  initial := .init
  start := .start
  failedState := .failed
  isTerminal := isTerminal
  transition := transition
  execute s p e := (execute s p e).run
  failureEvent _ e _ error := failureEvent e error

/-! ### Waiting for the operation -/

/-- What a status of the operation means for the wait. -/
def judge (operation : String) : Option OperationStatus → Attempt Unit
  | none => .again
  | some status =>
    match status.status with
    | .completed => .finish ()
    | .running => .again
    | ended => .giveUp ⟨.targetFailed, "FreeIPA upscale operation " ++ operation ++
        " ended with " ++ ended.text ++ ": " ++ status.error.getD ""⟩

/-- The wait for an operation; a status that cannot be read settles nothing. -/
def operationWait (polling : Polling) (resource : ResourceId) (operation account : String) :
    Wait Collaborators Unit where
  polling := polling
  resource := resource
  attempt _ := do
    return .ok (judge operation (← FreeIpaService.operationStatus operation account))

/-- Waits for the operation of an event. -/
def awaitOperation (polling : Polling) (e : vocabulary.Event) :
    Action ActionError vocabulary.Event := do
  match e.operationId with
  | none => throw (.failed "FreeIPA upscale has no operation id to wait for")
  | some operation =>
    (operationWait polling e.resourceId operation e.payload.accountId).orFail
    return e.followUp .success

/-- The handler that waits for the operation. -/
def waitHandler (polling : Polling) : Handler vocabulary Collaborators where
  selector := .waitRequest
  accept _ e := (awaitOperation polling e).run
  failureEvent error e := failureEvent e error

/-- The handlers of an upscale. -/
def handlers (polling : Polling) : List (Handler vocabulary Collaborators) := [waitHandler polling]

end ResourceFlow.Upscale
