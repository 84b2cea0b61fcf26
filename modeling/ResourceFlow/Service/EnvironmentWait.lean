import ResourceFlow.Collaborator.Call
import ResourceFlow.Service.Error
/-! # Waiting for an environment

  Waits until the status of an environment passes a check, and gives up when
  the environment failed, is stopped or is starting, or when the resource that
  waits is cancelled.
-/

namespace ResourceFlow.EnvironmentWait

/-- What is waited for, and by whom. -/
structure Target where
  /-- The resource whose cancellation ends the wait. -/
  resourceId : ResourceId
  /-- The environment. -/
  environmentCrn : String
  /-- Its name in messages. -/
  environmentName : String
  deriving DecidableEq, Inhabited

/-- What a described environment means for the wait. -/
def classify (t : Target) (check : EnvironmentStatus → Bool) (d : EnvironmentDetails) :
    Attempt EnvironmentDetails :=
  if check d.status then .finish d
  else if d.status.isFailed then
    .giveUp ⟨.targetFailed, "Environment creation failed: " ++ t.environmentName⟩
  else if d.status.isStopInProgressOrStopped then
    .giveUp ⟨.targetStopped, "Environment is in stopped status: " ++ t.environmentName⟩
  else if d.status.isStartInProgress then
    .giveUp ⟨.targetStarting,
      "The environment is starting. Please wait until finished: " ++ t.environmentName⟩
  else .again

/-- One look at the environment. -/
def attempt (t : Target) (check : EnvironmentStatus → Bool) :
    Procedure Collaborators (Except String (Attempt EnvironmentDetails)) := do
  match ← (Call.describeEnvironment t.environmentCrn).attempt with
  | .error e => return .error e.message
  | .ok d =>
    -- A cancel that came while the call was under way counts more than its answer.
    if ← Procedure.isCancelled t.resourceId then
      return .ok (.giveUp ⟨.rejected,
        "Environment wait polling cancelled in inmemory store, id: " ++
          toString t.resourceId.toInt⟩)
    else return .ok (classify t check d)

/-- The wait until the environment passes a check. -/
def untilStatus (t : Target) (polling : Polling) (check : EnvironmentStatus → Bool) :
    Wait Collaborators EnvironmentDetails where
  polling := polling
  resource := t.resourceId
  attempt _ := attempt t check

/-- The wait until the environment can be used. -/
def untilAvailable (t : Target) (polling : Polling) : Wait Collaborators EnvironmentDetails :=
  untilStatus t polling EnvironmentStatus.isAvailable

/-- The wait until the network of the environment exists. -/
def untilNetworkReady (t : Target) (polling : Polling) : Wait Collaborators EnvironmentDetails :=
  untilStatus t polling EnvironmentStatus.isNetworkCreationFinished

/-- The outcome of a wait as the service tells it. -/
def report (outcome : Except PollError EnvironmentDetails) :
    Except ServiceError EnvironmentDetails :=
  outcome.mapError .poll

end ResourceFlow.EnvironmentWait
