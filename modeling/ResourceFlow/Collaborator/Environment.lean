import ResourceFlow.Data.Codec
import ResourceFlow.Flow.Event
/-! # What is known of environments

  An environment passes through many statuses. Those that matter to a waiter
  fall into classes: available, past network set-up, failed, stopping or
  stopped, and starting.
-/

namespace ResourceFlow

/-- The status of an environment. -/
inductive EnvironmentStatus where
  /-- Creation was asked for. -/
  | creationInitiated
  /-- The network is being created. -/
  | networkCreationInProgress
  /-- The public key is being created. -/
  | publicKeyCreationInProgress
  /-- The identity service is being created. -/
  | freeipaCreationInProgress
  /-- It can be used. -/
  | available
  /-- An update was asked for. -/
  | updateInitiated
  /-- Creation failed. -/
  | createFailed
  /-- Deletion failed. -/
  | deleteFailed
  /-- Its data hubs are being stopped. -/
  | stopDatahubStarted
  /-- Its identity service is being stopped. -/
  | stopFreeipaStarted
  /-- It is stopped. -/
  | envStopped
  /-- Its data hubs are being started. -/
  | startDatahubStarted
  /-- Its identity service is being started. -/
  | startFreeipaStarted
  /-- It is gone. -/
  | archived
  deriving DecidableEq, Inhabited

instance : Named EnvironmentStatus where
  all := [.creationInitiated, .networkCreationInProgress, .publicKeyCreationInProgress,
    .freeipaCreationInProgress, .available, .updateInitiated, .createFailed, .deleteFailed,
    .stopDatahubStarted, .stopFreeipaStarted, .envStopped, .startDatahubStarted,
    .startFreeipaStarted, .archived]
  name
    | .creationInitiated => "CREATION_INITIATED"
    | .networkCreationInProgress => "NETWORK_CREATION_IN_PROGRESS"
    | .publicKeyCreationInProgress => "PUBLIC_KEY_CREATION_IN_PROGRESS"
    | .freeipaCreationInProgress => "FREEIPA_CREATION_IN_PROGRESS"
    | .available => "AVAILABLE"
    | .updateInitiated => "UPDATE_INITIATED"
    | .createFailed => "CREATE_FAILED"
    | .deleteFailed => "DELETE_FAILED"
    | .stopDatahubStarted => "STOP_DATAHUB_STARTED"
    | .stopFreeipaStarted => "STOP_FREEIPA_STARTED"
    | .envStopped => "ENV_STOPPED"
    | .startDatahubStarted => "START_DATAHUB_STARTED"
    | .startFreeipaStarted => "START_FREEIPA_STARTED"
    | .archived => "ARCHIVED"

instance : Codec EnvironmentStatus := Codec.named

namespace EnvironmentStatus

/-- Whether the environment can be used. -/
def isAvailable : EnvironmentStatus → Bool
  | .available => true
  | _ => false

/-- Whether its network exists: creation is past network set-up. -/
def isNetworkCreationFinished : EnvironmentStatus → Bool
  | .publicKeyCreationInProgress | .freeipaCreationInProgress | .available
  | .updateInitiated => true
  | _ => false

/-- Whether it failed. -/
def isFailed : EnvironmentStatus → Bool
  | .createFailed | .deleteFailed => true
  | _ => false

/-- Whether it is stopping or stopped. -/
def isStopInProgressOrStopped : EnvironmentStatus → Bool
  | .stopDatahubStarted | .stopFreeipaStarted | .envStopped => true
  | _ => false

/-- Whether it is starting. -/
def isStartInProgress : EnvironmentStatus → Bool
  | .startDatahubStarted | .startFreeipaStarted => true
  | _ => false

end EnvironmentStatus

/-- What the environment service tells of an environment. -/
structure EnvironmentDetails where
  /-- The name under which others know it. -/
  crn : String
  /-- Its name. -/
  name : String
  /-- Its status. -/
  status : EnvironmentStatus
  deriving DecidableEq, Inhabited

instance : Codec EnvironmentDetails where
  encode d := .obj [("crn", .str d.crn), ("name", .str d.name), ("status", Codec.encode d.status)]
  decode? j := do
    let fields ← Codec.record? ["crn", "name", "status"] j
    return { crn := ← Codec.required? fields "crn"
             name := ← Codec.required? fields "name"
             status := ← Codec.required? fields "status" }

/-- An environment as its deletion sees it. -/
structure EnvironmentView where
  /-- Its identifier as a resource. -/
  id : ResourceId
  /-- Its name. -/
  name : String
  /-- The name under which others know it. -/
  crn : String
  /-- The account that it belongs to. -/
  accountId : String
  deriving DecidableEq, Inhabited

instance : Codec EnvironmentView where
  encode v := .obj [("id", Codec.encode v.id), ("name", .str v.name), ("crn", .str v.crn),
    ("account_id", .str v.accountId)]
  decode? j := do
    let fields ← Codec.record? ["id", "name", "crn", "account_id"] j
    return { id := ← Codec.required? fields "id"
             name := ← Codec.required? fields "name"
             crn := ← Codec.required? fields "crn"
             accountId := ← Codec.required? fields "account_id" }

/-- A data lake attached to an environment. -/
structure DatalakeSummary where
  /-- The name under which others know it. -/
  crn : String
  /-- Its name. -/
  name : String
  deriving DecidableEq, Inhabited

instance : Codec DatalakeSummary where
  encode d := .obj [("crn", .str d.crn), ("name", .str d.name)]
  decode? j := do
    let fields ← Codec.record? ["crn", "name"] j
    return { crn := ← Codec.required? fields "crn"
             name := ← Codec.required? fields "name" }

end ResourceFlow
