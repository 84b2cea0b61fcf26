import ResourceFlow.Collaborator.Call
import ResourceFlow.Service.Error
/-! # The identity service

  Questions about the identity service of an environment, and its upscale. An
  identity service that does not exist is an answer to some questions and an
  error for others.
-/

namespace ResourceFlow.FreeIpaService

/-- Describes the identity service of an environment; none if it does not exist. -/
def describe (environment : String) : Action ServiceError (Option FreeIpaDescription) :=
  ExceptT.mk do
    match ← (Call.describeFreeIpa environment).ask with
    | .ok description => return .ok (some description)
    | .error (.notFound _) => return .ok none
    | .error e => return .error (.collaborator e)

/-- What the availability in a description means for a caller that needs the service. -/
def judge : Option FreeIpaDescription → Except ServiceError Unit
  | some { availability := some availability, status, .. } =>
    if availability.isAvailable then .ok ()
    else .error (.badRequest
      ("Freeipa should be in Available state but currently is " ++ status))
  | _ => .error (.unavailable "Freeipa availability cannot be determined currently.")

/-- Fails unless the identity service is available. -/
def checkRunning (environment : String) : Action ServiceError Unit := do
  let description ← describe environment
  ExceptT.mk (return judge description)

/-- The number of nodes that run the identity service. -/
def nodeCount (environment : String) : Action ServiceError UInt64 := do
  match ← describe environment with
  | some description => return description.nodeCount
  | none => throw (.notFound ("FreeIPA not found for environment " ++ environment))

/-- Starts an upscale; the answer is the id of the operation. -/
def upscale (environment : String) (target : AvailabilityType) :
    Program Collaborators (Except CollaboratorError String) :=
  (Call.upscaleFreeIpa environment target).ask

/-- The status of an operation; none if it cannot be read. -/
def operationStatus (operation account : String) :
    Procedure Collaborators (Option OperationStatus) := do
  return (← (Call.operationStatus operation account).attempt).toOption

end ResourceFlow.FreeIpaService
