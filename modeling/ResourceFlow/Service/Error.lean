import ResourceFlow.Collaborator.Error
/-! # Errors of the services

  The services built on collaborators and engines refuse a request for a
  reason of their own, or pass on what a flow, a collaborator or a wait told
  them.
-/

namespace ResourceFlow

/-- Why a service request failed. -/
inductive ServiceError where
  /-- The request does not fit the state of the resource. -/
  | badRequest (message : String)
  /-- A dependency cannot answer now. -/
  | unavailable (message : String)
  /-- Something that the request names does not exist. -/
  | notFound (message : String)
  /-- A step on the nodes could not run. -/
  | orchestrator (message : String)
  /-- An engine refused. -/
  | flow (error : FlowError)
  /-- A collaborator failed. -/
  | collaborator (error : CollaboratorError)
  /-- A wait failed. -/
  | poll (error : PollError)
  deriving DecidableEq, Inhabited

namespace ServiceError

/-- The stable code of an error. -/
def code : ServiceError → String
  | .badRequest _ => "BAD_REQUEST"
  | .unavailable _ => "SERVICE_UNAVAILABLE"
  | .notFound _ => "NOT_FOUND"
  | .orchestrator _ => "ORCHESTRATOR_FAILED"
  | .flow error => error.code
  | .collaborator _ => "COLLABORATOR_ERROR"
  | .poll _ => "POLLING_FAILED"

/-- The text of an error. -/
def message : ServiceError → String
  | .badRequest message => message
  | .unavailable message => message
  | .notFound message => message
  | .orchestrator message => message
  | .flow error => error.message
  | .collaborator error => error.message
  | .poll error => error.message

/-- The error as an action raises it: the error of a wait stays one. -/
def toActionError : ServiceError → ActionError
  | .poll error => .poll error
  | e => .failed e.message

end ServiceError

end ResourceFlow
