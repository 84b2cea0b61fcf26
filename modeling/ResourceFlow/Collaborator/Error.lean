import ResourceFlow.Flow.Error
/-! # Failed calls to collaborators

  A call to an outside service fails because it did not get through, because
  what it addresses does not exist, or because it was refused. Only the first
  may go better when it is repeated.
-/

namespace ResourceFlow

/-- How a call to a collaborator fails. -/
inductive CollaboratorError where
  /-- The call got no usable answer. -/
  | transport (message : String)
  /-- What the call addresses does not exist. -/
  | notFound (message : String)
  /-- The collaborator refused the request. -/
  | rejected (message : String)
  deriving DecidableEq, Inhabited

namespace CollaboratorError

/-- Whether repeating the call may succeed. -/
def isRetryable : CollaboratorError → Bool
  | .transport _ => true
  | _ => false

/-- Whether what the call addresses does not exist. -/
def isNotFound : CollaboratorError → Bool
  | .notFound _ => true
  | _ => false

/-- The text of an error. -/
def message : CollaboratorError → String
  | .transport message => "transport error: " ++ message
  | .notFound message => "not found: " ++ message
  | .rejected message => message

/-- The error as an action raises it. -/
def toActionError (e : CollaboratorError) : ActionError := .failed e.message

end CollaboratorError

end ResourceFlow
