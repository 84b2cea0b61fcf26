import ResourceFlow.Flow.Failure
/-! # Events

  Flows advance on events. An event names the transition or handler that it is
  meant for by its selector, the resource that it concerns, and carries a
  payload. The next event of a resource is built from the one at hand:

  - `followUp` keeps the resource, the payload and the operation id;
  - `followUpWith` also replaces the payload;
  - `failed` also attaches a failure;
  - `withOperationId` attaches the id of an operation that runs elsewhere.

  Only `failed` leaves a failure on the event that it builds.
-/

namespace ResourceFlow

/-- The identifier of a managed resource. -/
abbrev ResourceId := Int64

/-- A routed event with selectors in `Sel` and payloads in `P`. -/
structure Event (Sel P : Type) where
  /-- The transition or handler that the event is meant for. -/
  selector : Sel
  /-- The resource that the event concerns. -/
  resourceId : ResourceId
  /-- The name under which others know the resource. -/
  resourceCrn : String
  /-- Data of the operation. -/
  payload : P
  /-- The id of an operation that runs elsewhere, while there is one. -/
  operationId : Option String := none
  /-- Present on failure events only. -/
  failure : Option Failure := none
  deriving DecidableEq, Inhabited

namespace Event

variable {Sel P : Type}

/-- The next event of the same resource. -/
def followUp (e : Event Sel P) (selector : Sel) : Event Sel P :=
  { e with selector := selector, failure := none }

/-- The next event of the same resource, with a new payload. -/
def followUpWith (e : Event Sel P) (selector : Sel) (payload : P) : Event Sel P :=
  { e.followUp selector with payload := payload }

/-- The event that reports a failure of the same resource. -/
def failed (e : Event Sel P) (selector : Sel) (type : FailureType) (cause : String) :
    Event Sel P :=
  { e.followUp selector with failure := some ⟨type, cause⟩ }

/-- The event, tied to an operation that runs elsewhere. -/
def withOperationId (e : Event Sel P) (operationId : String) : Event Sel P :=
  { e with operationId := some operationId }

/-- Whether the event reports a failure. -/
def isFailure (e : Event Sel P) : Bool := e.failure.isSome

end Event

end ResourceFlow
