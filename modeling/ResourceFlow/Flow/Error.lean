import ResourceFlow.Flow.Event
import ResourceFlow.Flow.FlowId
import ResourceFlow.Polling.Basic
/-! # Status and errors of flows

  A flow is running until it ends finished, failed or cancelled. `FlowError`
  is what a caller of an engine is told; `ActionError` is what an action or a
  handler raises inside a flow, where a cancellation is told apart from a
  failure: a cancellation ends the flow, a failure becomes an event.
-/

namespace ResourceFlow

/-! ### Status -/

/-- Where a flow stands in its life. -/
inductive FlowStatus where
  /-- Processing events or waiting for the next one. -/
  | running
  /-- Ended in a terminal state without having failed. -/
  | finished
  /-- Ended after entering the failed state or on an event without transition. -/
  | failed
  /-- Stopped after a cancel request. -/
  | cancelled
  deriving DecidableEq, Inhabited

instance : Named FlowStatus where
  all := [.running, .finished, .failed, .cancelled]
  name
    | .running => "RUNNING"
    | .finished => "FINISHED"
    | .failed => "FAILED"
    | .cancelled => "CANCELLED"

/-- Whether a flow with this status has ended. -/
def FlowStatus.isTerminal : FlowStatus → Bool
  | .running => false
  | _ => true

/-! ### Errors of an engine's callers -/

/-- Why an engine refuses a request or how a flow ended without a result. -/
inductive FlowError where
  /-- The resource has an active flow already. -/
  | conflict (resource : ResourceId) (active : FlowId) (flowType : String)
  /-- The flow's state has no transition on the event's selector. -/
  | illegalTransition (flow : FlowId) (state selector : String)
  /-- The engine knows no such flow. -/
  | notFound (flow : FlowId)
  /-- The flow has ended already. -/
  | terminated (flow : FlowId) (status : FlowStatus)
  /-- The flow ended because its resource was cancelled. -/
  | cancelled (flow : FlowId) (resource : ResourceId)
  /-- The flow could not be run at all. -/
  | dispatch (message : String)
  deriving DecidableEq, Inhabited

namespace FlowError

/-- The stable code of an error. -/
def code : FlowError → String
  | .conflict .. => "FLOW_CONFLICT"
  | .illegalTransition .. => "ILLEGAL_TRANSITION"
  | .notFound _ => "FLOW_NOT_FOUND"
  | .terminated .. => "FLOW_TERMINATED"
  | .cancelled .. => "FLOW_CANCELLED"
  | .dispatch _ => "DISPATCH_ERROR"

/-- The text of an error. -/
def message : FlowError → String
  | .conflict resource active flowType =>
    "Resource " ++ toString resource.toInt ++ " already has an active " ++ flowType ++
      " flow '" ++ active.text ++ "'"
  | .illegalTransition flow state selector =>
    "Illegal transition in flow '" ++ flow.text ++ "': no transition from " ++ state ++ " on " ++
      selector
  | .notFound flow => "Flow '" ++ flow.text ++ "' not found"
  | .terminated flow status =>
    "Flow '" ++ flow.text ++ "' already terminated with status " ++ Named.name status
  | .cancelled flow resource =>
    "Flow '" ++ flow.text ++ "' for resource " ++ toString resource.toInt ++ " was cancelled"
  | .dispatch message => "Dispatch error: " ++ message

end FlowError

/-! ### Errors inside a flow -/

/-- What an action or a handler raises. -/
inductive ActionError where
  /-- It failed, with this message. -/
  | failed (message : String)
  /-- A wait inside it failed. -/
  | poll (error : PollError)
  /-- It noticed that its flow is cancelled. -/
  | cancelled
  deriving DecidableEq, Inhabited

namespace ActionError

/-- Whether the error means that the flow was cancelled. -/
def isCancellation : ActionError → Bool
  | .cancelled => true
  | .poll .cancelled => true
  | .poll (.aborted reason) => reason.kind = .rejected
  | _ => false

/-- The category under which the error is reported, given the usual one. -/
def failureType (usual : FailureType) : ActionError → FailureType
  | .poll (.timeout _) => .timeout
  | _ => usual

/-- The text of an error. -/
def message : ActionError → String
  | .failed message => message
  | .poll error => error.message
  | .cancelled => "flow cancelled"

end ActionError

end ResourceFlow
