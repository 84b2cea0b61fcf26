import ResourceFlow.Flow.Definition
/-! # Audit records

  An engine leaves one record of every event that it processes: of one that a
  handler consumed (with no next state), of one that led to a transition, and
  of one that the flow had no transition for. A record that carries a failure
  is a warning.
-/

namespace ResourceFlow

/-- The record of one processed event. -/
structure AuditRecord where
  /-- The flow that processed the event. -/
  flow : FlowId
  /-- Its type. -/
  flowType : String
  /-- The name of the event's selector. -/
  selector : String
  /-- The resource that the event concerns. -/
  resourceId : ResourceId
  /-- The name under which others know the resource. -/
  resourceCrn : String
  /-- The event's operation id. -/
  operationId : Option String
  /-- The name of the state in which the event was taken. -/
  fromState : String
  /-- The name of the state that it led to. -/
  toState : Option String
  /-- The event's failure, or why the event was refused. -/
  failure : Option Failure
  /-- The event's payload. -/
  payload : Json
  deriving Inhabited

namespace AuditRecord

/-- The record of an event taken in a state. -/
def ofEvent {V : Vocabulary} (p : FlowParameters) (fromState : V.State) (toState : Option V.State)
    (e : V.Event) : AuditRecord where
  flow := p.flow
  flowType := p.flowType
  selector := V.selectorName e.selector
  resourceId := e.resourceId
  resourceCrn := e.resourceCrn
  operationId := e.operationId
  fromState := V.stateName fromState
  toState := toState.map V.stateName
  failure := e.failure
  payload := V.payloadJson e.payload

/-- The JSON form of a record. -/
def toJson (a : AuditRecord) : Json := .obj [
  ("flow_id", .str a.flow.text),
  ("flow_type", .str a.flowType),
  ("selector", .str a.selector),
  ("resource_id", .int a.resourceId.toInt),
  ("resource_crn", .str a.resourceCrn),
  ("operation_id", Json.ofOption .str a.operationId),
  ("from_state", .str a.fromState),
  ("to_state", Json.ofOption .str a.toState),
  ("failure", Json.ofOption Codec.encode a.failure),
  ("payload", a.payload)]

/-- The level at which a record is logged. -/
def level (a : AuditRecord) : String := if a.failure.isSome then "WARN" else "INFO"

/-- The records that carry a failure. -/
def failures (l : List AuditRecord) : List AuditRecord := l.filter fun a => a.failure.isSome

/-- The selectors of the records, of one resource or of all. -/
def selectors (l : List AuditRecord) (resource : Option ResourceId) : List String :=
  (l.filter fun a => match resource with
    | none => true
    | some r => decide (a.resourceId = r)).map AuditRecord.selector

end AuditRecord

end ResourceFlow
