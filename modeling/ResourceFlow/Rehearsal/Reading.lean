import ResourceFlow.Cluster.NodeFilter
import ResourceFlow.Service.Error
import ResourceFlow.Flow.Event
/-! # Reading scenario data

  Scenarios are written as JSON. A missing field reads as an empty text, zero,
  false, an empty list or an absent value, and null reads as missing.
-/

namespace ResourceFlow

namespace Json

/-! ### Fields with defaults -/

/-- A text field; empty if missing. -/
def textAt (j : Json) (name : String) : String := ((j.given? name).bind text?).getD ""

/-- A text field that may be missing. -/
def textAt? (j : Json) (name : String) : Option String := (j.given? name).bind text?

/-- An integer field; zero if missing. -/
def intAt (j : Json) (name : String) : Int := ((j.given? name).bind int?).getD 0

/-- A natural number field; zero if missing. -/
def natAt (j : Json) (name : String) : Nat := (j.intAt name).toNat

/-- A natural number field that may be missing. -/
def natAt? (j : Json) (name : String) : Option Nat :=
  ((j.given? name).bind int?).map Int.toNat

/-- A truth field; false if missing. -/
def flagAt (j : Json) (name : String) : Bool :=
  match j.field name with
  | .bool b => b
  | _ => false

/-- A list field; empty if missing. -/
def listAt (j : Json) (name : String) : List Json := ((j.given? name).bind items?).getD []

/-- A field that lists texts; empty if missing. -/
def textsAt (j : Json) (name : String) : List String := (j.listAt name).filterMap text?

/-- A field that holds an enumerated value. -/
def namedAt? {α : Type} [Named α] (j : Json) (name : String) : Option α :=
  (j.textAt? name).bind Named.ofName?

end Json

namespace Rehearsal

/-! ### Flow references -/

/-- How a scenario names a flow: by its label, or by the number of a foreign id. -/
inductive FlowRef where
  /-- The label of an opened flow. -/
  | label (text : String)
  /-- The value of a foreign id. -/
  | number (value : Nat)
  deriving Inhabited

/-- The serial number in a label. -/
def serial? (label : String) : Option Nat :=
  match label.toList with
  | 'F' :: ds => if ds ≠ [] ∧ ds.all Char.isDigit then (String.ofList ds).toNat? else none
  | _ => none

/-- The flow that is meant when so many flows have been opened; a label that no flow has yet means
    the id that no flow has. -/
def FlowRef.resolve (opened : Nat) : FlowRef → FlowId
  | .number n => .foreign n
  | .label s =>
    match serial? s with
    | some n => if 1 ≤ n ∧ n ≤ opened ∧ s = "F" ++ toString n then .opened n else .nil
    | none => .nil

/-- A reference to a flow. -/
def readFlowRef : Json → FlowRef
  | .str s => .label s
  | j => .number (j.int?.getD 0).toNat

/-! ### Data -/

/-- The resource id of a field. -/
def resourceAt (j : Json) (name : String) : ResourceId := Int64.ofInt (j.intAt name)

/-- A failure. -/
def readFailure (j : Json) : Failure where
  type := (j.namedAt? "failure_type").getD .unset
  cause := j.textAt "cause"

/-- An event, given what its selector and payload are read as. -/
def readEvent {Sel P : Type} (selector : String → Sel) (payload : Json → P) (j : Json) :
    Event Sel P where
  selector := selector (j.textAt "selector")
  resourceId := resourceAt j "resource_id"
  resourceCrn := j.textAt "resource_crn"
  payload := payload (j.field "payload")
  operationId := j.textAt? "operation_id"
  failure := (j.given? "failure").map readFailure

/-- A node. -/
def readNode (j : Json) : Node where
  hostname := j.textAt "hostname"
  privateIp := j.textAt "private_ip"
  publicIp := j.textAt? "public_ip"
  hostGroup := j.textAt "host_group"

/-- A set of nodes. -/
def readNodes (l : List Json) : List Node := Node.setOf (l.map readNode)

/-- A node filter. -/
def readFilter (j : Json) : NodeFilter where
  includeHosts := textSet (j.textsAt "include_hosts")
  excludeHosts := textSet (j.textsAt "exclude_hosts")
  includeHostGroups := textSet (j.textsAt "include_host_groups")
  overrideNodes := ((j.given? "override_nodes").bind Json.items?).map readNodes

/-- The settings of a wait in the fields of an object. -/
def readPollingFields (j : Json) : Polling where
  interval := .ofMillis (j.natAt "interval_ms")
  timeout := .ofMillis (j.natAt "timeout_ms")
  stopOnError := j.flagAt "stop_on_error"

/-- The settings of a wait: every second for a minute, if nothing is said. -/
def readPolling (j : Json) (name : String) : Polling :=
  match j.given? name with
  | some p => readPollingFields p
  | none => { interval := .ofSeconds 1, timeout := .ofSeconds 60 }

/-- Why an attempt gives up. -/
def readAbortReason (j : Json) : AbortReason where
  kind := (j.namedAt? "kind").getD .targetFailed
  message := j.textAt "message"

/-- The error of a wait, if there is one. -/
def readPollError? (j : Json) : Option PollError :=
  match j.given? "timeout", j.given? "aborted" with
  | some t, _ => some (.timeout (.ofSeconds (t.natAt "secs") + t.natAt "nanos"))
  | none, some r => some (.aborted (readAbortReason r))
  | none, none => if j.flagAt "poll_cancelled" then some .cancelled else none

/-- The error of an action. -/
def readActionError (j : Json) : ActionError :=
  match j.given? "failed", readPollError? j with
  | some m, _ => .failed (m.text?.getD "")
  | none, some e => .poll e
  | none, none => .cancelled

/-- The error of a collaborator. -/
def readCollaboratorError (j : Json) : CollaboratorError :=
  match j.textAt? "transport", j.textAt? "not_found" with
  | some m, _ => .transport m
  | none, some m => .notFound m
  | none, none => .rejected (j.textAt "rejected")

/-- The error of an engine. -/
def readFlowError (j : Json) : FlowError :=
  let flow : FlowId := .foreign (j.natAt "flow")
  let resource := resourceAt j "resource_id"
  match j.textAt "kind" with
  | "conflict" => .conflict resource flow (j.textAt "flow_type")
  | "illegal_transition" => .illegalTransition flow (j.textAt "state") (j.textAt "selector")
  | "not_found" => .notFound flow
  | "terminated" => .terminated flow ((j.namedAt? "status").getD .running)
  | "cancelled" => .cancelled flow resource
  | _ => .dispatch (j.textAt "message")

/-! ### Answers -/

/-- An event as an answer. -/
def eventFields {Sel P : Type} (selector : Sel → String) (payload : P → Json) (e : Event Sel P) :
    List (String × Json) := [
  ("selector", .str (selector e.selector)),
  ("resource_id", .int e.resourceId.toInt),
  ("resource_crn", .str e.resourceCrn),
  ("payload", payload e.payload),
  ("operation_id", Json.ofOption .str e.operationId),
  ("failure", Json.ofOption Codec.encode e.failure)]

/-- An error as an answer: its kind, its text and what else belongs to it. -/
def errorJson (kind message : String) (more : List (String × Json)) : Json :=
  .obj ([("error", .str kind), ("message", .str message)] ++ more)

/-- The error of a wait as an answer. -/
def pollErrorJson (e : PollError) : Json :=
  match e with
  | .timeout _ => errorJson "TIMEOUT" e.message []
  | .cancelled => errorJson "CANCELLED" e.message []
  | .aborted reason => errorJson "ABORTED" e.message [("kind", Codec.encode reason.kind)]

/-- The error of an action as an answer. -/
def actionErrorJson (e : ActionError) : Json :=
  match e with
  | .failed _ => errorJson "FAILED" e.message []
  | .cancelled => errorJson "CANCELLED" e.message []
  | .poll p => errorJson "POLL" e.message [("poll", pollErrorJson p)]

/-- The error of an engine as an answer. -/
def flowErrorJson (e : FlowError) : Json := errorJson e.code e.message []

/-- The error of a service as an answer. -/
def serviceErrorJson (e : ServiceError) : Json :=
  match e with
  | .poll p => errorJson e.code e.message [("poll", pollErrorJson p)]
  | _ => errorJson e.code e.message []

end Rehearsal

end ResourceFlow
