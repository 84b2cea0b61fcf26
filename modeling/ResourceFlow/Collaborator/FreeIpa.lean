import ResourceFlow.Data.Codec
/-! # What the identity service tells

  The identity service of an environment (FreeIPA) runs one or several
  instances. It is described by a status, a coarse availability and its
  instance groups; operations on it run asynchronously and are known by id.
-/

namespace ResourceFlow

/-- How many instances an environment should run. -/
inductive AvailabilityType where
  /-- One instance. -/
  | nonHa
  /-- Three instances. -/
  | ha
  deriving DecidableEq, Inhabited

instance : Named AvailabilityType where
  all := [.nonHa, .ha]
  name
    | .nonHa => "NON_HA"
    | .ha => "HA"

instance : Codec AvailabilityType := Codec.named

/-- The number of instances. -/
def AvailabilityType.instanceCount : AvailabilityType → Nat
  | .nonHa => 1
  | .ha => 3

/-- Coarse availability. -/
inductive AvailabilityStatus where
  /-- It can be used. -/
  | available
  /-- It cannot be used. -/
  | unavailable
  /-- Nobody knows. -/
  | unknown
  deriving DecidableEq, Inhabited

instance : Named AvailabilityStatus where
  all := [.available, .unavailable, .unknown]
  name
    | .available => "AVAILABLE"
    | .unavailable => "UNAVAILABLE"
    | .unknown => "UNKNOWN"

instance : Codec AvailabilityStatus := Codec.named

/-- Whether the service can be used. -/
def AvailabilityStatus.isAvailable : AvailabilityStatus → Bool
  | .available => true
  | _ => false

/-- A group of instances. -/
structure InstanceGroup where
  /-- The name of the group. -/
  name : String
  /-- The number of nodes in it. -/
  nodeCount : UInt64
  deriving DecidableEq, Inhabited

instance : Codec InstanceGroup where
  encode g := .obj [("name", .str g.name), ("node_count", Codec.encode g.nodeCount)]
  decode? j := do
    let fields ← Codec.record? ["name", "node_count"] j
    return { name := ← Codec.required? fields "name"
             nodeCount := ← Codec.required? fields "node_count" }

/-- What the service of an environment looks like. -/
structure FreeIpaDescription where
  /-- The detailed status. -/
  status : String
  /-- The coarse availability, if it is told. -/
  availability : Option AvailabilityStatus
  /-- The groups of instances. -/
  instanceGroups : List InstanceGroup
  deriving DecidableEq, Inhabited

instance : Codec FreeIpaDescription where
  encode d := .obj [("status", .str d.status), ("availability", Codec.encode d.availability),
    ("instance_groups", Codec.encode d.instanceGroups)]
  decode? j := do
    let fields ← Codec.record? ["status", "availability", "instance_groups"] j
    return { status := ← Codec.required? fields "status"
             availability := ← Codec.optional? fields "availability"
             instanceGroups := ← Codec.required? fields "instance_groups" }

/-- The total number of nodes, as 64-bit numbers add up: a sum that does not fit wraps around. -/
def FreeIpaDescription.nodeCount (d : FreeIpaDescription) : UInt64 :=
  d.instanceGroups.foldl (fun n g => n + g.nodeCount) 0

/-- The state of an asynchronous operation. -/
inductive OperationState where
  /-- It goes on. -/
  | running
  /-- It succeeded. -/
  | completed
  /-- It failed. -/
  | failed
  /-- It was refused. -/
  | rejected
  /-- It ran out of time. -/
  | timedOut
  deriving DecidableEq, Inhabited

instance : Named OperationState where
  all := [.running, .completed, .failed, .rejected, .timedOut]
  name
    | .running => "RUNNING"
    | .completed => "COMPLETED"
    | .failed => "FAILED"
    | .rejected => "REJECTED"
    | .timedOut => "TIMED_OUT"

instance : Codec OperationState := Codec.named

namespace OperationState

/-- Whether the operation is over. -/
def isFinished : OperationState → Bool
  | .running => false
  | _ => true

/-- The state as messages show it: in one word. -/
def text : OperationState → String
  | .timedOut => "TIMEDOUT"
  | s => Named.name s

end OperationState

/-- The status of an asynchronous operation. -/
structure OperationStatus where
  /-- The operation. -/
  operationId : String
  /-- Its state. -/
  status : OperationState
  /-- What went wrong, if anything is told. -/
  error : Option String
  deriving DecidableEq, Inhabited

instance : Codec OperationStatus where
  encode s := .obj [("operation_id", .str s.operationId), ("status", Codec.encode s.status),
    ("error", Codec.encode s.error)]
  decode? j := do
    let fields ← Codec.record? ["operation_id", "status", "error"] j
    return { operationId := ← Codec.required? fields "operation_id"
             status := ← Codec.required? fields "status"
             error := ← Codec.optional? fields "error" }

end ResourceFlow
