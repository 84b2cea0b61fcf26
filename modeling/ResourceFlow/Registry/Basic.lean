import ResourceFlow.Registry.Lanes
/-! # The flow registry

  The registry records for each resource whether a flow drives it or a cancel
  was requested, and it holds the execution lanes. Engines that share a
  registry share the lanes, so at most one flow of any type is active on a
  resource.
-/

namespace ResourceFlow

/-- What the registry records of a resource. -/
inductive RunStatus where
  /-- A flow drives the resource. -/
  | running
  /-- A cancel was requested. -/
  | cancelled
  deriving DecidableEq, Inhabited

instance : Named RunStatus where
  all := [.running, .cancelled]
  name
    | .running => "RUNNING"
    | .cancelled => "CANCELLED"

/-- The records of resources and their lanes. -/
structure Registry where
  /-- The recorded resources. -/
  statuses : Table ResourceId RunStatus := .empty
  /-- The execution lanes. -/
  lanes : Lanes := {}
  deriving Inhabited

namespace Registry

/-! ### Records -/

/-- What is recorded of a resource. -/
def status? (g : Registry) (r : ResourceId) : Option RunStatus := g.statuses.get? r

/-- Whether a cancel of the resource is recorded. -/
def isCancelled (g : Registry) (r : ResourceId) : Bool := g.status? r = some .cancelled

/-- The number of recorded resources. -/
def size (g : Registry) : Nat := g.statuses.size

/-- Records that a flow drives the resource. -/
def markRunning (g : Registry) (r : ResourceId) : Registry :=
  { g with statuses := g.statuses.insert r .running }

/-- Records that a cancel of the resource was requested. -/
def markCancelled (g : Registry) (r : ResourceId) : Registry :=
  { g with statuses := g.statuses.insert r .cancelled }

/-- Drops what is recorded of the resource. -/
def clear (g : Registry) (r : ResourceId) : Registry :=
  { g with statuses := g.statuses.erase r }

/-! ### Lanes -/

/-- Does something to the registry, if the flow occupies the lane of the resource. -/
def withHolder (g : Registry) (r : ResourceId) (f : FlowId) (act : Registry → Registry) :
    Option Registry :=
  if g.lanes.holds r f then some (act g) else none

/-- A flow takes the lane of a resource. -/
def claim (g : Registry) (r : ResourceId) (f : FlowId) (flowType : String) :
    Except FlowError Registry :=
  match g.lanes.claim r f flowType with
  | .error e => .error e
  | .ok lanes => .ok { g with lanes := lanes }

/-- The lane of a resource is free again, if the flow occupies it. -/
def releaseLane (g : Registry) (r : ResourceId) (f : FlowId) : Registry :=
  { g with lanes := g.lanes.release r f }

/-- Someone asks for a lock. -/
def askLock (g : Registry) (i : LockId) (who : Nat) : Registry :=
  { g with lanes := g.lanes.ask i who }

/-- The holder of a lock lets go. -/
def passLock (g : Registry) (i : LockId) : Registry :=
  { g with lanes := g.lanes.pass i }

/-! ### Opening, ending and cancelling a flow -/

/-- Opening a flow takes the lane, then records the resource as running. -/
def enroll (g : Registry) (r : ResourceId) (f : FlowId) (flowType : String) :
    Except FlowError Registry :=
  match g.claim r f flowType with
  | .error e => .error e
  | .ok g => .ok (g.markRunning r)

/-- Ending a flow drops the record, then frees the lane, if the flow occupies it. -/
def discharge (g : Registry) (r : ResourceId) (f : FlowId) : Registry :=
  match g.withHolder r f (·.clear r) with
  | none => g
  | some g => g.releaseLane r f

/-- Cancelling a flow marks the resource, if the flow occupies the lane. -/
def requestCancel (g : Registry) (r : ResourceId) (f : FlowId) : Option Registry :=
  g.withHolder r f (·.markCancelled r)

/-! ### What is recorded after each operation -/

theorem status?_markRunning (g : Registry) (r r' : ResourceId) :
    (g.markRunning r).status? r' = if r' = r then some .running else g.status? r' :=
  Table.get?_insert ..

theorem status?_markCancelled (g : Registry) (r r' : ResourceId) :
    (g.markCancelled r).status? r' = if r' = r then some .cancelled else g.status? r' :=
  Table.get?_insert ..

theorem status?_clear (g : Registry) (r r' : ResourceId) :
    (g.clear r).status? r' = if r' = r then none else g.status? r' :=
  Table.get?_erase ..

end Registry

end ResourceFlow
