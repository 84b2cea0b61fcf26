import ResourceFlow.Rehearsal.Reading
import ResourceFlow.Registry.Basic
/-! # Steps on a registry

  Scenarios, and the scripts inside them, may act on a registry and its lanes
  directly. Each act has an answer.
-/

namespace ResourceFlow.Rehearsal

/-- An act on a registry, most of them about one resource. -/
inductive RegistryAct where
  /-- Record the resource as running. -/
  | markRunning
  /-- Record a cancel of the resource. -/
  | markCancelled
  /-- Drop the record. -/
  | clear
  /-- What is recorded. -/
  | status
  /-- Whether a cancel is recorded. -/
  | isCancelled
  /-- How many records there are. -/
  | size
  /-- Claim the lane for a flow. -/
  | claim (flow : FlowRef) (flowType : String)
  /-- Release the lane for a flow. -/
  | release (flow : FlowRef)
  /-- Record a cancel if the flow occupies the lane. -/
  | withHolder (flow : FlowRef)
  /-- Who occupies the lane. -/
  | holder
  /-- Who occupies the lane, and whether its lock is free. -/
  | laneFree
  /-- How many lanes are occupied. -/
  | lanesSize

/-- An act on the registry of a name. -/
structure RegistryStep where
  /-- The name of the registry. -/
  registry : String
  /-- The resource. -/
  resource : ResourceId
  /-- The act. -/
  act : RegistryAct

/-- The name of a registry in a field: the main one if nothing is said. -/
def registryAt (j : Json) : String := (j.textAt? "registry").getD "main"

/-- The act of a step, if it is one on a registry. -/
def readRegistryAct? (j : Json) : Option RegistryAct :=
  let flow := readFlowRef (j.field "flow")
  match j.textAt "do" with
  | "mark_running" => some .markRunning
  | "mark_cancelled" => some .markCancelled
  | "clear" => some .clear
  | "get_status" => some .status
  | "is_cancelled" => some .isCancelled
  | "registry_len" => some .size
  | "claim" => some (.claim flow (j.textAt "flow_type"))
  | "release" => some (.release flow)
  | "with_holder" => some (.withHolder flow)
  | "holder" => some .holder
  | "lane_free" => some .laneFree
  | "lanes_len" => some .lanesSize
  | _ => none

/-- A step on a registry, if it is one. -/
def readRegistryStep? (j : Json) : Option RegistryStep :=
  (readRegistryAct? j).map fun act =>
    { registry := registryAt j, resource := resourceAt j "resource_id", act := act }

/-- A count, and whether it is zero. -/
def countJson (n : Nat) : Json := .arr [.nat n, .bool (n = 0)]

/-- The id of a flow as an answer. -/
def flowJson (f : FlowId) : Json := .str f.text

/-- An act on a registry when so many flows have been opened: the registry after it, and the
    answer. -/
def RegistryAct.apply (act : RegistryAct) (r : ResourceId) (opened : Nat) (g : Registry) :
    Registry × Json :=
  match act with
  | .markRunning => (g.markRunning r, .null)
  | .markCancelled => (g.markCancelled r, .null)
  | .clear => (g.clear r, .null)
  | .status => (g, Json.ofOption (fun s => .str (Named.name s)) (g.status? r))
  | .isCancelled => (g, .bool (g.isCancelled r))
  | .size => (g, countJson g.size)
  | .claim flow flowType =>
    match g.claim r (flow.resolve opened) flowType with
    | .ok g => (g, .str "claimed")
    | .error e => (g, flowErrorJson e)
  | .release flow =>
    let f := flow.resolve opened
    (g.releaseLane r f, .bool (g.lanes.holds r f))
  | .withHolder flow =>
    match g.requestCancel r (flow.resolve opened) with
    | some g => (g, .bool true)
    | none => (g, .null)
  | .holder => (g, Json.ofOption flowJson (g.lanes.activeFlow? r))
  | .laneFree =>
    (g, Json.ofOption (fun lane => .arr [flowJson lane.flow,
      .bool (g.lanes.lock lane.lock).isFree]) (g.lanes.lane? r))
  | .lanesSize => (g, countJson g.lanes.size)

/-! ### Named guards -/

/-- A registry whose lane locks are held by name. -/
structure GuardedRegistry where
  /-- The registry. -/
  registry : Registry := {}
  /-- The locks that are held, by the name of the guard. -/
  guards : Table String LockId := .empty

namespace GuardedRegistry

/-- Drops a guard: its lock is free again. -/
def unlock (g : GuardedRegistry) (name : String) : GuardedRegistry × Bool :=
  match g.guards.get? name with
  | none => (g, false)
  | some lock =>
    ({ registry := g.registry.passLock lock, guards := g.guards.erase name }, true)

/-- Tries to hold the lock of a resource's lane under a name; an older guard of that name is
    dropped. -/
def lock (g : GuardedRegistry) (r : ResourceId) (name : String) : GuardedRegistry × String :=
  match g.registry.lanes.lane? r with
  | none => (g, "no lane")
  | some lane =>
    if (g.registry.lanes.lock lane.lock).isFree then
      -- Who holds a lock does not matter here; its own number stands for the guard.
      let g := { g with registry := g.registry.askLock lane.lock lane.lock }
      let g := (g.unlock name).1
      ({ g with guards := g.guards.insert name lane.lock }, "locked")
    else (g, "busy")

/-- One step on the registry, or on the locks of its lanes. -/
def step (g : GuardedRegistry) (j : Json) : GuardedRegistry × Json :=
  match j.textAt "do" with
  | "lock" =>
    let (g, answer) := g.lock (resourceAt j "resource_id") (j.textAt "as")
    (g, .str answer)
  | "unlock" =>
    let (g, answer) := g.unlock (j.textAt "as")
    (g, .bool answer)
  | _ =>
    match readRegistryStep? j with
    | some s =>
      let (registry, answer) := s.act.apply s.resource 0 g.registry
      ({ g with registry := registry }, answer)
    | none => (g, .obj [("error", .str "UNKNOWN_STEP")])

/-- The answers to a list of steps. -/
def steps : GuardedRegistry → List Json → List Json
  | _, [] => []
  | g, j :: rest =>
    let (g, answer) := g.step j
    answer :: steps g rest

end GuardedRegistry

end ResourceFlow.Rehearsal
