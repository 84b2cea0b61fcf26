import ResourceFlow.Engine.World
/-! # Engines on several threads

  A task of `World` does in one step whatever it does between two points at
  which it waits. On several threads another thread may come in wherever a
  mutex is let go in between, so the steps are smaller: here each step is one
  critical section, on the lanes, on the registry, on the instances of an
  engine or on the lock of a lane.

  - opening a flow: claim the lane, mark the resource as running, add the
    instance;
  - processing events: look the flow up, look its lane up, ask for the lock,
    wait for it, look at the flow again, and in the end let go of the lock or
    end the flow;
  - ending a flow with the lock in hand: finish the instance, drop the record
    if the flow occupies the lane, free the lane, let go of the lock;
  - cancelling: look who occupies the lane, look whether the engine runs that
    flow, mark the resource if the flow still occupies the lane, ask for the
    lock, wait for it, look the flow up, then end it.

  Of an instance, only the resource and whether it has ended matter here. What
  was done to lanes and records is logged, for statements about it.
-/

namespace ResourceFlow

/-- The next critical section of a thread. -/
inductive Thread where
  /-- Opening: claims the lane. -/
  | claim (e : EngineId) (r : ResourceId) (f : FlowId) (flowType : String)
  /-- Opening: marks the resource as running. -/
  | markRunning (e : EngineId) (r : ResourceId) (f : FlowId)
  /-- Opening: adds the instance. -/
  | insert (e : EngineId) (r : ResourceId) (f : FlowId)
  /-- Processing: looks the flow up. -/
  | find (e : EngineId) (f : FlowId)
  /-- Processing: looks the lane up. -/
  | lookup (e : EngineId) (r : ResourceId) (f : FlowId)
  /-- Processing: asks for the lock. -/
  | ask (e : EngineId) (r : ResourceId) (f : FlowId) (lock : LockId)
  /-- Processing: takes the lock when it is its turn. -/
  | wait (e : EngineId) (r : ResourceId) (f : FlowId) (lock : LockId)
  /-- Processing: looks at the flow again; lets go of the lock, or works and ends the flow. -/
  | work (e : EngineId) (r : ResourceId) (f : FlowId) (lock : LockId)
  /-- Ending: finishes the instance. -/
  | finish (e : EngineId) (r : ResourceId) (f : FlowId) (lock : LockId)
  /-- Ending: drops the record if the flow occupies the lane. -/
  | clear (r : ResourceId) (f : FlowId) (lock : LockId)
  /-- Ending: frees the lane. -/
  | release (r : ResourceId) (f : FlowId) (lock : LockId)
  /-- Lets go of the lock. -/
  | unlock (lock : LockId)
  /-- Cancelling: looks who occupies the lane. -/
  | look (e : EngineId) (r : ResourceId)
  /-- Cancelling: looks whether the engine runs the flow. -/
  | owns (e : EngineId) (r : ResourceId) (f : FlowId) (lock : LockId)
  /-- Cancelling: marks the resource if the flow occupies the lane. -/
  | markCancelled (e : EngineId) (r : ResourceId) (f : FlowId) (lock : LockId)
  /-- Cancelling: asks for the lock. -/
  | askCancel (e : EngineId) (f : FlowId) (lock : LockId)
  /-- Cancelling: takes the lock when it is its turn. -/
  | waitCancel (e : EngineId) (f : FlowId) (lock : LockId)
  /-- Cancelling: looks the flow up. -/
  | retrieve (e : EngineId) (f : FlowId) (lock : LockId)
  /-- Nothing is left to do. -/
  | idle
  deriving DecidableEq, Inhabited

/-- What was done to a lane or a record, for which flow. -/
inductive Act where
  /-- The lane was claimed. -/
  | claimed (r : ResourceId) (f : FlowId)
  /-- The resource was marked as running. -/
  | running (r : ResourceId) (f : FlowId)
  /-- A cancel was recorded. -/
  | cancelled (r : ResourceId) (f : FlowId)
  /-- The record was dropped. -/
  | cleared (r : ResourceId) (f : FlowId)
  /-- The lane was freed. -/
  | released (r : ResourceId) (f : FlowId)
  deriving DecidableEq, Inhabited

/-- The resource that an act is about. -/
def Act.resource : Act → ResourceId
  | .claimed r _ => r
  | .running r _ => r
  | .cancelled r _ => r
  | .cleared r _ => r
  | .released r _ => r

/-- What an engine keeps of a flow, as far as it matters here. -/
structure Holding where
  /-- The resource that the flow drives. -/
  resource : ResourceId
  /-- Whether it has ended. -/
  ended : Bool
  deriving DecidableEq, Inhabited

/-- What threads share. -/
structure Shared where
  /-- The registry. -/
  registry : Registry := {}
  /-- What the engines keep. -/
  instances : Table (EngineId × FlowId) Holding := .empty
  /-- What was done to lanes and records, in order. -/
  log : List Act := []

namespace Shared

/-- The shared state with one more act in the log. -/
def put (s : Shared) (g : Registry) (a : Act) : Shared :=
  { s with registry := g, log := s.log ++ [a] }

end Shared

/-! ### One critical section -/

/-- The next critical section of thread number `t`, and where the thread is then; none while the
    lock that it waits for is not its own, or when nothing is left to do. Whether the work on events
    ends the flow is open: `ends` says so. -/
def Thread.step (s : Shared) (t : Nat) (ends : Bool) : Thread → Option (Shared × Thread)
  | .claim e r f flowType =>
    match s.registry.claim r f flowType with
    | .error _ => some (s, .idle)
    | .ok g => some (s.put g (.claimed r f), .markRunning e r f)
  | .markRunning e r f => some (s.put (s.registry.markRunning r) (.running r f), .insert e r f)
  | .insert e r f =>
    some ({ s with instances := s.instances.insert (e, f) ⟨r, false⟩ }, .find e f)
  | .find e f =>
    match s.instances.get? (e, f) with
    | none => some (s, .idle)
    | some i => some (s, if i.ended then .idle else .lookup e i.resource f)
  | .lookup e r f =>
    match s.registry.lanes.lane? r with
    | none => some (s, .idle)
    | some lane => some (s, if lane.flow = f then .ask e r f lane.lock else .idle)
  | .ask e r f lock => some ({ s with registry := s.registry.askLock lock t }, .wait e r f lock)
  | .wait e r f lock =>
    if s.registry.lanes.isHeldBy lock t then some (s, .work e r f lock) else none
  | .work e r f lock =>
    match s.instances.get? (e, f) with
    | none => some (s, .unlock lock)
    | some i => some (s, if !i.ended && ends then .finish e r f lock else .unlock lock)
  | .finish e r f lock =>
    some ({ s with instances := s.instances.modify (e, f) fun i => { i with ended := true } },
      .clear r f lock)
  | .clear r f lock =>
    match s.registry.withHolder r f (·.clear r) with
    | none => some (s, .unlock lock)
    | some g => some (s.put g (.cleared r f), .release r f lock)
  | .release r f lock =>
    if s.registry.lanes.holds r f then
      some (s.put (s.registry.releaseLane r f) (.released r f), .unlock lock)
    else some (s, .unlock lock)
  | .unlock lock => some ({ s with registry := s.registry.passLock lock }, .idle)
  | .look e r =>
    match s.registry.lanes.lane? r with
    | none => some (s, .idle)
    | some lane => some (s, .owns e r lane.flow lane.lock)
  | .owns e r f lock =>
    some (s, if (s.instances.get? (e, f)).isSome then .markCancelled e r f lock else .idle)
  | .markCancelled e r f lock =>
    match s.registry.requestCancel r f with
    | none => some (s, .idle)
    | some g => some (s.put g (.cancelled r f), .askCancel e f lock)
  | .askCancel e f lock =>
    some ({ s with registry := s.registry.askLock lock t }, .waitCancel e f lock)
  | .waitCancel e f lock =>
    if s.registry.lanes.isHeldBy lock t then some (s, .retrieve e f lock) else none
  | .retrieve e f lock =>
    match s.instances.get? (e, f) with
    | none => some (s, .unlock lock)
    | some i => some (s, .finish e i.resource f lock)
  | .idle => none

/-! ### All threads -/

/-- The threads and what they share. -/
structure Threads where
  /-- What they share. -/
  shared : Shared := {}
  /-- The threads, in the order in which they began. -/
  threads : List Thread := []
  /-- No flow with this serial number or a higher one has been opened. -/
  nextFlow : Nat := 0

namespace Threads

/-- What can happen next. -/
inductive Label where
  /-- An engine is asked to start a flow. -/
  | start (e : EngineId) (r : ResourceId) (flowType : String)
  /-- An event is delivered to a flow. -/
  | dispatch (e : EngineId) (f : FlowId)
  /-- The flow of a resource is to be cancelled. -/
  | cancel (e : EngineId) (r : ResourceId)
  /-- A thread goes through its next critical section. -/
  | run (t : Nat) (ends : Bool)
  /-- An engine forgets a flow that has ended. -/
  | forget (e : EngineId) (f : FlowId)
  deriving DecidableEq, Inhabited

/-- The threads with one more. -/
def spawn (w : Threads) (t : Thread) : Threads := { w with threads := w.threads ++ [t] }

/-- What happens on a label; none if it cannot happen. -/
def step (w : Threads) : Label → Option Threads
  | .start e r flowType =>
    some { w.spawn (.claim e r (.opened w.nextFlow) flowType) with nextFlow := w.nextFlow + 1 }
  | .dispatch e f => some (w.spawn (.find e f))
  | .cancel e r => some (w.spawn (.look e r))
  | .run t ends => do
    let thread ← w.threads[t]?
    let (s, thread) ← thread.step w.shared t ends
    return { w with shared := s, threads := w.threads.set t thread }
  | .forget e f =>
    match w.shared.instances.get? (e, f) with
    | some ⟨_, true⟩ =>
      some { w with shared := { w.shared with instances := w.shared.instances.erase (e, f) } }
    | _ => none

/-- What several things lead to, one after the other. -/
def follow (w : Threads) : List Label → Option Threads
  | [] => some w
  | l :: rest => (w.step l).bind fun w => w.follow rest

/-- The states that threads on an empty registry can come to, in any order of steps. -/
inductive Reachable : Threads → Prop where
  /-- Nothing has happened. -/
  | init : Reachable {}
  /-- One more thing has happened. -/
  | step {w w' : Threads} (l : Label) : Reachable w → w.step l = some w' → Reachable w'

end Threads

end ResourceFlow
