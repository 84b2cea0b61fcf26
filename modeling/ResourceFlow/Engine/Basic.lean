import ResourceFlow.Flow.Audit
import ResourceFlow.Flow.Instance
import ResourceFlow.Registry.Basic
/-! # Engines

  An engine runs the flows of one definition. It keeps an instance of every
  running flow and of the last flows that ended: an ended flow is retired, and
  when more than the retention allows are retired, the oldest are forgotten.
-/

namespace ResourceFlow

/-- The trigger of a new run. -/
structure StartRequest (V : Vocabulary) where
  /-- The resource to drive. -/
  resourceId : ResourceId
  /-- The name under which others know the resource. -/
  resourceCrn : String
  /-- Who triggers the run. -/
  userCrn : Option String := none
  /-- Whether dependent resources are deleted along. -/
  cascading : Bool := false
  /-- Whether failing collaborators are tolerated where something is deleted. -/
  forced : Bool := false
  /-- The payload of the start event. -/
  payload : V.Payload

/-- The parameters of the run that a request triggers. -/
def StartRequest.params {V : Vocabulary} (q : StartRequest V) (f : FlowId) (flowType : String) :
    FlowParameters where
  flow := f
  flowType := flowType
  resourceId := q.resourceId
  resourceCrn := q.resourceCrn
  userCrn := q.userCrn
  cascading := q.cascading
  forced := q.forced

/-- The event that starts the run that a request triggers. -/
def StartRequest.event {V : Vocabulary} (q : StartRequest V) (start : V.Selector) : V.Event where
  selector := start
  resourceId := q.resourceId
  resourceCrn := q.resourceCrn
  payload := q.payload

/-- How many ended flows an engine keeps when nothing else is said. -/
def defaultRetention : Nat := 256

/-- Runs the flows of one definition. -/
structure Engine (V : Vocabulary) (I : Interface) where
  /-- The definition. -/
  definition : Definition V I
  /-- The handlers that consume events in place of transitions. -/
  dispatcher : Dispatcher V I := {}
  /-- How many ended flows are kept. -/
  retention : Nat := defaultRetention
  /-- The runs that the engine remembers. -/
  instances : Table FlowId (Instance V) := .empty
  /-- The ended flows that are kept, the oldest first. -/
  retired : List FlowId := []
  /-- What was recorded, in order. -/
  trail : List AuditRecord := []

namespace Engine

variable {V : Vocabulary} {I : Interface}

/-! ### Looking -/

/-- The run of a flow. -/
def instance? (e : Engine V I) (f : FlowId) : Option (Instance V) := e.instances.get? f

/-- What a caller sees of a flow. -/
def get? (e : Engine V I) (f : FlowId) : Option (Snapshot V) :=
  (e.instance? f).map Instance.snapshot

/-- Whether the engine remembers the flow. -/
def owns (e : Engine V I) (f : FlowId) : Bool := (e.instance? f).isSome

/-- The status of a flow; one that is forgotten counts as finished. -/
def statusOf (e : Engine V I) (f : FlowId) : FlowStatus :=
  ((e.instance? f).map Instance.status).getD .finished

/-! ### Changing instances -/

/-- Adds a run. -/
def add (e : Engine V I) (i : Instance V) : Engine V I :=
  { e with instances := e.instances.insert i.params.flow i }

/-- Changes the run of a flow, if the engine remembers it. -/
def update (e : Engine V I) (f : FlowId) (change : Instance V → Instance V) : Engine V I :=
  { e with instances := e.instances.modify f change }

/-- Whether a flow is remembered and has not ended. -/
def isRunning (e : Engine V I) (f : FlowId) : Bool :=
  match e.instance? f with
  | none => false
  | some i => !i.status.isTerminal

/-- Enters a state on an event; entering the failed state records the failure. -/
def enter (e : Engine V I) (f : FlowId) (s : V.State) (event : V.Event) : Engine V I :=
  e.update f fun i =>
    let i := i.enter s
    if s = e.definition.failedState then
      { i with failure := some (event.failure.getD
          ⟨.unset, V.stateName s ++ " entered on " ++ V.selectorName event.selector⟩) }
    else i

/-- Ends a run with a status. -/
def finish (e : Engine V I) (f : FlowId) (status : FlowStatus) (now : Duration) : Engine V I :=
  e.update f (·.finish status now)

/-- Retires an ended flow and forgets the oldest beyond the retention. -/
def retire (e : Engine V I) (f : FlowId) : Engine V I :=
  let queue := e.retired ++ [f]
  let excess := queue.length - e.retention
  { e with
    retired := queue.drop excess
    instances := (queue.take excess).foldl Table.erase e.instances }

/-! ### Recording -/

/-- Adds a record to the trail. -/
def record (e : Engine V I) (a : AuditRecord) : Engine V I := { e with trail := e.trail ++ [a] }

end Engine

end ResourceFlow
