import ResourceFlow.Flow.Definition
/-! # Flow instances

  An instance is what an engine keeps of one run: where it stands, every state
  that it entered, and how it ended. Its first terminal status is its last.
-/

namespace ResourceFlow

/-- One run of a flow. -/
structure Instance (V : Vocabulary) where
  /-- What stays the same during the run. -/
  params : FlowParameters
  /-- The current state. -/
  state : V.State
  /-- Whether the run goes on, and how it ended. -/
  status : FlowStatus := .running
  /-- When it ended. -/
  finishedAt : Option Duration := none
  /-- What was recorded when it failed. -/
  failure : Option Failure := none
  /-- Every state entered, the initial one first. -/
  history : List V.State

/-- What a caller sees of a run. -/
structure Snapshot (V : Vocabulary) where
  /-- The flow. -/
  flow : FlowId
  /-- Its type. -/
  flowType : String
  /-- The resource that it drives. -/
  resourceId : ResourceId
  /-- The name under which others know the resource. -/
  resourceCrn : String
  /-- The current state, or the last. -/
  state : V.State
  /-- Whether the run goes on, and how it ended. -/
  status : FlowStatus
  /-- When it ended. -/
  finishedAt : Option Duration
  /-- What was recorded when it failed. -/
  failure : Option Failure
  /-- Every state entered, the initial one first. -/
  history : List V.State

namespace Instance

variable {V : Vocabulary}

/-- A run that begins. -/
def new (params : FlowParameters) (initial : V.State) : Instance V :=
  { params := params, state := initial, history := [initial] }

/-- The run enters a state. -/
def enter (i : Instance V) (s : V.State) : Instance V :=
  { i with state := s, history := i.history ++ [s] }

/-- The run ends with a status, unless it has ended before. -/
def finish (i : Instance V) (status : FlowStatus) (now : Duration) : Instance V :=
  if i.status.isTerminal then i else { i with status := status, finishedAt := some now }

/-- What a caller sees of the run. -/
def snapshot (i : Instance V) : Snapshot V where
  flow := i.params.flow
  flowType := i.params.flowType
  resourceId := i.params.resourceId
  resourceCrn := i.params.resourceCrn
  state := i.state
  status := i.status
  finishedAt := i.finishedAt
  failure := i.failure
  history := i.history

end Instance

/-- The names of the states entered, in order. -/
def Snapshot.path {V : Vocabulary} (s : Snapshot V) : List String := s.history.map V.stateName

end ResourceFlow
