import ResourceFlow.Engine.Task
/-! # Engines that share a registry

  A world holds the engines built on one registry and the tasks that their
  callers have begun. Its steps are the requests of callers, one step of one
  task with an answer to the call that the task may be waiting for, and the
  passing of time. Which step comes next is left open: `Reachable` admits
  every order.
-/

namespace ResourceFlow

/-- The number of an engine. -/
abbrev EngineId := Nat

/-- A task and the engine that it calls. -/
structure Task (V : Vocabulary) (I : Interface) where
  /-- The engine. -/
  engine : EngineId
  /-- What the task does. -/
  work : Work V I

/-! ### State -/

/-- The engines on one registry, and the calls in progress. -/
structure World (V : Vocabulary) (I : Interface) where
  /-- The time. -/
  now : Duration := 0
  /-- The registry. -/
  registry : Registry := {}
  /-- The engines. -/
  engines : List (Engine V I) := []
  /-- The tasks, in the order in which they began. -/
  tasks : List (Task V I) := []
  /-- No flow with this serial number or a higher one has been opened. -/
  nextFlow : Nat := 0

/-! ### Labels -/

/-- What can happen next. -/
inductive Label (V : Vocabulary) (I : Interface) where
  /-- An engine is asked to start a flow; it gets this serial number. -/
  | start (e : EngineId) (serial : Nat) (request : StartRequest V)
  /-- An event is delivered to a flow. -/
  | dispatch (e : EngineId) (flow : FlowId) (event : V.Event)
  /-- The flow of a resource is to be cancelled. -/
  | cancel (e : EngineId) (resource : ResourceId)
  /-- A task takes a step, with answers to calls. -/
  | run (t : TaskId) (reply : I.Reply)
  /-- Time passes. -/
  | elapse (d : Duration)

namespace World

variable {V : Vocabulary} {I : Interface}

/-- The desk of an engine. -/
def desk? (w : World V I) (e : EngineId) : Option (Desk V I) :=
  (w.engines[e]?).map fun engine => { registry := w.registry, engine := engine }

/-- The world with an engine and the registry as a desk left them. -/
def putDesk (w : World V I) (e : EngineId) (d : Desk V I) : World V I :=
  { w with registry := d.registry, engines := w.engines.set e d.engine }

/-- The world with one more task. -/
def addTask (w : World V I) (e : EngineId) (work : Work V I) : World V I :=
  { w with tasks := w.tasks ++ [{ engine := e, work := work }] }

/-! ### Requests -/

/-- Starts a flow under a serial number that no flow had. The lane is taken at once; a task then
    runs the flow. -/
def start (w : World V I) (e : EngineId) (serial : Nat) (q : StartRequest V) :
    Option (World V I) := do
  let d ← w.desk? e
  -- Serial numbers only grow, so no two flows ever have the same id.
  if serial < w.nextFlow then none
  else match d.start (.opened serial) q with
    | .error err => some (w.addTask e (.refused err))
    | .ok d' =>
      let w := { w.putDesk e d' with nextFlow := serial + 1 }
      some (w.addTask e (.process (.started q.resourceId) (.opened serial)
        (.arriving (q.event d.engine.definition.start))))

/-- Delivers an event to a flow. -/
def dispatch (w : World V I) (e : EngineId) (flow : FlowId) (event : V.Event) : World V I :=
  w.addTask e (.process .dispatched flow (.arriving event))

/-- Cancels the flow of a resource. -/
def cancel (w : World V I) (e : EngineId) (r : ResourceId) : World V I :=
  w.addTask e (.cancel r .arriving)

/-! ### Steps -/

/-- One step of a task. -/
def run (w : World V I) (t : TaskId) (reply : I.Reply) : Option (World V I) := do
  let task ← w.tasks[t]?
  let d ← w.desk? task.engine
  let (d, work) ← d.work t w.now reply task.work
  let w := w.putDesk task.engine d
  return { w with tasks := w.tasks.set t { task with work := work } }

/-- What happens on a label; none if it cannot happen. -/
def step (w : World V I) : Label V I → Option (World V I)
  | .start e serial q => w.start e serial q
  | .dispatch e flow event => some (w.dispatch e flow event)
  | .cancel e r => some (w.cancel e r)
  | .run t reply => w.run t reply
  | .elapse d => some { w with now := w.now + d }

/-! ### Executions -/

/-- A world before any request: engines without flows on an empty registry. -/
def initial (engines : List (Definition V I × List (Handler V I) × Nat)) : World V I where
  engines := engines.map fun (definition, handlers, retention) =>
    { definition, dispatcher := .ofList handlers, retention }

/-- The worlds that can come to be from a world, in any order of steps. -/
inductive Reachable (w₀ : World V I) : World V I → Prop where
  /-- Nothing has happened. -/
  | refl : Reachable w₀ w₀
  /-- One more thing has happened. -/
  | step {w w' : World V I} (l : Label V I) : Reachable w₀ w → w.step l = some w' →
      Reachable w₀ w'

end World

end ResourceFlow
