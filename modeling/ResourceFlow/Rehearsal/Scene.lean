import ResourceFlow.Engine.World
import ResourceFlow.Rehearsal.Record
import ResourceFlow.Rehearsal.Scripted
/-! # The scene of a rehearsal

  A scene holds worlds, one for each registry, in which engines run in virtual
  time, and what programs draw on: the script, the log, and the requests that
  are not answered yet. This module says how a request is taken up and how one
  task takes one step.
-/

namespace ResourceFlow.Rehearsal

/-! ### State -/

/-- A task, by the registry of its world. -/
structure TaskRef where
  /-- The name of the registry. -/
  registry : String
  /-- The number of the task in that world. -/
  task : TaskId
  deriving DecidableEq, Inhabited

/-- A request that was taken up. -/
structure Pending where
  /-- When it is answered. -/
  due : Duration
  /-- The answer. -/
  response : Response

/-- The kind of an engine. -/
inductive Kind where
  /-- It upscales. -/
  | upscale
  /-- It deletes. -/
  | deletion
  /-- It collects. -/
  | diagnostics
  /-- It runs a scripted flow. -/
  | scripted
  deriving DecidableEq, Inhabited

/-- An engine in a scene. -/
structure Place where
  /-- Its name. -/
  name : String
  /-- The name of its registry. -/
  registry : String
  /-- Its number in the world of that registry. -/
  index : EngineId
  /-- Its kind. -/
  kind : Kind
  /-- Whether its records go to the log as texts of a level, and are not kept. -/
  traced : Bool
  /-- How many handlers were made for it. -/
  handlers : Nat
  /-- A dispatcher of its own with the same handlers. -/
  dispatcher : Dispatcher vocabulary Requests

/-- Everything in a rehearsal. -/
structure Scene where
  /-- The time. -/
  now : Duration := 0
  /-- The worlds, by the name of their registry. -/
  worlds : Table String (World vocabulary Requests) := .empty
  /-- The engines. -/
  places : List Place := []
  /-- The versions that telemetry is brought to. -/
  telemetry : TelemetrySettings := {}
  /-- What collaborators answer. -/
  script : Script := {}
  /-- How many flows have been opened. -/
  opened : Nat := 0
  /-- How often each method was called about each key. -/
  calls : Table (String × String) Nat := .empty
  /-- How often each list of outcomes was used. -/
  uses : Table Slot Nat := .empty
  /-- The requests of tasks that were taken up and not answered. -/
  pending : Table TaskRef Pending := .empty
  /-- The tasks that wait for a time to come, and for which, in the order in which they began to. -/
  alarms : List (TaskRef × Duration) := []
  /-- The background tasks that can go on, in the order in which they came to. -/
  queue : List TaskRef := []
  /-- The task that runs in the foreground, if one does. -/
  foreground : Option TaskRef := none
  /-- The background tasks of submitted flows. -/
  submitted : Table FlowId TaskRef := .empty
  /-- The background tasks that can be joined, by name. -/
  handles : Table String TaskRef := .empty
  /-- The log, the last entry first. -/
  log : List Json := []

namespace Scene

/-! ### Looking -/

/-- The world of a registry. -/
def world (s : Scene) (registry : String) : World vocabulary Requests :=
  (s.worlds.get? registry).getD { now := s.now }

/-- The engine of a name. -/
def place? (s : Scene) (name : String) : Option Place := s.places.find? (·.name = name)

/-- The work of a task. -/
def work? (s : Scene) (ref : TaskRef) : Option (Work vocabulary Requests) :=
  ((s.world ref.registry).tasks[ref.task]?).map Task.work

/-- What can be seen from the world of a registry. -/
def moment (s : Scene) (registry : String) : Moment where
  now := s.now
  cancelled := (s.world registry).registry.isCancelled

/-- The time in milliseconds as an answer. -/
def timeJson (s : Scene) : Json := .nat s.now.millis

/-! ### Changing -/

/-- The scene with the world of a registry as given. -/
def putWorld (s : Scene) (registry : String) (w : World vocabulary Requests) : Scene :=
  { s with worlds := s.worlds.insert registry w }

/-- Adds an entry to the log, with the time. -/
def logTimed (s : Scene) (fields : List (String × Json)) : Scene :=
  { s with log := .obj (fields ++ [("t", s.timeJson)]) :: s.log }

/-- Puts a task at the end of the queue, unless it is there or in the foreground. -/
def enqueue (s : Scene) (ref : TaskRef) : Scene :=
  if s.foreground = some ref ∨ ref ∈ s.queue then s else { s with queue := s.queue ++ [ref] }

/-- Lets a task wait for a time to come. -/
def setAlarm (s : Scene) (ref : TaskRef) (t : Duration) : Scene :=
  { s with alarms := s.alarms ++ [(ref, t)] }

/-- Logs an audit record of an engine. -/
def logRecord (s : Scene) (registry : String) (index : EngineId) (a : AuditRecord) : Scene :=
  if s.places.any fun p => p.registry = registry ∧ p.index = index ∧ p.traced then
    { s with log := loggedJson a :: s.log }
  else s.logTimed [("audit", recordJson a)]

/-- Applies acts to registries and drops their answers. -/
def applySteps (s : Scene) : List RegistryStep → Scene
  | [] => s
  | step :: rest =>
    let w := s.world step.registry
    let (g, _) := step.act.apply step.resource s.opened w.registry
    (s.putWorld step.registry { w with registry := g }).applySteps rest

/-! ### Requests -/

/-- Opens a flow on an engine; the flow and the task that runs it, or the refusal. -/
def openFlow (s : Scene) (engine : String) (q : StartRequest vocabulary) :
    Scene × Except FlowError (FlowId × TaskRef) :=
  match s.place? engine with
  | none => (s, .error (.dispatch "no engine"))
  | some p =>
    let w := s.world p.registry
    match w.start p.index (s.opened + 1) q with
    | none => (s, .error (.dispatch "no engine"))
    | some w' =>
      let s := s.putWorld p.registry w'
      match (w'.tasks.getLast?).map Task.work with
      | some (.process _ flow _) =>
        ({ s with opened := s.opened + 1 }, .ok (flow, ⟨p.registry, w.tasks.length⟩))
      | some (.refused e) => (s, .error e)
      | _ => (s, .error (.dispatch "no task"))

/-- Opens a flow that runs in the background. -/
def submit (s : Scene) (engine : String) (q : StartRequest vocabulary) :
    Scene × Except FlowError FlowId :=
  match s.openFlow engine q with
  | (s, .error e) => (s, .error e)
  | (s, .ok (flow, ref)) =>
    ({ s with submitted := s.submitted.insert flow ref }.enqueue ref, .ok flow)

/-- Lets a submitted flow be joined under its label. -/
def keep (s : Scene) (flow : FlowId) : Scene :=
  match s.submitted.get? flow with
  | some ref => { s with handles := s.handles.insert flow.text ref }
  | none => s

/-- Takes up a request: the scene after that, when the answer comes, and the answer. -/
def takeUp (s : Scene) : Request → Scene × Pending
  | .collaborator q =>
    let id := (method q, key q)
    -- Each method and key has a position of its own, also where they share the list for any key.
    let before := (s.calls.get? id).getD 0
    let a := s.script.answer id.1 id.2 before
    let s := { s with calls := s.calls.insert id (before + 1) }
    let s := s.logTimed [("call", .str id.1), ("key", .str id.2), ("args", arguments q)]
    (s.applySteps a.registry, ⟨s.now + .ofMillis a.takes, .answer a.result⟩)
  | .uses slot =>
    let before := (s.uses.get? slot).getD 0
    ({ s with uses := s.uses.insert slot (before + 1) }, ⟨s.now, .count before⟩)
  | .log fields => (s.logTimed fields, ⟨s.now, .done⟩)
  | .registry steps => (s.applySteps steps, ⟨s.now, .done⟩)
  | .sleep ms => (s, ⟨s.now + .ofMillis ms, .done⟩)
  | .submit engine q =>
    let (s, result) := s.submit engine q
    (s, ⟨s.now, .flow result⟩)
  | .keep flow => (s.keep flow, ⟨s.now, .done⟩)

/-! ### One step of a task -/

/-- Whether a task in a queue has got its lock. -/
def hasLock (w : World vocabulary Requests) (t : TaskId) : Work vocabulary Requests → Bool
  | .process _ _ (.queued lock _) => w.registry.lanes.isHeldBy lock t
  | .cancel _ (.queued lock _) => w.registry.lanes.isHeldBy lock t
  | _ => false

/-- Enqueues the tasks of a world, numbered from `t` on, that have got their lock. -/
def wake (s : Scene) (registry : String) (w : World vocabulary Requests) :
    TaskId → List (Task vocabulary Requests) → Scene
  | _, [] => s
  | t, task :: rest =>
    (if hasLock w t task.work then s.enqueue ⟨registry, t⟩ else s).wake registry w (t + 1) rest

/-- The records of an engine. -/
def trail (w : World vocabulary Requests) (e : EngineId) : List AuditRecord :=
  ((w.engines[e]?).map Engine.trail).getD []

/-- Sets the alarm of a task that pauses now. -/
def fallAsleep (s : Scene) (ref : TaskRef) : Scene :=
  match (s.work? ref).map Work.need with
  | some (.time t) => if s.now < t then s.setAlarm ref t else s
  | _ => s

/-- Lets a task take a step with a response, logs what was recorded, and wakes who got a lock. -/
def advance (s : Scene) (ref : TaskRef) (r : Response) : Option Scene := do
  let w := s.world ref.registry
  let task ← w.tasks[ref.task]?
  let w' ← w.run ref.task r.reply
  let records := (trail w' task.engine).drop (trail w task.engine).length
  let s := records.foldl (fun s a => s.logRecord ref.registry task.engine a)
    (s.putWorld ref.registry w')
  return (s.fallAsleep ref).wake ref.registry w' 0 w'.tasks

/-- One step of a task, if it can take one now. -/
def stepTask (s : Scene) (ref : TaskRef) : Option Scene := do
  let work ← s.work? ref
  match work.need with
  | .nothing => s.advance ref .done
  | .time t => if t ≤ s.now then s.advance ref .done else none
  | .answer q =>
    match s.pending.get? ref with
    | some p =>
      -- Taken up before: the answer comes when it is due.
      if p.due ≤ s.now then
        advance { s with pending := s.pending.erase ref } ref p.response
      else none
    | none =>
      let (s, p) := s.takeUp q
      if p.due ≤ s.now then s.advance ref p.response
      else some ({ s with pending := s.pending.insert ref p }.setAlarm ref p.due)

end Scene

end ResourceFlow.Rehearsal
