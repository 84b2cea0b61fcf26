import ResourceFlow.Rehearsal.Schedule
import ResourceFlow.Rehearsal.Setup
/-! # Scenarios

  A scenario sets up engines and takes one step after another in the
  foreground. The answer to each step is its result, the time after it, and
  what was logged since the step before. After a step the background tasks run
  until they wait, except after a submission.
-/

namespace ResourceFlow.Rehearsal

/-! ### Answers -/

/-- A snapshot as an answer. -/
def snapshotJson (s : Snapshot vocabulary) : Json := .obj [
  ("flow", flowJson s.flow),
  ("flow_type", .str s.flowType),
  ("resource_id", .int s.resourceId.toInt),
  ("resource_crn", .str s.resourceCrn),
  ("state", .str s.state.name),
  ("status", .str (Named.name s.status)),
  ("finished", .bool s.finishedAt.isSome),
  ("failure", Json.ofOption Codec.encode s.failure),
  ("path", Json.texts s.path)]

/-- An event as an answer. -/
def eventJson (e : vocabulary.Event) : Json :=
  .obj (eventFields Selector.name Payload.toJson e)

/-- A value or an error as an answer. -/
def resultJson {ε α : Type} (error : ε → Json) (value : α → Json) : Except ε α → Json
  | .error e => error e
  | .ok a => value a

/-- A value under its own name. -/
def okJson (j : Json) : Json := .obj [("ok", j)]

/-- The flow that a request opened. -/
def openedJson (f : FlowId) : Json := .obj [("flow", flowJson f)]

/-- The result of a task. -/
def taskResultJson : TaskResult vocabulary → Json
  | .processed outcome => resultJson flowErrorJson snapshotJson outcome
  | .cancelled outcome => Json.ofOption snapshotJson outcome

/-- The result of starting a flow. -/
def startResultJson : TaskResult vocabulary → Json
  | .processed outcome => resultJson flowErrorJson (fun s => openedJson s.flow) outcome
  | .cancelled outcome => Json.ofOption snapshotJson outcome

/-- The result of a job. -/
def jobResultJson (task : TaskResult vocabulary → Json) : JobResult → Json
  | .task result => task result
  | .json j => j
  | .environment outcome =>
    resultJson serviceErrorJson (fun d => okJson (Codec.encode d)) (EnvironmentWait.report outcome)
  | .stuck => errorJson "STUCK" "nothing is left that could go on" []

/-- What became of a published event. -/
def deliveryJson : Delivery vocabulary → Json
  | .unhandled e => .obj [("unhandled", eventJson e)]
  | .handled e => .obj [("handled", eventJson e)]
  | .failed e => .obj [("failed", eventJson e)]
  | .cancelled => .str "cancelled"

/-- The outcome of an action. -/
def actionResultJson (r : ActionResult vocabulary) : Json :=
  resultJson actionErrorJson (fun e => .obj [("next", Json.ofOption eventJson e)]) r

namespace Scene

/-! ### Foreground programs -/

/-- Runs a job and puts its result into an answer. -/
def answer (s : Scene) (job : Job) (task : TaskResult vocabulary → Json) : Scene × Json :=
  let (s, result) := s.run job
  (s, jobResultJson task result)

/-- Runs a program with an answer. -/
def perform (s : Scene) (registry : String) (p : Program Requests Json) : Scene × Json :=
  s.answer (.program registry (p.run (s.moment registry))) taskResultJson

/-- Runs a program of collaborator calls. -/
def service {α : Type} (s : Scene) (p : Program Collaborators α) (f : α → Json) : Scene × Json :=
  s.perform "main" ((collaboratorCalls.program p).map f)

/-- Runs a service request. -/
def request {α : Type} (s : Scene) (p : Action ServiceError α) (value : α → Json) :
    Scene × Json :=
  s.service p.run (resultJson serviceErrorJson value)

/-! ### Steps on an engine -/

/-- The engine of a place. -/
def engine? (s : Scene) (p : Place) : Option (Engine vocabulary Requests) :=
  (s.world p.registry).engines[p.index]?

/-- Changes the world of an engine by adding a task; the task. -/
def addTask (s : Scene) (p : Place) (work : Work vocabulary Requests) : Scene × TaskRef :=
  let w := s.world p.registry
  (s.putWorld p.registry (w.addTask p.index work), ⟨p.registry, w.tasks.length⟩)

/-- Runs a task that is added to an engine. -/
def call (s : Scene) (p : Place) (work : Work vocabulary Requests) : Scene × Json :=
  let (s, ref) := s.addTask p work
  s.answer (.task ref) taskResultJson

/-- Adds a task to an engine that runs in the background under a name. -/
def callLater (s : Scene) (p : Place) (work : Work vocabulary Requests) (name : String) :
    Scene × Json :=
  let (s, ref) := s.addTask p work
  ({ s with handles := s.handles.insert name ref }.enqueue ref, .null)

/-- The flow that a field refers to. -/
def flowAt (s : Scene) (j : Json) (name : String) : FlowId :=
  (readFlowRef (j.field name)).resolve s.opened

/-- The work of delivering an event to a flow. -/
def dispatchWork (s : Scene) (p : Place) (j : Json) : Work vocabulary Requests :=
  .process .dispatched (s.flowAt j "flow") (.arriving (readEngineEvent p.kind (j.field "event")))

/-- The selectors of the records of an engine. -/
def auditJson (e : Engine vocabulary Requests) (p : Place) (resource : Option ResourceId) : Json :=
  if p.traced then .null
  else .obj [
    ("records", .nat e.trail.length),
    ("failures", Json.texts ((AuditRecord.failures e.trail).map AuditRecord.selector)),
    ("selectors", Json.texts (AuditRecord.selectors e.trail resource))]

/-- The parameters of a run without a flow, on a definition. -/
def looseParameters (d : Definition vocabulary Requests) (j : Json) : FlowParameters where
  flow := .nil
  flowType := d.flowType
  resourceId := resourceAt j "resource_id"
  resourceCrn := j.textAt "resource_crn"
  userCrn := j.textAt? "user_crn"
  cascading := j.flagAt "cascading"
  forced := j.flagAt "forced"

/-- Changes the dispatcher of a place and counts one more handler. -/
def register (s : Scene) (p : Place) (h : ScriptedHandler) : Scene × Json :=
  let handler := h.handler p.name p.registry p.handlers
  let w := s.world p.registry
  let w := { w with engines := w.engines.modify p.index fun e =>
    { e with dispatcher := e.dispatcher.register handler } }
  let places := s.places.map fun q =>
    if q.name = p.name then
      { q with dispatcher := q.dispatcher.register handler, handlers := q.handlers + 1 }
    else q
  ({ s.putWorld p.registry w with places := places }, .bool (p.dispatcher.handles handler.selector))

/-- The options of a deletion request. -/
def readOptions (j : Json) : EnvironmentDeletion.Options where
  userCrn := j.textAt "user_crn"
  cascading := j.flagAt "cascading"
  forced := j.flagAt "forced"

/-- Runs a request to the deletion service of an engine. The flows that it answers with can be
    joined; those submitted before a refusal go on, but nothing is left to join them by. -/
def deletion {α : Type} (s : Scene) (p : Place)
    (request : ExceptT ServiceError (Program EnvironmentDeletion.Requests) α)
    (flows : α → List FlowId) (value : α → Json) : Scene × Json :=
  s.perform p.registry do
    let result ← (deletionRequests p.name).program request.run
    keepEach (result.toOption.elim [] flows)
    return resultJson serviceErrorJson value result

/-- One step on an engine. -/
def engineStep (s : Scene) (p : Place) (e : Engine vocabulary Requests) (j : Json) :
    Scene × Json :=
  let resource := resourceAt j "resource_id"
  let name := j.textAt "as"
  match j.textAt "do" with
  | "start" =>
    match s.openFlow p.name (readStart p.kind j) with
    | (s, .error err) => (s, flowErrorJson err)
    | (s, .ok (_, ref)) => s.answer (.task ref) startResultJson
  | "submit" =>
    match s.submit p.name (readStart p.kind j) with
    | (s, .error err) => (s, flowErrorJson err)
    | (s, .ok flow) => (s.keep flow, openedJson flow)
  | "dispatch" => s.call p (s.dispatchWork p j)
  | "dispatch_bg" => s.callLater p (s.dispatchWork p j) name
  | "cancel" => s.call p (.cancel resource .arriving)
  | "cancel_bg" => s.callLater p (.cancel resource .arriving) name
  | "get" => (s, Json.ofOption snapshotJson (e.get? (s.flowAt j "flow")))
  | "active" =>
    (s, Json.ofOption flowJson ((s.world p.registry).registry.lanes.activeFlow? resource))
  | "debug" => (s, .str (e.text (s.world p.registry).registry.lanes.size))
  | "audit" => (s, auditJson e p ((j.given? "resource_id").map fun _ => resource))
  | "transition" =>
    (s, Json.ofOption (fun st => .str (State.name st)) (e.definition.transition
      (readState p.kind (j.textAt "from")) (readSelector p.kind (j.textAt "selector"))))
  | "execute" =>
    s.perform p.registry ((e.definition.execute (readState p.kind (j.textAt "state"))
      (looseParameters e.definition j) (readEngineEvent p.kind (j.field "event"))).map
        actionResultJson)
  | "failure_event" =>
    (s, eventJson (e.definition.failureEvent (readState p.kind (j.textAt "state"))
      (readEngineEvent p.kind (j.field "event"))
      (if j.flagAt "with_params" then some (looseParameters e.definition j) else none)
      (readActionError (j.field "error"))))
  | "handles" => (s, .bool (p.dispatcher.handles (readSelector p.kind (j.textAt "selector"))))
  | "publish" =>
    s.perform p.registry ((p.dispatcher.publish ((j.given? "flow").map fun _ => s.flowAt j "flow")
      (readEngineEvent p.kind (j.field "event"))).map deliveryJson)
  | "dispatcher_debug" => (s, .str p.dispatcher.text)
  | "register" => s.register p (readHandler (j.field "handler"))
  | "delete" =>
    s.deletion p (EnvironmentDeletion.delete (readView (j.field "environment")) (readOptions j))
      (fun flow => [flow]) openedJson
  | "delete_multiple" =>
    s.deletion p (EnvironmentDeletion.deleteMultiple (readOptions j)
      ((j.listAt "environments").map readView)) id fun l => .arr (l.map openedJson)
  | _ => (s, .obj [("error", .str "UNKNOWN_STEP")])

/-! ### Other steps -/

/-- Waits for an environment. -/
def waitForEnvironment (s : Scene) (j : Json) : Scene × Json :=
  let target : EnvironmentWait.Target := {
    resourceId := resourceAt j "resource_id"
    environmentCrn := j.textAt "environment_crn"
    environmentName := j.textAt "environment_name" }
  let polling := readPolling j "polling"
  let w := match j.field "until" with
    | .str "available" => EnvironmentWait.untilAvailable target polling
    | .str "network" => EnvironmentWait.untilNetworkReady target polling
    | until' =>
      EnvironmentWait.untilStatus target (readPolling j "own_polling") fun status =>
        (readTexts until').contains (Named.name status)
  let registry := registryAt j
  match (collaboratorCalls.wait w).begin (s.moment registry) with
  | .result outcome => (s, jobResultJson taskResultJson (.environment outcome))
  | .more w => s.answer (.wait registry w) taskResultJson

/-- Waits for a background task by name. -/
def joinStep (s : Scene) (name : String) : Scene × Json :=
  match s.handles.get? name with
  | none => (s, .obj [("error", .str "NO_HANDLE")])
  | some ref => answer { s with handles := s.handles.erase name } (.join ref) taskResultJson

/-- A step that is not on an engine. -/
def otherStep (s : Scene) (j : Json) : Scene × Json :=
  let environment := j.textAt "environment_crn"
  let stack := resourceAt j "stack_id"
  match j.textAt "do" with
  | "advance" => s.perform "main" (.call (.sleep (j.natAt "ms")) fun _ => .done .null)
  | "join" => s.joinStep (j.textAt "ref")
  | "env_wait" => s.waitForEnvironment j
  | "telemetry_upgrade" =>
    s.request (TelemetryService.upgrade s.telemetry stack
      ((j.namedAt? "component").getD .cdpTelemetry) ((j.given? "filter").map readFilter))
      fun _ => .str "ok"
  | "telemetry_pillars" =>
    s.request (TelemetryService.refreshPillars stack
      ((j.textsAt "components").filterMap Named.ofName?)) fun _ => .str "ok"
  | "freeipa_describe" =>
    s.request (FreeIpaService.describe environment) fun d => okJson (Codec.encode d)
  | "freeipa_node_count" =>
    s.request (FreeIpaService.nodeCount environment) fun n => okJson (Codec.encode n)
  | "freeipa_check" => s.request (FreeIpaService.checkRunning environment) fun _ => .str "ok"
  | "freeipa_upscale" =>
    s.service (FreeIpaService.upscale environment ((j.namedAt? "target").getD .ha))
      (resultJson (fun e => errorJson "COLLABORATOR" e.message []) fun id => okJson (.str id))
  | "freeipa_operation_status" =>
    s.service (FreeIpaService.operationStatus (j.textAt "operation_id")
      (j.textAt "account_id")).toProgram fun status => okJson (Codec.encode status)
  | _ =>
    match readRegistryStep? j with
    | some step =>
      let w := s.world step.registry
      let (g, result) := step.act.apply step.resource s.opened w.registry
      (s.putWorld step.registry { w with registry := g }, result)
    | none => (s, .obj [("error", .str "UNKNOWN_STEP")])

/-! ### Scenarios -/

/-- One step. -/
def step (s : Scene) (j : Json) : Scene × Json :=
  match (j.textAt? "engine").bind s.place? with
  | some p =>
    match s.engine? p with
    | some e => s.engineStep p e j
    | none => (s, .obj [("error", .str "UNKNOWN_STEP")])
  | none => s.otherStep j

/-- Whether a step leaves the background tasks where they are. -/
def leavesBackground (j : Json) : Bool :=
  match j.textAt "do" with
  | "submit" => true
  | "delete" => true
  | _ => false

/-- The answers to the steps of a scenario. -/
def steps : Scene → List Json → List Json
  | _, [] => []
  | s, j :: rest =>
    let (s, result) := s.step j
    let s := if leavesBackground j then s else s.settle
    .obj [("result", result), ("t", s.timeJson), ("log", .arr s.log.reverse)] ::
      steps { s with log := [] } rest

end Scene

/-- The answer to a scenario: how the engines are built, and the answers to its steps. -/
def scenario (j : Json) : Json :=
  let s : Scene := {
    telemetry := readTelemetry (j.field "telemetry")
    script := readScript (j.field "script") }
  let (s, builders) := s.addEngines (j.field "engines").fields
  .obj [("builders", .obj builders), ("steps", .arr (s.steps (j.listAt "steps")))]

end ResourceFlow.Rehearsal
