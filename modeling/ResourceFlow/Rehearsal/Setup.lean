import ResourceFlow.Engine.Text
import ResourceFlow.Rehearsal.Scene
/-! # Setting up a rehearsal

  A scenario names engines, each with its kind, the registry that it is built
  on, where its records go and how many ended flows it keeps. States,
  selectors and payloads in the scenario are read as the engine's kind has
  them.
-/

namespace ResourceFlow.Rehearsal

/-! ### Reading by kind -/

/-- A state of an engine. -/
def readState (kind : Kind) (name : String) : State :=
  match kind with
  | .upscale => .upscale ((Named.ofName? name).getD default)
  | .deletion => .deletion ((Named.ofName? name).getD default)
  | .diagnostics => .diagnostics ((Named.ofName? name).getD default)
  | .scripted => .named name

/-- A selector of an engine. -/
def readSelector (kind : Kind) (name : String) : Selector :=
  match kind with
  | .upscale => .upscale ((Named.ofName? name).getD default)
  | .deletion => .deletion ((Named.ofName? name).getD default)
  | .diagnostics => .diagnostics ((Named.ofName? name).getD default)
  | .scripted => .named name

/-- The payload of an upscale. -/
def readUpscale (j : Json) : Upscale.Payload where
  environmentCrn := j.textAt "environment_crn"
  accountId := j.textAt "account_id"
  target := (j.namedAt? "target").getD .ha

/-- An environment. -/
def readView (j : Json) : EnvironmentView where
  id := resourceAt j "id"
  name := j.textAt "name"
  crn := j.textAt "crn"
  accountId := j.textAt "account_id"

/-- The parameters of a collection. -/
def readParameters (j : Json) : DiagnosticsParameters where
  uuid := j.textAt? "uuid"
  destination := (j.namedAt? "destination").getD .onNodes
  description := j.textAt? "description"
  hosts := textSet (j.textsAt "hosts")
  hostGroups := textSet (j.textsAt "host_groups")
  excludeHosts := textSet (j.textsAt "exclude_hosts")
  accessKey := j.textAt? "access_key"
  privateKey := j.textAt? "private_key"

/-- A payload of an engine. -/
def readPayload (kind : Kind) (j : Json) : Payload :=
  match kind with
  | .upscale => .upscale (readUpscale j)
  | .deletion => .deletion (readView j)
  | .diagnostics => .diagnostics (readParameters j)
  | .scripted => .json j

/-- An event of an engine. -/
def readEngineEvent (kind : Kind) (j : Json) : vocabulary.Event :=
  readEvent (readSelector kind) (readPayload kind) j

/-- A start request for an engine. -/
def readStart (kind : Kind) (j : Json) : StartRequest vocabulary where
  resourceId := resourceAt j "resource_id"
  resourceCrn := j.textAt "resource_crn"
  userCrn := j.textAt? "user_crn"
  cascading := j.flagAt "cascading"
  forced := j.flagAt "forced"
  payload := readPayload kind (j.field "payload")

/-! ### Engines -/

/-- The kind of an engine. -/
def readKind (j : Json) : Kind :=
  match j.textAt "kind" with
  | "upscale" => .upscale
  | "deletion" => .deletion
  | "diagnostics" => .diagnostics
  | _ => .scripted

/-- The definition of an engine. -/
def readDefinition (kind : Kind) (engine registry : String) (j : Json) :
    Definition vocabulary Requests :=
  match kind with
  | .upscale => Rehearsal.upscale.definition collaboratorCalls Upscale.definition
  | .deletion =>
    Rehearsal.deletion.definition collaboratorCalls
      (CascadingDelete.definition (readPolling j "polling"))
  | .diagnostics => Rehearsal.diagnostics.definition collaboratorCalls Diagnostics.definition
  | .scripted => (readScriptedFlow j).definition engine registry

/-- The handlers of an engine. -/
def readHandlers (kind : Kind) (telemetry : TelemetrySettings) (engine registry : String)
    (j : Json) : List (Handler vocabulary Requests) :=
  match kind with
  | .upscale =>
    (Upscale.handlers (readPolling j "polling")).map (Rehearsal.upscale.handler collaboratorCalls)
  | .deletion => []
  | .diagnostics =>
    (Diagnostics.handlers telemetry).map (Rehearsal.diagnostics.handler collaboratorCalls)
  | .scripted =>
    (j.listAt "handlers").mapIdx fun i h => (readHandler h).handler engine registry i

/-- Adds an engine to a scene; its text as it is being built. -/
def Scene.addEngine (s : Scene) (name : String) (j : Json) : Scene × String :=
  let kind := readKind j
  let registry := registryAt j
  let traced := j.textAt "sink" = "tracing"
  let definition := readDefinition kind name registry j
  let handlers := readHandlers kind s.telemetry name registry j
  let retention := (j.natAt? "retention").getD defaultRetention
  let dispatcher := Dispatcher.ofList handlers
  let w := s.world registry
  let place : Place := {
    name := name, registry := registry, index := w.engines.length, kind := kind,
    traced := traced, handlers := handlers.length, dispatcher := dispatcher }
  let w := { w with engines := w.engines ++ [
    { definition := definition, dispatcher := dispatcher, retention := retention }] }
  let givesRegistry := !(kind = .scripted && registry = "global")
  ({ s.putWorld registry w with places := s.places ++ [place] },
    engineBuilderText definition.flowType givesRegistry (!traced) handlers.length retention)

/-- Adds engines to a scene; their texts as they are being built, by name. -/
def Scene.addEngines (s : Scene) : List (String × Json) → Scene × List (String × Json)
  | [] => (s, [])
  | (name, j) :: rest =>
    let (s, text) := s.addEngine name j
    let (s, texts) := s.addEngines rest
    (s, (name, .str text) :: texts)

/-- The telemetry versions of a scenario. -/
def readTelemetry (j : Json) : TelemetrySettings where
  cdpTelemetry := j.textAt "cdp_telemetry"
  loggingAgent := j.textAt "logging_agent"
  meteringDate := j.textAt "metering_date"

end ResourceFlow.Rehearsal
