import ResourceFlow.Collaborator.Call
import ResourceFlow.Service.Error
import ResourceFlow.Settings
/-! # Upgrading telemetry

  Telemetry components are brought to the versions in the settings on the
  nodes of a stack, narrowed by a filter; their configuration is refreshed on
  the nodes that answer.
-/

namespace ResourceFlow.TelemetryService

/-- The call that upgrades a component on nodes. -/
def upgradeCall (settings : TelemetrySettings) (metadata : OrchestratorMetadata)
    (nodes : List Node) : TelemetryComponent → Action ServiceError Unit
  | .metering =>
    (Call.upgradeMetering metadata nodes settings.meteringDate).orRaise .collaborator
  | .cdpLoggingAgent =>
    (Call.updateTelemetry metadata nodes { loggingAgent := settings.loggingAgent }).orRaise
      .collaborator
  | .cdpTelemetry =>
    (Call.updateTelemetry metadata nodes { cdpTelemetry := settings.cdpTelemetry }).orRaise
      .collaborator

/-- Upgrades a component on the nodes of a stack that a filter lets through. -/
def upgrade (settings : TelemetrySettings) (stack : ResourceId) (component : TelemetryComponent)
    (filter : Option NodeFilter) : Action ServiceError Unit := do
  let metadata ← (Call.stackMetadata stack).orRaise .collaborator
  let nodes := match filter with
    | some f => f.apply metadata.nodes
    | none => metadata.nodes
  upgradeCall settings metadata nodes component

/-- The nodes whose host is not among those of others. -/
def without (nodes others : List Node) : List Node :=
  nodes.filter fun n => !(others.map Node.hostname).contains n.hostname

/-- Refreshes the configuration of components on the nodes of a stack that answer. -/
def refreshPillars (stack : ResourceId) (components : List TelemetryComponent) :
    Action ServiceError Unit := do
  let metadata ← (Call.stackMetadata stack).orRaise .collaborator
  let unresponsive ← (Call.unresponsiveNodes metadata metadata.nodes).orRaise .collaborator
  match without metadata.nodes unresponsive with
  | [] =>
    throw (.orchestrator
      ("Not found any available nodes for stack: " ++ toString stack.toInt))
  | available =>
    (Call.initSaltConfig metadata available (textSet (components.map Named.name))).orRaise
      .collaborator

end ResourceFlow.TelemetryService
