import ResourceFlow.Cluster.NodeFilter
import ResourceFlow.Flow.Event
/-! # Diagnostics and telemetry data

  A diagnostics collection is described by parameters, among them the two keys
  with which a bundle is shipped. The private key is never written: the JSON
  form of the parameters leaves it out.
-/

namespace ResourceFlow

/-- Where a diagnostics bundle goes. -/
inductive DiagnosticsDestination where
  /-- To support. -/
  | support
  /-- To cloud storage. -/
  | cloudStorage
  /-- To engineering. -/
  | eng
  /-- Nowhere: it stays on the nodes. -/
  | onNodes
  deriving DecidableEq, Inhabited

instance : Named DiagnosticsDestination where
  all := [.support, .cloudStorage, .eng, .onNodes]
  name
    | .support => "SUPPORT"
    | .cloudStorage => "CLOUD_STORAGE"
    | .eng => "ENG"
    | .onNodes => "LOCAL"

instance : Codec DiagnosticsDestination := Codec.named

/-- The parameters of a diagnostics collection. -/
structure DiagnosticsParameters where
  /-- The id of the collection; the flow's id once it began. -/
  uuid : Option String := none
  /-- Where the bundle goes. -/
  destination : DiagnosticsDestination
  /-- What it is for. -/
  description : Option String := none
  /-- The hosts to collect from. -/
  hosts : List String := []
  /-- The host groups to collect from. -/
  hostGroups : List String := []
  /-- The hosts to leave out. -/
  excludeHosts : List String := []
  /-- The access key with which the bundle is shipped. -/
  accessKey : Option String := none
  /-- The private key with which the bundle is shipped; it is kept secret. -/
  privateKey : Option String := none
  deriving DecidableEq, Inhabited

/-- The JSON form of the parameters, without the private key. -/
def DiagnosticsParameters.toJson (p : DiagnosticsParameters) : Json := .obj [
  ("uuid", Codec.encode p.uuid),
  ("destination", Codec.encode p.destination),
  ("description", Codec.encode p.description),
  ("hosts", Codec.encodeTexts p.hosts),
  ("host_groups", Codec.encodeTexts p.hostGroups),
  ("exclude_hosts", Codec.encodeTexts p.excludeHosts),
  ("support_bundle_dbus_access_key", Codec.encode p.accessKey)]

/-- The keys of a machine user that ships bundles. -/
structure DatabusCredential where
  /-- The access key. -/
  accessKey : String
  /-- The private key. -/
  privateKey : String
  deriving DecidableEq, Inhabited

/-- The nodes of a stack, as the orchestrator knows them. -/
structure OrchestratorMetadata where
  /-- The stack. -/
  stackId : ResourceId
  /-- Its nodes. -/
  nodes : List Node
  deriving DecidableEq, Inhabited

/-- A telemetry component that can be upgraded. -/
inductive TelemetryComponent where
  /-- The telemetry package. -/
  | cdpTelemetry
  /-- The logging agent. -/
  | cdpLoggingAgent
  /-- The metering agent. -/
  | metering
  deriving DecidableEq, Inhabited

instance : Named TelemetryComponent where
  all := [.cdpTelemetry, .cdpLoggingAgent, .metering]
  name
    | .cdpTelemetry => "CDP_TELEMETRY"
    | .cdpLoggingAgent => "CDP_LOGGING_AGENT"
    | .metering => "METERING"

instance : Codec TelemetryComponent := Codec.named

/-- The versions that components on the nodes are brought to; an empty one is left alone. -/
structure TelemetryVersions where
  /-- The version of the logging agent. -/
  loggingAgent : String := ""
  /-- The version of the telemetry package. -/
  cdpTelemetry : String := ""
  deriving DecidableEq, Inhabited

/-- The versions under the keys by which the orchestrator knows them. -/
def TelemetryVersions.toJson (v : TelemetryVersions) : Json := .obj [
  ("desiredCdpLoggingAgentVersion", .str v.loggingAgent),
  ("desiredCdpTelemetryVersion", .str v.cdpTelemetry)]

end ResourceFlow
