import ResourceFlow.Collaborator.Call
import ResourceFlow.Rehearsal.Outcome
/-! # Scripted collaborators

  In a rehearsal, collaborators answer from a script: for each method and key
  a list of answers, used in order, of which the last repeats. A call without
  a list of its own uses the method's list for any key; without that one it
  gets the method's usual answer.
-/

namespace ResourceFlow.Rehearsal

/-! ### Calls by method and key -/

/-- The text of a resource id. -/
def resourceText (r : ResourceId) : String := toString r.toInt

/-- The method of a call. -/
def method : Call → String
  | .describeFreeIpa _ => "freeipa.describe"
  | .upscaleFreeIpa .. => "freeipa.upscale"
  | .operationStatus .. => "freeipa.operation_status"
  | .deleteFreeIpa .. => "freeipa.delete"
  | .describeEnvironment _ => "environment.describe"
  | .childEnvironments _ => "resources.children"
  | .attachedDatahubs _ => "resources.datahubs"
  | .connectedExperiences _ => "resources.experiences"
  | .attachedDatalakes _ => "resources.datalakes"
  | .legacyDatalakes _ => "resources.legacy_datalakes"
  | .deleteResources .. => "resources.delete"
  | .listDatalakes _ => "datalakes.list"
  | .deleteDatalake .. => "datalakes.delete"
  | .initDiagnostics .. => "diagnostics.init"
  | .collectDiagnostics .. => "diagnostics.collect"
  | .cleanupDiagnostics .. => "diagnostics.cleanup"
  | .databusCredential _ => "machine_users.credential"
  | .stackMetadata _ => "orchestrator.metadata"
  | .updateTelemetry .. => "telemetry.update"
  | .upgradeMetering .. => "telemetry.metering"
  | .unresponsiveNodes .. => "telemetry.unresponsive"
  | .initSaltConfig .. => "hosts.init_salt_config"

/-- The key of a call: what it is about. -/
def key : Call → String
  | .describeFreeIpa environment => environment
  | .upscaleFreeIpa environment _ => environment
  | .operationStatus operation _ => operation
  | .deleteFreeIpa environment _ => environment
  | .describeEnvironment environment => environment
  | .childEnvironments view => view.crn
  | .attachedDatahubs view => view.crn
  | .connectedExperiences view => view.crn
  | .attachedDatalakes view => view.crn
  | .legacyDatalakes view => view.crn
  | .deleteResources environment _ => environment
  | .listDatalakes environment => environment
  | .deleteDatalake datalake _ => datalake
  | .initDiagnostics stack _ => resourceText stack
  | .collectDiagnostics stack _ => resourceText stack
  | .cleanupDiagnostics stack _ => resourceText stack
  | .databusCredential stack => resourceText stack
  | .stackMetadata stack => resourceText stack
  | .updateTelemetry metadata .. => resourceText metadata.stackId
  | .upgradeMetering metadata .. => resourceText metadata.stackId
  | .unresponsiveNodes metadata _ => resourceText metadata.stackId
  | .initSaltConfig metadata .. => resourceText metadata.stackId

/-- The nodes of a set as an answer. -/
def nodesJson (l : List Node) : Json := Codec.encode (Node.setOf l)

/-- The number of nodes in the metadata of a stack. -/
def knownJson (m : OrchestratorMetadata) : Json := .nat (Node.setOf m.nodes).length

/-- The parameters of a collection, with the key that they do not write. -/
def parametersJson (p : DiagnosticsParameters) : Json :=
  .obj [("parameters", p.toJson), ("private_key", Codec.encode p.privateKey)]

/-- The arguments of a call besides its key. -/
def arguments : Call → Json
  | .upscaleFreeIpa _ target => .obj [("target", Codec.encode target)]
  | .operationStatus _ account => .obj [("account_id", .str account)]
  | .deleteFreeIpa _ forced => .obj [("forced", .bool forced)]
  | .childEnvironments view => Codec.encode view
  | .deleteResources _ forced => .obj [("forced", .bool forced)]
  | .deleteDatalake _ forced => .obj [("forced", .bool forced)]
  | .initDiagnostics _ p => parametersJson p
  | .collectDiagnostics _ p => parametersJson p
  | .cleanupDiagnostics _ p => parametersJson p
  | .updateTelemetry metadata nodes versions => .obj [("nodes", nodesJson nodes),
      ("versions", versions.toJson), ("known", knownJson metadata)]
  | .upgradeMetering metadata nodes date => .obj [("nodes", nodesJson nodes),
      ("desired_date", .str date), ("known", knownJson metadata)]
  | .unresponsiveNodes _ nodes => .obj [("nodes", nodesJson nodes)]
  | .initSaltConfig _ nodes components => .obj [("nodes", nodesJson nodes),
      ("components", Json.texts components)]
  | _ => .null

/-! ### Answers -/

/-- The description of an identity service. -/
def readFreeIpa (j : Json) : FreeIpaDescription where
  status := (j.textAt? "status").getD "AVAILABLE"
  availability := match j.field? "availability" with
    | none => some .available
    | some v => v.text?.bind Named.ofName?
  instanceGroups := (j.listAt "instance_groups").map fun g =>
    { name := g.textAt "name", nodeCount := UInt64.ofNat (g.natAt "node_count") }

/-- The texts of a list. -/
def readTexts (j : Json) : List String := (j.items?.getD []).filterMap Json.text?

/-- What a successful call answers, as the script gives it. -/
def readValue : (q : Call) → Json → q.Value
  | .describeFreeIpa _, j => readFreeIpa j
  | .upscaleFreeIpa .., j => j.text?.getD "op-1"
  | .operationStatus operation _, j =>
    { operationId := operation
      status := (j.namedAt? "status").getD .completed
      error := j.textAt? "error" }
  | .deleteFreeIpa .., _ => ()
  | .describeEnvironment environment, j =>
    { crn := environment
      name := "env-of-client"
      status := (j.text?.bind Named.ofName?).getD .available }
  | .childEnvironments _, j => readTexts j
  | .attachedDatahubs _, j => textSet (readTexts j)
  | .connectedExperiences _, j => (j.int?.getD 0).toNat
  | .attachedDatalakes _, j => textSet (readTexts j)
  | .legacyDatalakes _, j => textSet (readTexts j)
  | .deleteResources .., _ => ()
  | .listDatalakes _, j =>
    (j.items?.getD []).map fun d => { crn := d.textAt "crn", name := d.textAt "name" }
  | .deleteDatalake .., _ => ()
  | .initDiagnostics .., _ => ()
  | .collectDiagnostics .., _ => ()
  | .cleanupDiagnostics .., _ => ()
  | .databusCredential _, j =>
    { accessKey := (j.textAt? "access_key").getD "dbus-access"
      privateKey := (j.textAt? "private_key").getD "dbus-private" }
  | .stackMetadata stack, j => { stackId := stack, nodes := readNodes (j.items?.getD []) }
  | .updateTelemetry .., _ => ()
  | .upgradeMetering .., _ => ()
  | .unresponsiveNodes .., j => readNodes (j.items?.getD [])
  | .initSaltConfig .., _ => ()

/-- One scripted answer. -/
structure ScriptedAnswer where
  /-- Acts on registries before anything else. -/
  registry : List RegistryStep := []
  /-- How many milliseconds the call takes. -/
  takes : Nat := 0
  /-- The error, or what the value is read from. -/
  result : Except CollaboratorError Json := .ok .null

/-- A scripted answer. -/
def readAnswer (j : Json) : ScriptedAnswer where
  registry := (j.listAt "registry").filterMap readRegistryStep?
  takes := j.natAt "takes_ms"
  result := match j.given? "err" with
    | some e => .error (readCollaboratorError e)
    | none => .ok (j.field "ok")

/-- The answers by method and key. -/
structure Script where
  /-- For each method its keys, and for each key its answers. -/
  methods : List (String × List (String × List ScriptedAnswer)) := []
  deriving Inhabited

/-- A script. -/
def readScript (j : Json) : Script where
  methods := j.fields.map fun (method, keys) =>
    (method, keys.fields.map fun (key, answers) =>
      (key, (answers.items?.getD []).map readAnswer))

/-- The answer to a call of a method about a key, when it was called so often before. -/
def Script.answer (s : Script) (method key : String) (before : Nat) : ScriptedAnswer :=
  match s.methods.lookup method with
  | none => {}
  | some keys =>
    match keys.lookup key with
    | some answers => (pick? answers before).getD {}
    | none => ((keys.lookup "*").bind (pick? · before)).getD {}

end ResourceFlow.Rehearsal
