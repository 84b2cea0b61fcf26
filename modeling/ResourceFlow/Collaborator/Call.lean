import ResourceFlow.Collaborator.Diagnostics
import ResourceFlow.Collaborator.Environment
import ResourceFlow.Collaborator.Error
import ResourceFlow.Collaborator.FreeIpa
import ResourceFlow.Program.Basic
/-! # Calls to collaborators

  The outside services that flows and services call, as one interface. Every
  call may fail with a `CollaboratorError`.
-/

namespace ResourceFlow

/-- A call to a collaborator. -/
inductive Call where
  /-- Describe the identity service of an environment. -/
  | describeFreeIpa (environment : String)
  /-- Bring the identity service of an environment to a number of instances. -/
  | upscaleFreeIpa (environment : String) (target : AvailabilityType)
  /-- Read the status of an operation. -/
  | operationStatus (operation account : String)
  /-- Delete the identity service of an environment. -/
  | deleteFreeIpa (environment : String) (forced : Bool)
  /-- Describe an environment. -/
  | describeEnvironment (environment : String)
  /-- The names of the child environments. -/
  | childEnvironments (environment : EnvironmentView)
  /-- The names of the attached data hubs. -/
  | attachedDatahubs (environment : EnvironmentView)
  /-- The number of connected experiences. -/
  | connectedExperiences (environment : EnvironmentView)
  /-- The names by which others know the attached data lakes. -/
  | attachedDatalakes (environment : EnvironmentView)
  /-- The names of the data lakes that only the legacy interface knows. -/
  | legacyDatalakes (environment : EnvironmentView)
  /-- Delete what else belongs to an environment. -/
  | deleteResources (environment : String) (forced : Bool)
  /-- List the data lakes of an environment. -/
  | listDatalakes (environment : String)
  /-- Delete a data lake. -/
  | deleteDatalake (datalake : String) (forced : Bool)
  /-- Prepare the nodes of a stack for a collection. -/
  | initDiagnostics (stack : ResourceId) (parameters : DiagnosticsParameters)
  /-- Collect from the nodes of a stack. -/
  | collectDiagnostics (stack : ResourceId) (parameters : DiagnosticsParameters)
  /-- Remove what a collection left on the nodes of a stack. -/
  | cleanupDiagnostics (stack : ResourceId) (parameters : DiagnosticsParameters)
  /-- Get or create the credential of the machine user that ships bundles. -/
  | databusCredential (stack : ResourceId)
  /-- Get the nodes of a stack. -/
  | stackMetadata (stack : ResourceId)
  /-- Bring components on nodes to versions. -/
  | updateTelemetry (metadata : OrchestratorMetadata) (nodes : List Node)
      (versions : TelemetryVersions)
  /-- Bring the metering agent on nodes to a release date. -/
  | upgradeMetering (metadata : OrchestratorMetadata) (nodes : List Node) (date : String)
  /-- Which of the nodes do not answer. -/
  | unresponsiveNodes (metadata : OrchestratorMetadata) (nodes : List Node)
  /-- Write the configuration of components to nodes. -/
  | initSaltConfig (metadata : OrchestratorMetadata) (nodes : List Node)
      (components : List String)
  deriving DecidableEq, Inhabited

/-- What a successful call answers. -/
@[reducible] def Call.Value : Call → Type
  | .describeFreeIpa _ => FreeIpaDescription
  | .upscaleFreeIpa .. => String
  | .operationStatus .. => OperationStatus
  | .deleteFreeIpa .. => Unit
  | .describeEnvironment _ => EnvironmentDetails
  | .childEnvironments _ => List String
  | .attachedDatahubs _ => List String
  | .connectedExperiences _ => Nat
  | .attachedDatalakes _ => List String
  | .legacyDatalakes _ => List String
  | .deleteResources .. => Unit
  | .listDatalakes _ => List DatalakeSummary
  | .deleteDatalake .. => Unit
  | .initDiagnostics .. => Unit
  | .collectDiagnostics .. => Unit
  | .cleanupDiagnostics .. => Unit
  | .databusCredential _ => DatabusCredential
  | .stackMetadata _ => OrchestratorMetadata
  | .updateTelemetry .. => Unit
  | .upgradeMetering .. => Unit
  | .unresponsiveNodes .. => List Node
  | .initSaltConfig .. => Unit

/-- The interface of the collaborators. -/
abbrev Collaborators : Interface where
  Call := Call
  Answer q := Except CollaboratorError q.Value

/-- A call from within a program. -/
def Call.ask (q : Call) : Program Collaborators (Except CollaboratorError q.Value) :=
  @Program.ask Collaborators q

/-- A call from within an attempt of a wait. -/
def Call.attempt (q : Call) : Procedure Collaborators (Except CollaboratorError q.Value) :=
  @Procedure.ask Collaborators q

/-! ### Actions -/

/-- A program that may raise an error. -/
abbrev Action (ε α : Type) : Type := ExceptT ε (Program Collaborators) α

/-- A call whose failure is raised, put into the words of the caller. -/
def Call.orRaise {ε : Type} (q : Call) (raise : CollaboratorError → ε) : Action ε q.Value :=
  ExceptT.mk do return (← q.ask).mapError raise

/-- A call whose failure fails the action. -/
def Call.orFail (q : Call) : Action ActionError q.Value := q.orRaise CollaboratorError.toActionError

/-- A wait whose failure fails the action. -/
def Wait.orFail (w : Wait Collaborators Unit) : Action ActionError Unit :=
  ExceptT.mk do return (← Program.await w).mapError .poll

end ResourceFlow
