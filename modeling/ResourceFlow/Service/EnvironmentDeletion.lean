import ResourceFlow.Engine.Basic
import ResourceFlow.Flows.CascadingDelete
import ResourceFlow.Service.Error
/-! # Deleting environments

  The deletion of an environment is submitted as a flow. Unless it cascades,
  nothing may be attached to the environment: child environments, data hubs,
  connected experiences and data lakes are asked for in this order, and the
  first that is there, or cannot be asked for, refuses the deletion.
-/

namespace ResourceFlow.EnvironmentDeletion

/-! ### Validation -/

/-- Names, separated by commas. -/
def joined (names : List String) : String := String.intercalate ", " names

/-- Refuses the deletion because of what is attached. -/
def refuse (what names : String) : ServiceError :=
  .badRequest ("The following " ++ what ++ " before Environment deletion [" ++ names ++ "]")

/-- The refusal because of connected experiences, if there are any. -/
def refuseExperiences (environment : EnvironmentView) : Nat → Except ServiceError Unit
  | 0 => .ok ()
  | 1 => .error (.badRequest ("The given environment [" ++ environment.name ++
      "] has 1 connected experience. This must be terminated before Environment deletion."))
  | n => .error (.badRequest ("The given environment [" ++ environment.name ++ "] has " ++
      toString n ++
      " connected experiences. These must be terminated before Environment deletion."))

/-- Refuses the deletion while there are child environments. -/
def checkChildren (environment : EnvironmentView) : Action ServiceError Unit := do
  match ← (Call.childEnvironments environment).orRaise .collaborator with
  | [] => return ()
  | children => throw (refuse "Environment(s) must be deleted" (joined children))

/-- Refuses the deletion while data hubs are attached. -/
def checkDatahubs (environment : EnvironmentView) : Action ServiceError Unit := do
  match ← (Call.attachedDatahubs environment).orRaise .collaborator with
  | [] => return ()
  | datahubs =>
    throw (refuse "Data Hub cluster(s) must be terminated" (joined (textSet datahubs)))

/-- Refuses the deletion while experiences are connected or cannot be asked for. -/
def checkExperiences (environment : EnvironmentView) : Action ServiceError Unit := do
  let count ← (Call.connectedExperiences environment).orRaise fun _ => .unavailable
    ("Unable to access all experience to check whether the environment have any connected " ++
      "one(s)!")
  ExceptT.mk (return refuseExperiences environment count)

/-- Refuses the deletion while data lakes are attached; legacy ones are asked for if no others
    are. -/
def checkDatalakes (environment : EnvironmentView) : Action ServiceError Unit := do
  let names : List String ←
    match ← (Call.attachedDatalakes environment).orRaise .collaborator with
    | [] => (Call.legacyDatalakes environment).orRaise .collaborator
    | attached => pure attached
  match names with
  | [] => return ()
  | names => throw (refuse "Data Lake cluster(s) must be terminated" (joined (textSet names)))

/-- Refuses the deletion of an environment while anything is attached to it. -/
def validate (environment : EnvironmentView) : Action ServiceError Unit := do
  checkChildren environment
  checkDatahubs environment
  checkExperiences environment
  checkDatalakes environment

/-! ### Submission -/

/-- What the service asks for: calls to collaborators, and flows to be submitted. -/
inductive Request where
  /-- A call to a collaborator. -/
  | collaborator (q : Call)
  /-- A flow to be submitted to the engine. -/
  | submit (request : StartRequest CascadingDelete.vocabulary)

/-- The interface of the service. -/
abbrev Requests : Interface where
  Call := Request
  Answer
    | .collaborator q => Except CollaboratorError q.Value
    | .submit _ => Except FlowError FlowId

/-- Calls to collaborators among the requests. -/
def calls : Interface.Link Collaborators Requests where
  call := .collaborator
  answer _ x := x

/-- Who deletes, and how. -/
structure Options where
  /-- Who asks for the deletion. -/
  userCrn : String
  /-- Whether data lakes are deleted along. -/
  cascading : Bool
  /-- Whether failed requests to delete something are tolerated. -/
  forced : Bool
  deriving DecidableEq, Inhabited

/-- The start request of an environment's deletion. -/
def startRequest (environment : EnvironmentView) (o : Options) :
    StartRequest CascadingDelete.vocabulary where
  resourceId := environment.id
  resourceCrn := environment.crn
  userCrn := some o.userCrn
  cascading := o.cascading
  forced := o.forced
  payload := environment

/-- Validates an environment and submits its deletion. -/
def delete (environment : EnvironmentView) (o : Options) :
    ExceptT ServiceError (Program Requests) FlowId := do
  if !o.cascading then ExceptT.mk (calls.program (validate environment).run)
  ExceptT.mk do
    return (← @Program.ask Requests (.submit (startRequest environment o))).mapError .flow

/-- Deletes environments in turn, up to the first that is refused. -/
def deleteMultiple (o : Options) :
    List EnvironmentView → ExceptT ServiceError (Program Requests) (List FlowId)
  | [] => return []
  | environment :: rest => do
    let flow ← delete environment o
    return flow :: (← deleteMultiple o rest)

end ResourceFlow.EnvironmentDeletion
