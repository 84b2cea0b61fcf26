import ResourceFlow.Engine.Basic
import ResourceFlow.Rehearsal.Outcome
import ResourceFlow.Rehearsal.Script
import ResourceFlow.Service.EnvironmentDeletion
/-! # What programs ask of a rehearsal

  Programs in a rehearsal call collaborators, which answer from the script.
  Scripted flows also write to the log, act on registries, sleep, and count
  how often an outcome list was used. A deletion service submits flows.
-/

namespace ResourceFlow.Rehearsal

/-- A list of outcomes in use: whose it is, for which state or handler, on which resource. -/
structure Slot where
  /-- The engine. -/
  engine : String
  /-- The state or handler. -/
  owner : String
  /-- The resource. -/
  resource : ResourceId
  deriving DecidableEq, Inhabited

/-- What a program may ask. -/
inductive Request where
  /-- A call to a collaborator. -/
  | collaborator (q : Call)
  /-- How often a list of outcomes was used before; it counts as used once more. -/
  | uses (slot : Slot)
  /-- An entry in the log. -/
  | log (fields : List (String × Json))
  /-- Acts on registries. -/
  | registry (steps : List RegistryStep)
  /-- A sleep, in milliseconds. -/
  | sleep (ms : Nat)
  /-- A flow to be submitted to an engine. -/
  | submit (engine : String) (request : StartRequest vocabulary)
  /-- A submitted flow that is to be joined under its label. -/
  | keep (flow : FlowId)

/-- The interface of a rehearsal. -/
abbrev Requests : Interface where
  Call := Request
  Answer
    | .collaborator q => Except CollaboratorError q.Value
    | .uses _ => Nat
    | .log _ => Unit
    | .registry _ => Unit
    | .sleep _ => Unit
    | .submit .. => Except FlowError FlowId
    | .keep _ => Unit

/-- The answer to a request, as a rehearsal keeps it. -/
inductive Response where
  /-- Done, and nothing to tell. -/
  | done
  /-- How often a list of outcomes was used before. -/
  | count (n : Nat)
  /-- What a collaborator answered. -/
  | answer (result : Except CollaboratorError Json)
  /-- The flow that was submitted. -/
  | flow (result : Except FlowError FlowId)

/-- A response as the answer to a call. -/
def Response.reply (r : Response) : Requests.Reply
  | .collaborator q =>
    match r with
    | .answer result => result.map (readValue q)
    | _ => .error (.transport "")
  | .uses _ =>
    match r with
    | .count n => n
    | _ => 0
  | .log _ => ()
  | .registry _ => ()
  | .sleep _ => ()
  | .submit .. =>
    match r with
    | .flow result => result
    | _ => .error (.dispatch "")
  | .keep _ => ()

/-- Calls to collaborators among the requests. -/
def collaboratorCalls : Interface.Link Collaborators Requests where
  call := .collaborator
  answer _ x := x

/-- The requests of a deletion service on an engine. -/
def deletionRequests (engine : String) :
    Interface.Link EnvironmentDeletion.Requests Requests where
  call
    | .collaborator q => .collaborator q
    | .submit request => .submit engine {
        resourceId := request.resourceId
        resourceCrn := request.resourceCrn
        userCrn := request.userCrn
        cascading := request.cascading
        forced := request.forced
        payload := .deletion request.payload }
  answer
    | .collaborator _, x => x
    | .submit _, x => x

/-- Lets submitted flows be joined under their labels. -/
def keepEach : List FlowId → Program Requests Unit
  | [] => return ()
  | flow :: rest => do
    @Program.ask Requests (.keep flow)
    keepEach rest

end ResourceFlow.Rehearsal
