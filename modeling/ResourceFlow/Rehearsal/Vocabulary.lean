import ResourceFlow.Flow.Embedding
import ResourceFlow.Flows.CascadingDelete
import ResourceFlow.Flows.Diagnostics
import ResourceFlow.Flows.Upscale
/-! # The vocabulary of rehearsals

  A rehearsal runs upscales, deletions, collections and flows of its own
  making side by side. Its vocabulary is the sum of theirs; the states and
  selectors of flows of its own making are plain names, and their payloads are
  JSON.
-/

namespace ResourceFlow.Rehearsal

/-- A state of any flow. -/
inductive State where
  /-- A state of an upscale. -/
  | upscale (s : Upscale.State)
  /-- A state of a deletion. -/
  | deletion (s : CascadingDelete.State)
  /-- A state of a collection. -/
  | diagnostics (s : Diagnostics.State)
  /-- A state known by name only. -/
  | named (name : String)
  deriving DecidableEq, Inhabited

/-- A selector of any flow. -/
inductive Selector where
  /-- A selector of an upscale. -/
  | upscale (s : Upscale.Selector)
  /-- A selector of a deletion. -/
  | deletion (s : CascadingDelete.Selector)
  /-- A selector of a collection. -/
  | diagnostics (s : Diagnostics.Selector)
  /-- A selector known by name only. -/
  | named (name : String)
  deriving DecidableEq, Inhabited

/-- A payload of any flow. -/
inductive Payload where
  /-- The payload of an upscale. -/
  | upscale (p : Upscale.Payload)
  /-- The payload of a deletion. -/
  | deletion (p : EnvironmentView)
  /-- The payload of a collection. -/
  | diagnostics (p : DiagnosticsParameters)
  /-- Any payload. -/
  | json (j : Json)
  deriving Inhabited

/-- The name of a state. -/
def State.name : State → String
  | .upscale s => Named.name s
  | .deletion s => Named.name s
  | .diagnostics s => Named.name s
  | .named name => name

/-- The name of a selector. -/
def Selector.name : Selector → String
  | .upscale s => Named.name s
  | .deletion s => Named.name s
  | .diagnostics s => Named.name s
  | .named name => name

/-- The JSON form of a payload. -/
def Payload.toJson : Payload → Json
  | .upscale p => p.toJson
  | .deletion p => Codec.encode p
  | .diagnostics p => p.toJson
  | .json j => j

/-- The vocabulary of a rehearsal. -/
@[reducible] def vocabulary : Vocabulary where
  State := State
  Selector := Selector
  Payload := Payload
  stateName := State.name
  selectorName := Selector.name
  payloadJson := Payload.toJson

/-- Upscales in a rehearsal. -/
def upscale : Embedding Upscale.vocabulary vocabulary where
  state := .upscale
  state?
    | .upscale s => some s
    | _ => none
  selector := .upscale
  selector?
    | .upscale s => some s
    | _ => none
  payload := .upscale
  payload?
    | .upscale p => some p
    | _ => none

/-- Deletions in a rehearsal. -/
def deletion : Embedding CascadingDelete.vocabulary vocabulary where
  state := .deletion
  state?
    | .deletion s => some s
    | _ => none
  selector := .deletion
  selector?
    | .deletion s => some s
    | _ => none
  payload := .deletion
  payload?
    | .deletion p => some p
    | _ => none

/-- Collections in a rehearsal. -/
def diagnostics : Embedding Diagnostics.vocabulary vocabulary where
  state := .diagnostics
  state?
    | .diagnostics s => some s
    | _ => none
  selector := .diagnostics
  selector?
    | .diagnostics s => some s
    | _ => none
  payload := .diagnostics
  payload?
    | .diagnostics p => some p
    | _ => none

end ResourceFlow.Rehearsal
