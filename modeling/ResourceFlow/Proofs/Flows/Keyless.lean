import ResourceFlow.Proofs.Flows.Confined
import ResourceFlow.Proofs.Flows.Secrecy
/-! # Upscales and deletions deal with no private keys

  No call that an upscale or a deletion can make hands on a private key, or is
  answered with one (`Upscale.keyless`, `CascadingDelete.keyless`). So private
  keys make no difference to either, whoever else has to do with them.
-/

namespace ResourceFlow

/-- The call does not deal with private keys. -/
abbrev Keyless (q : Call) : Prop := Diagnostics.carriesKey q = false

/-! ### Upscales -/

namespace Upscale

open ResourceFlow.Action

theorem calls_nodeCount (environment : String) :
    Calls Keyless (FreeIpaService.nodeCount environment) := by
  unfold FreeIpaService.nodeCount
  refine Calls.bind ⟨rfl, ?_⟩ ?_
  · intro x
    rcases x with (_ | _ | _) | _ <;> trivial
  · intro a
    cases a with
    | some description => exact calls_pure _
    | none => exact calls_throw _

theorem calls_begin (e : vocabulary.Event) : Calls Keyless (begin e) := by
  unfold begin
  refine (calls_adapt (calls_nodeCount _) _).bind fun current => ?_
  split
  · exact Calls.bind (calls_orFail rfl) fun _ => calls_pure _
  · exact calls_pure _

theorem calls_awaitOperation (polling : Polling) (e : vocabulary.Event) :
    Calls Keyless (awaitOperation polling e) := by
  unfold awaitOperation
  split
  · exact calls_throw _
  · refine Calls.bind (calls_wait fun _ => ?_) fun _ => calls_pure _
    exact ⟨rfl, fun _ => trivial⟩

/-- The calls of an upscale deal with no private keys. -/
theorem keyless (polling : Polling) : definition.Calls (.ofList (handlers polling)) Keyless where
  execute s p e := by
    cases s with
    | start => exact calls_begin e
    | _ => exact calls_pure _
  accept hh f e := by
    rw [eq_waitHandler hh]
    exact calls_awaitOperation polling e

end Upscale

/-! ### Deletions -/

namespace CascadingDelete

open ResourceFlow.Action

theorem calls_tolerate (forced : Bool) (e : CollaboratorError) :
    Calls Keyless (tolerate forced e) := by
  unfold tolerate
  split
  · exact calls_pure _
  · exact calls_throw _

theorem calls_deleteEach (forced : Bool) (l : List DatalakeSummary) :
    Calls Keyless (deleteEach forced l) := by
  -- On the list of data lakes.
  induction l with
  | nil => exact calls_pure _
  | cons d rest ih =>
    refine Calls.bind (calls_ask rfl) fun answer => ?_
    cases answer with
    | ok _ => exact ih.bind fun _ => calls_pure _
    | error e => exact (calls_tolerate forced e).bind fun _ => ih

variable {polling : Polling}

theorem calls_datalakesWait {r : ResourceId} {environment : String} {deleting : List String} :
    Calls Keyless (datalakesWait polling r environment deleting).orFail := by
  refine calls_wait fun _ => ⟨rfl, fun answer => ?_⟩
  cases answer <;> trivial

theorem calls_freeIpaWait {r : ResourceId} {environment : String} :
    Calls Keyless (freeIpaWait polling r environment).orFail := by
  refine calls_wait fun _ => ⟨rfl, fun answer => ?_⟩
  rcases answer with (_ | _ | _) | _ <;> trivial

theorem calls_deleteDatalakes (p : FlowParameters) (environment : String) :
    Calls Keyless (deleteDatalakes polling p environment) := by
  refine Calls.bind (calls_orFail rfl) fun datalakes => ?_
  refine (calls_deleteEach p.forced datalakes).bind fun deleting => ?_
  cases deleting with
  | nil => exact calls_pure _
  | cons d rest => exact calls_datalakesWait

theorem calls_deleteFreeIpa (p : FlowParameters) (environment : String) :
    Calls Keyless (deleteFreeIpa polling p environment) := by
  refine Calls.bind (calls_ask rfl) fun answer => ?_
  rcases answer with (_ | _ | _) | _
  · exact calls_tolerate ..
  · exact calls_pure _
  · exact calls_tolerate ..
  · exact calls_freeIpaWait

theorem calls_deleteResources (p : FlowParameters) (environment : String) :
    Calls Keyless (deleteResources p environment) := by
  refine Calls.bind (calls_ask rfl) fun answer => ?_
  cases answer with
  | ok _ => exact calls_pure _
  | error e => exact calls_tolerate ..

theorem calls_execute (s : State) (p : FlowParameters) (e : vocabulary.Event) :
    Calls Keyless (execute polling s p e) := by
  cases s with
  | datalakesDeleting =>
    unfold execute
    dsimp only
    split
    · exact (calls_deleteDatalakes p _).bind fun _ => calls_pure _
    · exact calls_pure _
  | freeIpaDeleting => exact (calls_deleteFreeIpa p _).bind fun _ => calls_pure _
  | resourcesDeleting => exact (calls_deleteResources p _).bind fun _ => calls_pure _
  | _ => exact calls_pure _

/-- The calls of a deletion deal with no private keys. -/
theorem keyless (polling : Polling) : (definition polling).Calls (.ofList []) Keyless where
  execute s p e := calls_execute s p e
  accept hh := nomatch hh

end CascadingDelete

end ResourceFlow
