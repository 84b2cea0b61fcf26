import ResourceFlow.Flows.CascadingDelete
import ResourceFlow.Flows.Diagnostics
import ResourceFlow.Flows.Upscale
import ResourceFlow.Proofs.Program.Confined
/-! # The flows of the library are confined to their resource

  Deletions, upscales and collections are confined to every resource
  (`CascadingDelete.confined`, `Upscale.confined`, `Diagnostics.confined`):
  they wait on the resource that the run or the event carries, if they wait,
  and the next event carries the same.
-/

namespace ResourceFlow

/-! ### Upscales -/

namespace Upscale

open ResourceFlow.Action

variable {r : ResourceId}

theorem stays_nodeCount (environment : String) :
    Stays r (fun _ => True) (FreeIpaService.nodeCount environment) := by
  unfold FreeIpaService.nodeCount
  refine Stays.bind (P := fun _ => True) ?_ ?_
  · intro x
    -- Only one kind of error counts as an answer.
    rcases x with (_ | _ | _) | _ <;> intro _ _ <;> trivial
  · intro a _
    cases a with
    | some description => exact stays_pure trivial
    | none => exact stays_throw _

theorem stays_begin {e : vocabulary.Event} (he : e.resourceId = r) :
    Stays r (fun next => ∀ e', next = some e' → e'.resourceId = r) (begin e) := by
  unfold begin
  refine (stays_adapt (stays_nodeCount _) _).bind ?_
  intro current _
  split
  · refine Stays.bind (stays_orRaise _ _) fun _ _ => stays_answer ?_
    rintro _ ⟨⟩
    exact he
  · refine stays_answer ?_
    rintro _ ⟨⟩
    exact he

theorem stays_execute (s : State) (p : FlowParameters) {e : vocabulary.Event}
    (he : e.resourceId = r) :
    Stays r (fun next => ∀ e', next = some e' → e'.resourceId = r) (execute s p e) := by
  cases s with
  | init | final => exact stays_silent
  | start => exact stays_begin he
  | inProgress | finished | failed =>
    refine stays_answer ?_
    rintro _ ⟨⟩
    exact he

theorem stays_awaitOperation (polling : Polling) {e : vocabulary.Event} (he : e.resourceId = r) :
    Stays r (fun next => next.resourceId = r) (awaitOperation polling e) := by
  unfold awaitOperation
  split
  · exact stays_throw _
  · refine (stays_wait ⟨he, fun k => ?_⟩).bind fun _ _ => stays_pure he
    exact fun _ => trivial

theorem eq_waitHandler {polling : Polling} {sel : Selector} {hd : Handler vocabulary Collaborators}
    (h : (Dispatcher.ofList (handlers polling)).handler? sel = some hd) :
    hd = waitHandler polling := by
  cases sel <;> cases h
  rfl

/-- The flows of upscales are confined to their resource. -/
theorem confined (polling : Polling) (r : ResourceId) :
    definition.Confined (.ofList (handlers polling)) r (·.resourceId = r) where
  execute s p _ _ he := Definition.within_of_stays (stays_execute s p he)
  actionFails _ _ _ _ _ he := he
  accept _ _ hh _ _ he := by
    rw [eq_waitHandler hh]
    exact stays_awaitOperation polling he
  handlerFails _ _ hh _ _ he := by
    rw [eq_waitHandler hh]
    exact he

end Upscale

/-! ### Deletions -/

namespace CascadingDelete

open ResourceFlow.Action

variable {r : ResourceId}

theorem stays_tolerate (forced : Bool) (e : CollaboratorError) :
    Stays r (fun _ => True) (tolerate forced e) := by
  unfold tolerate
  split
  · exact stays_pure trivial
  · exact stays_throw _

theorem stays_deleteEach (forced : Bool) (l : List DatalakeSummary) :
    Stays r (fun _ => True) (deleteEach forced l) := by
  -- On the list of data lakes.
  induction l with
  | nil => exact stays_pure trivial
  | cons d rest ih =>
    refine Stays.bind (stays_ask _) ?_
    intro answer _
    cases answer with
    | ok _ => exact ih.bind fun _ _ => stays_pure trivial
    | error e => exact (stays_tolerate forced e).bind fun _ _ => ih

theorem within_datalakesWait (polling : Polling) (environment : String) (deleting : List String) :
    (datalakesWait polling r environment deleting).Within r where
  resource := rfl
  attempt k := by
    intro answer
    cases answer <;> trivial

theorem within_freeIpaWait (polling : Polling) (environment : String) :
    (freeIpaWait polling r environment).Within r where
  resource := rfl
  attempt k := by
    intro answer
    rcases answer with (_ | _ | _) | _ <;> trivial

variable {p : FlowParameters}

theorem stays_deleteDatalakes (polling : Polling) (hp : p.resourceId = r) (environment : String) :
    Stays r (fun _ => True) (deleteDatalakes polling p environment) := by
  refine Stays.bind (stays_orRaise _ _) ?_
  intro datalakes _
  refine Stays.bind (stays_deleteEach _ _) ?_
  intro deleting _
  cases deleting with
  | nil => exact stays_pure trivial
  | cons d rest => exact stays_wait (hp ▸ within_datalakesWait ..)

theorem stays_deleteFreeIpa (polling : Polling) (hp : p.resourceId = r) (environment : String) :
    Stays r (fun _ => True) (deleteFreeIpa polling p environment) := by
  refine Stays.bind (stays_ask _) ?_
  intro answer _
  rcases answer with (_ | _ | _) | _
  · exact stays_tolerate ..
  · exact stays_pure trivial
  · exact stays_tolerate ..
  · exact stays_wait (hp ▸ within_freeIpaWait ..)

theorem stays_deleteResources (environment : String) :
    Stays r (fun _ => True) (deleteResources p environment) := by
  refine Stays.bind (stays_ask _) ?_
  intro answer _
  cases answer with
  | ok _ => exact stays_pure trivial
  | error e => exact stays_tolerate ..

theorem stays_execute (polling : Polling) (s : State) (hp : p.resourceId = r)
    {e : vocabulary.Event} (he : e.resourceId = r) :
    Stays r (fun next => ∀ e', next = some e' → e'.resourceId = r) (execute polling s p e) := by
  -- Whatever is deleted, the next event is one of the same resource.
  have hnext : ∀ selector, Stays r (fun next => ∀ e', next = some e' → e'.resourceId = r)
      (pure (some (e.followUp selector)) : Action ActionError (Option vocabulary.Event)) := by
    intro selector
    refine stays_answer ?_
    rintro _ ⟨⟩
    exact he
  cases s with
  | init | final => exact stays_silent
  | datalakesDeleting =>
    unfold execute
    dsimp only
    split
    · exact (stays_deleteDatalakes polling hp _).bind fun _ _ => hnext _
    · exact hnext _
  | freeIpaDeleting => exact (stays_deleteFreeIpa polling hp _).bind fun _ _ => hnext _
  | resourcesDeleting => exact (stays_deleteResources _).bind fun _ _ => hnext _
  | finished | failed => exact hnext _

/-- The flows of deletions are confined to their resource. -/
theorem confined (polling : Polling) (r : ResourceId) :
    (definition polling).Confined (.ofList []) r (·.resourceId = r) where
  execute s _ _ hp he := Definition.within_of_stays (stays_execute polling s hp he)
  actionFails _ _ _ _ _ he := he
  accept _ _ hh := nomatch hh
  handlerFails _ _ hh := nomatch hh

end CascadingDelete

/-! ### Collections -/

namespace Diagnostics

open ResourceFlow.Action

variable {r : ResourceId} {e : vocabulary.Event}

theorem stays_prepare (flow : Option FlowId) (he : e.resourceId = r) :
    Stays r (fun next => next.resourceId = r) (prepare flow e) :=
  Stays.bind (stays_orRaise _ _) fun _ _ => stays_pure he

theorem stays_upgrade (settings : TelemetrySettings) (he : e.resourceId = r) :
    Stays r (fun next => next.resourceId = r) (upgrade settings e) := by
  have hu : Stays r (fun _ => True) (TelemetryService.upgrade settings e.resourceId .cdpTelemetry
      (some (targets e.payload))) :=
    Stays.bind (stays_orRaise _ _) fun _ _ => stays_orRaise _ _
  exact (stays_adapt hu _).bind fun _ _ => stays_pure he

theorem stays_ensureMachineUser (he : e.resourceId = r) :
    Stays r (fun next => next.resourceId = r) (ensureMachineUser e) := by
  unfold ensureMachineUser
  split
  · exact Stays.bind (stays_orRaise _ _) fun _ _ => stays_pure he
  · exact stays_pure he

theorem stays_collect (he : e.resourceId = r) :
    Stays r (fun next => next.resourceId = r) (collect e) :=
  Stays.bind (stays_orRaise _ _) fun _ _ => stays_pure he

theorem stays_cleanup (he : e.resourceId = r) :
    Stays r (fun next => next.resourceId = r) (cleanup e) :=
  Stays.bind (stays_orRaise _ _) fun _ _ => stays_pure he

/-- The work of every stage stays within the resource of its event. -/
theorem handler_of_eq {settings : TelemetrySettings} {sel : Selector}
    {hd : Handler vocabulary Collaborators}
    (h : (Dispatcher.ofList (handlers settings)).handler? sel = some hd) :
    ∃ type accept, hd = stageHandler sel type accept ∧ ∀ r f (e : vocabulary.Event),
      e.resourceId = r → Stays r (fun next => next.resourceId = r) (accept f e) := by
  cases sel with
  | init =>
    cases h
    exact ⟨_, _, rfl, fun r f e he => stays_prepare f he⟩
  | upgrade =>
    cases h
    exact ⟨_, _, rfl, fun r f e he => stays_upgrade settings he⟩
  | ensureMachineUser =>
    cases h
    exact ⟨_, _, rfl, fun r f e he => stays_ensureMachineUser he⟩
  | collect =>
    cases h
    exact ⟨_, _, rfl, fun r f e he => stays_collect he⟩
  | cleanup =>
    cases h
    exact ⟨_, _, rfl, fun r f e he => stays_cleanup he⟩
  | _ => cases h

/-- The flows of collections are confined to their resource. -/
theorem confined (settings : TelemetrySettings) (r : ResourceId) :
    definition.Confined (.ofList (handlers settings)) r (·.resourceId = r) where
  execute s _ _ _ he := by
    intro next hn
    obtain ⟨selector, -, rfl⟩ := Option.map_eq_some_iff.mp (Except.ok.inj hn)
    exact he
  actionFails _ _ _ _ _ he := he
  accept _ _ hh f event he := by
    obtain ⟨type, accept, rfl, hstays⟩ := handler_of_eq hh
    exact hstays r f event he
  handlerFails _ _ hh _ _ he := by
    obtain ⟨type, accept, rfl, -⟩ := handler_of_eq hh
    exact he

end Diagnostics

end ResourceFlow
