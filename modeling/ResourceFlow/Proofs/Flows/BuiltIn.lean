import ResourceFlow.Flows.CascadingDelete
import ResourceFlow.Flows.Diagnostics
import ResourceFlow.Flows.Upscale
import ResourceFlow.Proofs.Flow.Plan
/-! # The plans of the built-in flows

  Upscales, deletions and collections each have a `Plan`, as long as their
  waits pause between attempts. What an action or a handler makes of the
  answers to its calls is up to the collaborators; the selectors of the
  events that it answers with are not.
-/

namespace ResourceFlow

/-! ### From actions to plans -/

/-- An action that fails with an event at hand, or answers with one, leads on. -/
theorem Definition.leadsOn_of_yields {V : Vocabulary} {d : Definition V Collaborators}
    {P : V.Event → Prop} {s : V.State} {p : FlowParameters} {event : V.Event}
    {x : Action ActionError (Option V.Event)}
    (hx : Action.Yields (fun next => ∃ e, next = some e ∧ P e) x)
    (hf : ∀ e, P (d.failureEvent s event (some p) e)) :
    x.run.Ensures (d.LeadsOn P s p event) := by
  refine Program.Ensures.mono hx ?_
  intro r hr
  cases r with
  | ok next => exact hr next rfl
  | error e => exact hf e

/-- A handler whose action answers an event with events at hand, and whose failures are at hand. -/
theorem Handler.answers_of_yields {V : Vocabulary} {hd : Handler V Collaborators} {event : V.Event}
    {P : V.Event → Prop} (accept : Option FlowId → Action ActionError V.Event)
    (ha : ∀ flow, hd.accept flow event = (accept flow).run)
    (hy : ∀ flow, Action.Yields P (accept flow)) (hf : ∀ error, P (hd.failureEvent error event)) :
    hd.Answers event P := by
  refine ⟨fun flow => ?_, hf⟩
  rw [ha]
  exact hy flow

/-! ### Upscales -/

namespace Upscale

open ResourceFlow.Action

/-- The selectors of the events that can be at hand in a state. -/
def awaited : State → List Selector
  | .init => [.start]
  | .start => [.inProgress, .skipped, .failed]
  | .inProgress => [.waitRequest, .success, .failed]
  | .finished => [.finalized]
  | .failed => [.failedHandled]
  | .final => []

/-- How far a state is from the end. -/
def rank : State → Nat
  | .init => 5
  | .start => 4
  | .inProgress => 3
  | .finished => 2
  | .failed => 1
  | .final => 0

theorem yields_nodeCount (environment : String) :
    Yields (fun _ => True) (FreeIpaService.nodeCount environment) := by
  unfold FreeIpaService.nodeCount
  refine Yields.bind (P := fun _ => True) ?_ ?_
  · intro x
    -- Only one kind of error counts as an answer.
    rcases x with (_ | _ | _) | _ <;> intro _ _ <;> trivial
  · intro a _
    cases a with
    | some description => exact yields_pure trivial
    | none => exact yields_throw _

/-- Entering `START` asks for the operation or skips it. -/
theorem yields_begin (e : vocabulary.Event) :
    Yields (fun next => ∃ e', next = some e' ∧ e'.selector ∈ awaited .start) (begin e) := by
  unfold begin
  refine (yields_adapt (yields_nodeCount _) _).bind ?_
  intro current _
  split
  · refine Yields.bind (yields_orRaise _ _) ?_
    intro operation _
    exact yields_pure ⟨_, rfl, (by decide : Selector.inProgress ∈ awaited .start)⟩
  · exact yields_pure ⟨_, rfl, (by decide : Selector.skipped ∈ awaited .start)⟩

theorem yields_awaitOperation {polling : Polling} (hp : 0 < polling.interval)
    (e : vocabulary.Event) :
    Yields (fun next => next.selector = .success) (awaitOperation polling e) := by
  unfold awaitOperation
  split
  · exact yields_throw _
  · refine (yields_wait hp).bind ?_
    intro _ _
    exact yields_pure rfl

theorem handler?_eq (polling : Polling) (sel : Selector) :
    (Dispatcher.ofList (handlers polling)).handler? sel =
      if sel = .waitRequest then some (waitHandler polling) else none := by
  cases sel <;> rfl

theorem transition_isSome (s : State) :
    ∀ sel ∈ awaited s, sel ≠ .waitRequest → (transition s sel).isSome := by
  cases s <;> decide

theorem rank_lt {s s' : State} {sel : Selector} (h : transition s sel = some s') :
    rank s' < rank s := by
  unfold transition at h
  split at h <;> cases h <;> decide

/-- The wait for the operation is the work of a handler; everything else is a transition. -/
def plan (polling : Polling) (hp : 0 < polling.interval) :
    Plan definition (.ofList (handlers polling)) where
  awaits s event := event.selector ∈ awaited s
  rank := rank
  initial_ne := by decide
  failed_going := rfl
  going s event h := by
    cases s with
    | final => cases h
    | _ => rfl
  handled s event hd hm hh := by
    rw [handler?_eq] at hh
    split at hh
    · rename_i hsel
      cases hh
      rw [hsel] at hm
      -- Only one state asks for the wait.
      have hs : s = .inProgress := by
        cases s <;> first | rfl | exact absurd hm (by decide)
      subst hs
      refine Handler.answers_of_yields (fun _ => awaitOperation polling event) (fun _ => rfl) ?_ ?_
      · intro _
        refine (yields_awaitOperation hp event).mono ?_
        intro next hn
        rw [hn]
        exact ⟨by decide, rfl⟩
      · intro _
        exact ⟨(by decide : Selector.failed ∈ awaited .inProgress), rfl⟩
    · cases hh
  next s event hm hh := by
    refine transition_isSome s event.selector hm ?_
    intro hsel
    rw [hsel] at hh
    cases hh
  descends s sel s' := rank_lt
  fails sel s' h := by
    cases sel with
    | failedHandled => cases h; rfl
    | _ => cases h
  entered s event s' p _ h ht := by
    cases s' with
    | init =>
      cases s <;> generalize event.selector = sel at h <;> cases sel <;> cases h
    | start =>
      refine Definition.leadsOn_of_yields (yields_begin event) ?_
      intro e
      exact (by decide : Selector.failed ∈ awaited .start)
    | inProgress => exact ⟨_, rfl, (by decide : Selector.waitRequest ∈ awaited .inProgress)⟩
    | finished => exact ⟨_, rfl, (by decide : Selector.finalized ∈ awaited .finished)⟩
    | failed => exact ⟨_, rfl, (by decide : Selector.failedHandled ∈ awaited .failed)⟩
    | final => cases ht
  ended s p event ht := by
    cases s with
    | final => trivial
    | _ => cases ht

end Upscale

/-! ### Deletions -/

namespace CascadingDelete

open ResourceFlow.Action

@[inherit_doc Upscale.awaited]
def awaited : State → List Selector
  | .init => [.start]
  | .datalakesDeleting => [.datalakesDeleted, .failed]
  | .freeIpaDeleting => [.freeIpaDeleted, .failed]
  | .resourcesDeleting => [.resourcesDeleted, .failed]
  | .finished => [.finalize]
  | .failed => [.failedHandled]
  | .final => []

@[inherit_doc Upscale.rank]
def rank : State → Nat
  | .init => 6
  | .datalakesDeleting => 5
  | .freeIpaDeleting => 4
  | .resourcesDeleting => 3
  | .finished => 2
  | .failed => 1
  | .final => 0

theorem yields_tolerate (forced : Bool) (e : CollaboratorError) :
    Yields (fun _ => True) (tolerate forced e) := by
  unfold tolerate
  split
  · exact yields_pure trivial
  · exact yields_throw _

theorem yields_deleteEach (forced : Bool) (l : List DatalakeSummary) :
    Yields (fun _ => True) (deleteEach forced l) := by
  -- One request for each, and a failure among them is tolerated or ends the action.
  induction l with
  | nil => exact yields_pure trivial
  | cons d rest ih =>
    refine Yields.bind (yields_ask _) ?_
    intro x _
    cases x with
    | ok _ => exact ih.bind fun _ _ => yields_pure trivial
    | error e => exact (yields_tolerate forced e).bind fun _ _ => ih

theorem yields_deleteDatalakes {polling : Polling} (hp : 0 < polling.interval)
    (p : FlowParameters) (environment : String) :
    Yields (fun _ => True) (deleteDatalakes polling p environment) := by
  refine Yields.bind (yields_orRaise _ _) ?_
  intro datalakes _
  refine Yields.bind (yields_deleteEach _ _) ?_
  intro deleting _
  cases deleting with
  | nil => exact yields_pure trivial
  | cons d rest => exact yields_wait hp

theorem yields_deleteFreeIpa {polling : Polling} (hp : 0 < polling.interval)
    (p : FlowParameters) (environment : String) :
    Yields (fun _ => True) (deleteFreeIpa polling p environment) := by
  refine Yields.bind (yields_ask _) ?_
  intro x _
  -- What is not there counts as deleted; what is being deleted is waited for.
  rcases x with (_ | _ | _) | _
  · exact yields_tolerate ..
  · exact yields_pure trivial
  · exact yields_tolerate ..
  · exact yields_wait hp

theorem yields_deleteResources (p : FlowParameters) (environment : String) :
    Yields (fun _ => True) (deleteResources p environment) := by
  refine Yields.bind (yields_ask _) ?_
  intro x _
  cases x with
  | ok _ => exact yields_pure trivial
  | error e => exact yields_tolerate ..

/-- What is done in a state that may fail leads on to the next state, or fails. -/
theorem yields_execute {polling : Polling} (hp : 0 < polling.interval) {s : State}
    (hs : Selector.failed ∈ awaited s) (p : FlowParameters) (e : vocabulary.Event) :
    Yields (fun next => ∃ e', next = some e' ∧ e'.selector ∈ awaited s)
      (execute polling s p e) := by
  cases s with
  | datalakesDeleting =>
    unfold execute
    dsimp only
    split
    · refine (yields_deleteDatalakes hp p e.resourceCrn).bind fun _ _ => yields_pure ⟨_, rfl, ?_⟩
      exact (by decide : Selector.datalakesDeleted ∈ awaited .datalakesDeleting)
    · exact yields_pure ⟨_, rfl,
        (by decide : Selector.datalakesDeleted ∈ awaited .datalakesDeleting)⟩
  | freeIpaDeleting =>
    refine (yields_deleteFreeIpa hp p e.resourceCrn).bind fun _ _ => yields_pure ⟨_, rfl, ?_⟩
    exact (by decide : Selector.freeIpaDeleted ∈ awaited .freeIpaDeleting)
  | resourcesDeleting =>
    refine (yields_deleteResources p e.resourceCrn).bind fun _ _ => yields_pure ⟨_, rfl, ?_⟩
    exact (by decide : Selector.resourcesDeleted ∈ awaited .resourcesDeleting)
  | _ => exact absurd hs (by decide)

theorem transition_isSome (s : State) : ∀ sel ∈ awaited s, (transition s sel).isSome := by
  cases s <;> decide

theorem rank_lt {s s' : State} {sel : Selector} (h : transition s sel = some s') :
    rank s' < rank s := by
  unfold transition at h
  split at h <;> cases h <;> decide

/-- Everything is a transition. -/
def plan (polling : Polling) (hp : 0 < polling.interval) :
    Plan (definition polling) (.ofList []) where
  awaits s event := event.selector ∈ awaited s
  rank := rank
  initial_ne := nofun
  failed_going := rfl
  going s event h := by
    cases s with
    | final => cases h
    | _ => rfl
  handled s event hd _ hh := by cases hh
  next s event hm _ := transition_isSome s event.selector hm
  descends s sel s' := rank_lt
  fails sel s' h := by
    cases sel with
    | failedHandled => cases h; rfl
    | _ => cases h
  entered s event s' p _ h ht := by
    have hfail : ∀ s, Selector.failed ∈ awaited s →
        ((definition polling).execute s p event).Ensures
          ((definition polling).LeadsOn (·.selector ∈ awaited s) s p event) :=
      fun s hs => Definition.leadsOn_of_yields (yields_execute hp hs p event) fun _ => hs
    cases s' with
    | init =>
      cases s <;> generalize event.selector = sel at h <;> cases sel <;> cases h
    | datalakesDeleting => exact hfail _ (by decide)
    | freeIpaDeleting => exact hfail _ (by decide)
    | resourcesDeleting => exact hfail _ (by decide)
    | finished => exact ⟨_, rfl, (by decide : Selector.finalize ∈ awaited .finished)⟩
    | failed => exact ⟨_, rfl, (by decide : Selector.failedHandled ∈ awaited .failed)⟩
    | final => cases ht
  ended s p event ht := by
    cases s with
    | final => trivial
    | _ => cases ht

end CascadingDelete

/-! ### Collections -/

namespace Diagnostics

open ResourceFlow.Action

@[inherit_doc Upscale.awaited]
def awaited : State → List Selector
  | .init => [.startInit]
  | .initializing => [.init, .startUpgrade, .failed]
  | .upgrading => [.upgrade, .startEnsureMachineUser, .failed]
  | .ensuringMachineUser => [.ensureMachineUser, .startCollection, .failed]
  | .collecting => [.collect, .startCleanup, .failed]
  | .cleaningUp => [.cleanup, .finish, .failed]
  | .finished => [.finalize]
  | .failed => [.failedHandled]
  | .final => []

@[inherit_doc Upscale.rank]
def rank : State → Nat
  | .init => 8
  | .initializing => 7
  | .upgrading => 6
  | .ensuringMachineUser => 5
  | .collecting => 4
  | .cleaningUp => 3
  | .finished => 2
  | .failed => 1
  | .final => 0

/-! What the work of each stage answers with. -/

theorem yields_prepare (flow : Option FlowId) (e : vocabulary.Event) :
    Yields (fun next => next.selector = .startUpgrade) (prepare flow e) := by
  refine Yields.bind (yields_orRaise _ _) ?_
  intro _ _
  exact yields_pure rfl

theorem yields_upgrade (settings : TelemetrySettings) (e : vocabulary.Event) :
    Yields (fun next => next.selector = .startEnsureMachineUser) (upgrade settings e) := by
  have hu : Yields (fun _ => True) (TelemetryService.upgrade settings e.resourceId .cdpTelemetry
      (some (targets e.payload))) := by
    refine Yields.bind (yields_orRaise _ _) ?_
    intro metadata _
    exact yields_orRaise _ _
  refine (yields_adapt hu _).bind ?_
  intro _ _
  exact yields_pure rfl

theorem yields_ensureMachineUser (e : vocabulary.Event) :
    Yields (fun next => next.selector = .startCollection) (ensureMachineUser e) := by
  unfold ensureMachineUser
  split
  · refine Yields.bind (yields_orRaise _ _) ?_
    intro credential _
    exact yields_pure rfl
  · exact yields_pure rfl

theorem yields_collect (e : vocabulary.Event) :
    Yields (fun next => next.selector = .startCleanup) (collect e) := by
  refine Yields.bind (yields_orRaise _ _) ?_
  intro _ _
  exact yields_pure rfl

theorem yields_cleanup (e : vocabulary.Event) :
    Yields (fun next => next.selector = .finish) (cleanup e) := by
  refine Yields.bind (yields_orRaise _ _) ?_
  intro _ _
  exact yields_pure rfl

/-- A stage answers with one selector, or with the failure event. -/
theorem stageHandler_answers (settings : TelemetrySettings) {selector target : Selector}
    {type : FailureType}
    {accept : Option FlowId → vocabulary.Event → Action ActionError vocabulary.Event}
    {event : vocabulary.Event} {s : State}
    (hy : ∀ flow e, Yields (fun next => next.selector = target) (accept flow e))
    (ht : target ∈ awaited s) (hf : .failed ∈ awaited s)
    (hn : (Dispatcher.ofList (handlers settings)).handler? target = none) :
    (stageHandler selector type accept).Answers event fun next => next.selector ∈ awaited s ∧
      (Dispatcher.ofList (handlers settings)).handler? next.selector = none := by
  refine Handler.answers_of_yields (accept · event) (fun _ => rfl) ?_ (fun _ => ⟨hf, rfl⟩)
  intro flow
  refine (hy flow event).mono ?_
  intro next hnext
  rw [hnext]
  exact ⟨ht, hn⟩

/-- The state that asks for the work that the events of a selector ask for. -/
def stage? : Selector → Option State
  | .init => some .initializing
  | .upgrade => some .upgrading
  | .ensureMachineUser => some .ensuringMachineUser
  | .collect => some .collecting
  | .cleanup => some .cleaningUp
  | _ => none

theorem handler?_isSome (settings : TelemetrySettings) (sel : Selector) :
    ((Dispatcher.ofList (handlers settings)).handler? sel).isSome = (stage? sel).isSome := by
  cases sel <;> rfl

/-- A state awaits work of its own stage only. -/
theorem stage_of_awaited (s : State) : ∀ sel ∈ awaited s, ∀ s' ∈ stage? sel, s = s' := by
  cases s <;> decide

theorem transition_isSome (s : State) :
    ∀ sel ∈ awaited s, stage? sel = none → (transition s sel).isSome := by
  cases s <;> decide

theorem rank_lt {s s' : State} {sel : Selector} (h : transition s sel = some s') :
    rank s' < rank s := by
  unfold transition at h
  split at h <;> cases h <;> first | decide | (cases s <;> first | decide | simp_all)

/-- The work of the stages is done by handlers; everything else is a transition. -/
def plan (settings : TelemetrySettings) : Plan definition (.ofList (handlers settings)) where
  awaits s event := event.selector ∈ awaited s
  rank := rank
  initial_ne := by decide
  failed_going := rfl
  going s event h := by
    cases s with
    | final => cases h
    | _ => rfl
  handled s event hd hm hh := by
    -- The work is asked for in the state of its stage.
    have hs := stage_of_awaited s event.selector hm
    generalize event.selector = sel at hs hh
    cases sel with
    | init =>
      cases hh
      obtain rfl := hs _ rfl
      exact stageHandler_answers settings yields_prepare (by decide) (by decide) rfl
    | upgrade =>
      cases hh
      obtain rfl := hs _ rfl
      exact stageHandler_answers settings (fun _ => yields_upgrade settings) (by decide)
        (by decide) rfl
    | ensureMachineUser =>
      cases hh
      obtain rfl := hs _ rfl
      exact stageHandler_answers settings (fun _ => yields_ensureMachineUser) (by decide)
        (by decide) rfl
    | collect =>
      cases hh
      obtain rfl := hs _ rfl
      exact stageHandler_answers settings (fun _ => yields_collect) (by decide) (by decide) rfl
    | cleanup =>
      cases hh
      obtain rfl := hs _ rfl
      exact stageHandler_answers settings (fun _ => yields_cleanup) (by decide) (by decide) rfl
    | _ => cases hh
  next s event hm hh := by
    have hn : (stage? event.selector).isSome = false := by
      rw [← handler?_isSome settings, hh]
      rfl
    exact transition_isSome s event.selector hm (by simpa using hn)
  descends s sel s' := rank_lt
  fails sel s' h := by
    cases sel with
    | failedHandled => cases h; rfl
    | _ => cases h
  entered s event s' p _ h ht := by
    cases s' with
    | init =>
      -- No transition leads back to the start.
      cases s <;> generalize event.selector = sel at h <;> cases sel <;> cases h
    | initializing => exact ⟨_, rfl, (by decide : Selector.init ∈ awaited .initializing)⟩
    | upgrading => exact ⟨_, rfl, (by decide : Selector.upgrade ∈ awaited .upgrading)⟩
    | ensuringMachineUser =>
      exact ⟨_, rfl, (by decide : Selector.ensureMachineUser ∈ awaited .ensuringMachineUser)⟩
    | collecting => exact ⟨_, rfl, (by decide : Selector.collect ∈ awaited .collecting)⟩
    | cleaningUp => exact ⟨_, rfl, (by decide : Selector.cleanup ∈ awaited .cleaningUp)⟩
    | finished => exact ⟨_, rfl, (by decide : Selector.finalize ∈ awaited .finished)⟩
    | failed => exact ⟨_, rfl, (by decide : Selector.failedHandled ∈ awaited .failed)⟩
    | final => cases ht
  ended s p event _ := trivial

end Diagnostics

/-! ### All of them -/

/-- The built-in flows with their handlers, with waits that pause between attempts. -/
inductive BuiltIn :
    (V : Vocabulary) → Definition V Collaborators → List (Handler V Collaborators) → Prop where
  /-- Upscales. -/
  | upscale (polling : Polling) (hp : 0 < polling.interval) :
      BuiltIn Upscale.vocabulary Upscale.definition (Upscale.handlers polling)
  /-- Deletions. -/
  | deletion (polling : Polling) (hp : 0 < polling.interval) :
      BuiltIn CascadingDelete.vocabulary (CascadingDelete.definition polling) []
  /-- Collections. -/
  | collection (settings : TelemetrySettings) :
      BuiltIn Diagnostics.vocabulary Diagnostics.definition (Diagnostics.handlers settings)

namespace BuiltIn

variable {V : Vocabulary} {d : Definition V Collaborators} {hs : List (Handler V Collaborators)}

/-- Each has a plan that awaits whatever is meant to start it. -/
theorem plan (h : BuiltIn V d hs) : ∃ P : Plan d (.ofList hs),
    ∀ event, event.selector = d.start → P.awaits d.initial event := by
  cases h with
  | upscale polling hp =>
    refine ⟨Upscale.plan polling hp, fun event hstart => ?_⟩
    exact List.mem_singleton.mpr hstart
  | deletion polling hp =>
    refine ⟨CascadingDelete.plan polling hp, fun event hstart => ?_⟩
    exact List.mem_singleton.mpr hstart
  | collection settings =>
    refine ⟨Diagnostics.plan settings, fun event hstart => ?_⟩
    exact List.mem_singleton.mpr hstart

/-- The end has one name in all of them. -/
theorem stateName_final (h : BuiltIn V d hs) {s : V.State} (ht : d.isTerminal s = true) :
    V.stateName s = "FINAL" := by
  cases h <;> cases s <;> first | rfl | cases ht

end BuiltIn

end ResourceFlow
