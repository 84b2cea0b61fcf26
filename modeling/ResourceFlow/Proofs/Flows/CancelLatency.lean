import ResourceFlow.Proofs.Flows.Lineage
import ResourceFlow.Proofs.Flows.Termination
import ResourceFlow.Proofs.World.Latency
/-! # How soon upscales and deletions end after a cancel

  Upscales and deletions give way to cancels: each attempt of their waits
  makes one call, the waits are waits on the resource of the flow, or of the
  event that the handler was given, and after a wait there is only the next
  event (`Upscale.givesWay`, `CascadingDelete.givesWay`).

  The main result is `World.waits_cancelled_in_time`: if a cancel is recorded
  while such a flow is inside one of its waits, the flow ends as cancelled
  within the polling interval after the call that is in flight, and from the
  record on it makes no call and records nothing.
-/

namespace ResourceFlow

variable {polling : Polling} {r : ResourceId}

/-! ### Upscales -/

namespace Upscale

theorem callsOnce_operationWait (polling : Polling) (r : ResourceId) (operation account : String) :
    (operationWait polling r operation account).CallsOnce polling r where
  polling := rfl
  resource := rfl
  attempt _ := ⟨_, _, rfl, fun _ _ => ⟨_, rfl⟩⟩

/-- Nodes are counted with one call. -/
theorem givesWay_nodeCount (environment : String) (late : UInt64 → Prop) :
    Action.GivesWay polling r late (ExceptT.adapt ServiceError.toActionError
      (FreeIpaService.nodeCount environment)) := by
  intro answer
  cases answer with
  | ok description => trivial
  | error e => cases e <;> trivial

theorem givesWay_begin (x : vocabulary.Event) (late : Option vocabulary.Event → Prop) :
    (begin x).GivesWay polling r late := by
  refine (givesWay_nodeCount _ _).andThen fun current => ?_
  split
  · exact (Action.givesWay_orFail _ _).andThen fun operation => Action.givesWay_pure _
  · exact Action.givesWay_pure _

theorem givesWay_awaitOperation (polling : Polling) (x : vocabulary.Event) :
    (awaitOperation polling x).GivesWay polling x.resourceId fun _ => True := by
  unfold awaitOperation
  split
  · exact Action.givesWay_throw _
  · exact (Action.givesWay_wait (callsOnce_operationWait ..)).bind
      (fun _ => Action.givesWay_pure _) fun _ _ => ⟨_, rfl, trivial⟩

theorem givesWay (polling : Polling) :
    definition.GivesWay (.ofList (handlers polling)) polling where
  execute s p x := by
    cases s with
    | start => exact givesWay_begin x _
    | _ => trivial
  closed s p x hs := by
    cases s with
    | final => exact ⟨_, rfl⟩
    | _ => cases hs
  accept x hd flow hh := by
    cases hs : x.selector <;> rw [hs] at hh <;> cases hh
    exact givesWay_awaitOperation polling x

end Upscale

/-! ### Deletions -/

namespace CascadingDelete

theorem callsOnce_datalakesWait (polling : Polling) (r : ResourceId) (environment : String)
    (deleting : List String) :
    (datalakesWait polling r environment deleting).CallsOnce polling r where
  polling := rfl
  resource := rfl
  attempt _ := by
    refine ⟨_, _, rfl, fun answer _ => ?_⟩
    cases answer <;> exact ⟨_, rfl⟩

theorem callsOnce_freeIpaWait (polling : Polling) (r : ResourceId) (environment : String) :
    (freeIpaWait polling r environment).CallsOnce polling r where
  polling := rfl
  resource := rfl
  attempt _ := by
    refine ⟨_, _, rfl, fun answer _ => ?_⟩
    cases answer with
    | ok description => exact ⟨_, rfl⟩
    | error e => cases e <;> exact ⟨_, rfl⟩

theorem givesWay_tolerate (forced : Bool) (e : CollaboratorError) (late : Unit → Prop) :
    (tolerate forced e).GivesWay polling r late := by
  unfold tolerate
  split
  · exact Action.givesWay_pure _
  · exact Action.givesWay_throw _

theorem givesWay_deleteEach (forced : Bool) (lakes : List DatalakeSummary)
    (late : List String → Prop) : (deleteEach forced lakes).GivesWay polling r late := by
  induction lakes generalizing late with
  | nil => exact Action.givesWay_pure _
  | cons lake rest ih =>
    refine (Action.givesWay_ask _ _).andThen fun answer => ?_
    cases answer with
    | ok _ => exact (ih _).andThen fun deleted => Action.givesWay_pure _
    | error e => exact (givesWay_tolerate ..).andThen fun _ => ih _

theorem givesWay_deleteDatalakes (polling : Polling) (p : FlowParameters) (environment : String) :
    (deleteDatalakes polling p environment).GivesWay polling p.resourceId fun _ => True := by
  refine (Action.givesWay_orFail _ _).andThen fun lakes => ?_
  refine (givesWay_deleteEach ..).andThen fun deleting => ?_
  split
  · exact Action.givesWay_pure _
  · exact Action.givesWay_wait (callsOnce_datalakesWait ..)

theorem givesWay_deleteFreeIpa (polling : Polling) (p : FlowParameters) (environment : String) :
    (deleteFreeIpa polling p environment).GivesWay polling p.resourceId fun _ => True := by
  refine (Action.givesWay_ask _ _).andThen fun answer => ?_
  split
  · exact Action.givesWay_wait (callsOnce_freeIpaWait ..)
  · exact Action.givesWay_pure _
  · exact givesWay_tolerate ..

theorem givesWay_deleteResources (p : FlowParameters) (environment : String) (late : Unit → Prop) :
    (deleteResources p environment).GivesWay polling r late := by
  refine (Action.givesWay_ask _ _).andThen fun answer => ?_
  split
  · exact Action.givesWay_pure _
  · exact givesWay_tolerate ..

/-- After a wait an action goes on with the next event only. -/
theorem givesWay_execute (polling : Polling) (s : State) (p : FlowParameters)
    (x : vocabulary.Event) :
    (execute polling s p x).GivesWay polling p.resourceId fun next => next.isSome = true := by
  unfold execute
  cases s with
  | datalakesDeleting =>
    dsimp only
    split
    · exact (givesWay_deleteDatalakes polling p _).bind (fun _ => Action.givesWay_pure _)
        fun _ _ => ⟨_, rfl, rfl⟩
    · exact Action.givesWay_pure _
  | freeIpaDeleting =>
    exact (givesWay_deleteFreeIpa polling p _).bind (fun _ => Action.givesWay_pure _)
      fun _ _ => ⟨_, rfl, rfl⟩
  | resourcesDeleting =>
    exact (givesWay_deleteResources p _ _).andThen fun _ => Action.givesWay_pure _
  | _ => exact Action.givesWay_pure _

theorem givesWay (polling : Polling) :
    (definition polling).GivesWay (.ofList []) polling where
  execute s p x := givesWay_execute polling s p x
  closed s p x hs := by
    cases s with
    | final => exact ⟨_, rfl⟩
    | _ => cases hs
  accept _ _ _ hh := by cases hh

end CascadingDelete

/-! ### Cancels during a wait -/

/-- The built-in flows that wait, and the polling of their waits. -/
inductive PollingFlow (polling : Polling) :
    (V : Vocabulary) → Definition V Collaborators → List (Handler V Collaborators) → Prop where
  /-- Upscales. -/
  | upscale : PollingFlow polling Upscale.vocabulary Upscale.definition (Upscale.handlers polling)
  /-- Deletions. -/
  | deletion :
      PollingFlow polling CascadingDelete.vocabulary (CascadingDelete.definition polling) []

namespace PollingFlow

variable {V : Vocabulary} {d : Definition V Collaborators} {hs : List (Handler V Collaborators)}

theorem givesWay (h : PollingFlow polling V d hs) : d.GivesWay (.ofList hs) polling := by
  cases h with
  | upscale => exact Upscale.givesWay polling
  | deletion => exact CascadingDelete.givesWay polling

theorem builds (h : PollingFlow polling V d hs) : d.Builds (.ofList hs) := by
  cases h with
  | upscale => exact Upscale.builds polling
  | deletion => exact CascadingDelete.builds polling

end PollingFlow

namespace World

/-- If a cancel of an upscale or a deletion is recorded while a task is inside one of its waits, the
    flow ends as cancelled within the polling interval, counted from the record or from the end of
    the call that is in flight then; and from the record on, no call is made for the flow and
    nothing is recorded of it. This holds for every polling, whatever collaborators answer and
    however long that takes, if no event is delivered to the flow and time does not pass its tasks
    by. -/
theorem waits_cancelled_in_time {V : Vocabulary} {d : Definition V Collaborators}
    {hs : List (Handler V Collaborators)} (hw : PollingFlow polling V d hs)
    {engines : List (Definition V Collaborators × List (Handler V Collaborators) × Nat)}
    {E : Execution V Collaborators} (h₀ : E.world 0 = initial engines) {e : EngineId}
    {retention : Nat} (he : engines[e]? = some (d, hs, retention)) {f : FlowId}
    (hfair : E.Fair) (hprompt : E.Prompt f) (hno : ∀ n e' x, E.label n ≠ .dispatch e' f x)
    {c : Nat} (hrec : CancelRecorded (E.world c) (E.world (c + 1)) r f) {t : TaskId}
    {k : Task V Collaborators} (hk : (E.world c).tasks[t]? = some k) (hke : k.engine = e)
    (hflow : k.work.flow? = some f) (hwait : k.work.InWait) :
    E.CancelledInTime e f t c polling.interval :=
  Execution.cancelled_in_time h₀ he hw.builds hw.givesWay hfair hprompt hno hrec hk hke hflow hwait

/-- The identity service is asked to be deleted, and nobody can tell whether it is gone. -/
def neverGone : Collaborators.Reply
  | .deleteFreeIpa .. => .ok ()
  | _ => .error (.transport "slow")

/-- A deletion waits for the identity service to be gone. A cancel is recorded during a call. Some
    time later the call fails; the deletion pauses for the interval, and ends. -/
def slowCallRun : List (Label CascadingDelete.vocabulary Collaborators) :=
  let run := fun t => .run t neverGone
  .start 0 0 deletionRequest :: List.replicate 6 (run 0) ++
    [.elapse 2, .cancel 0 7, run 1, .elapse 3, run 0, run 0, .elapse 1, run 0, run 0, run 1]

/-- The world after that run. -/
def slowCallOver : World CascadingDelete.vocabulary Collaborators :=
  ((initial deletionEngines).follow slowCallRun).get rfl

theorem follow_slowCallRun : (initial deletionEngines).follow slowCallRun = some slowCallOver := rfl

/-- That run, after which only time passes. -/
def slowCall : Execution CascadingDelete.vocabulary Collaborators := .ofFollow follow_slowCallRun

/-- The cancel is recorded at time two, the call is back at time five, and the flow ends as
    cancelled at time six at the latest. -/
theorem waits_cancelled_in_time_slowCall :
    slowCall.Fair ∧ slowCall.Prompt (.opened 0) ∧
    CancelRecorded (slowCall.world 9) (slowCall.world 10) 7 (.opened 0) ∧
    (slowCall.world 9).now = 2 ∧ slowCall.CallEnds 9 0 5 ∧
    slowCall.EndsBy 0 (.opened 0) 10 6 ∧
    ∀ n, 9 ≤ n → ∀ e' time q,
      .asked time q ∉ (slowCall.world n).said (slowCall.world (n + 1)) e' (.opened 0)
        (slowCall.label n) := by
  have hover : ∀ k ∈ slowCallOver.tasks, k.work.result?.isSome = true := by decide
  have hfair : slowCall.Fair := Execution.fair_ofFollow _ neverGone hover
  have hprompt : slowCall.Prompt (.opened 0) :=
    Execution.prompt_ofFollow follow_slowCallRun neverGone hover (by decide)
  have hrec : CancelRecorded (slowCall.world 9) (slowCall.world 10) 7 (.opened 0) :=
    ⟨1, _, _, 0, rfl, rfl, rfl, rfl⟩
  have hback : slowCall.CallEnds 9 0 5 := by
    refine .answered (m := 11) rfl rfl (by decide) rfl ?_
    intro j hj hj' reply
    rcases show j = 9 ∨ j = 10 by omega with rfl | rfl <;> exact nofun
  have hcancelled := waits_cancelled_in_time (E := slowCall) (e := 0) .deletion
    (show slowCall.world 0 = initial deletionEngines from rfl) rfl hfair hprompt
    (fun n e' x => Execution.undelivered_ofFollow _ rfl (.opened 0) n e' x) hrec (t := 0) rfl rfl
    rfl trivial
  exact ⟨hfair, hprompt, hrec, rfl, hback, hcancelled.ends _ hback, hcancelled.silent⟩

end World

end ResourceFlow
