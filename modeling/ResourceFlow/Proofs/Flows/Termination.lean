import ResourceFlow.Proofs.Flows.BuiltIn
import ResourceFlow.Proofs.World.Started
/-! # Built-in flows end

  Upscales, deletions and collections end in every fair execution, whatever
  collaborators answer, whenever a cancel is asked for and whatever other
  flows do, if no event is delivered to them from outside
  (`World.builtIn_ends`).

  Cancels, like everything else, come in wherever a task waits. What may come
  in on several threads, between dropping the record of a resource and freeing
  its lane, is the matter of `Threads`.
-/

namespace ResourceFlow

namespace World

namespace Execution

variable {V : Vocabulary} {I : Interface} {E : Execution V I} {e : EngineId} {d : Definition V I}
  {hs : List (Handler V I)}

/-- How a flow with a plan ends: in step `n`; `i` is its instance then. -/
structure EndsByPlan (E : Execution V I) (d : Definition V I) (e : EngineId) (f : FlowId)
    (r : ResourceId) (n : Nat) (i : Instance V) : Prop where
  /-- The step ends it. -/
  ends : E.EndsIn e f n i
  /-- It has ended. -/
  terminal : i.status.isTerminal = true
  /-- The lane is free. -/
  lane : (E.world (n + 1)).lane? r = none
  /-- Nothing is recorded of the resource. -/
  status : (E.world (n + 1)).status? r = none
  /-- No task ever has the flow in hand again. -/
  idle : ∀ (m : Nat) (t : TaskId) (k : Task V I) (l : LockId) (p : FlowParameters), n < m →
    (E.world m).tasks[t]? = some k → k.work.inHand? = some (l, p) → p.flow ≠ f
  /-- It began in the initial state. -/
  begins : i.history.head? = some d.initial
  /-- It visited no state twice. -/
  nodup : i.history.Nodup
  /-- Unless it was cancelled, it came to the end, with the failed state right before or not at all,
      and it failed exactly if it visited that. -/
  final : i.status ≠ .cancelled → ∃ before s, i.history = before ++ [s] ∧
    V.stateName s = "FINAL" ∧ (d.failedState ∈ i.history → before.getLast? = some d.failedState) ∧
    (i.status = .failed ↔ d.failedState ∈ i.history)
  /-- At no time is a caller told that it waits for an event from outside, nor of an event without
      transition. -/
  settled : ∀ (m : Nat) (t : TaskId) (k : Task V I) (o : Origin) (outcome : Outcome V),
    (E.world m).tasks[t]? = some k → k.work = .process o f (.over outcome) →
    Outcome.Settled outcome

/-- So ends a flow that is started on a free lane, if the end is called by its name. -/
theorem endsByPlan_of_start (P : Plan d (.ofList hs))
    (hfinal : ∀ s, d.isTerminal s = true → V.stateName s = "FINAL")
    {engines : List (Definition V I × List (Handler V I) × Nat)} (h₀ : E.world 0 = initial engines)
    (hf : E.Fair) {retention : Nat} (he : engines[e]? = some (d, hs, retention))
    {n₀ serial : Nat} {q : StartRequest V} (hstart : P.awaits d.initial (q.event d.start))
    (hl : E.label n₀ = .start e serial q) (hfree : (E.world n₀).lane? q.resourceId = none)
    (hno : ∀ n e' event, E.label n ≠ .dispatch e' (.opened serial) event) :
    ∃ n i, n₀ < n ∧ E.EndsByPlan d e (.opened serial) q.resourceId n i := by
  obtain ⟨n, i, hn, hends, hi, hlane, hstatus, hafter⟩ :=
    ends_of_start h₀ hf he P hstart hl hfree hno
  refine ⟨n, i, hn, hends, FlowStatus.isTerminal_iff.mpr hi.status, hlane, hstatus, ?_, hi.begins,
    hi.nodup, ?_, ?_⟩
  · intro m t k l p hm hk hp
    exact (hafter m hm).not_inHand hk hp
  · intro hc
    obtain ⟨before, s, hh, hter, hlast, hfailed⟩ := hi.final hc
    exact ⟨before, s, hh, hfinal s hter, hlast, hfailed⟩
  · intro m t k o outcome hk hw
    exact settled_of_start h₀ he P hstart hl hfree hno hk hw

end Execution

/-- A built-in flow that is started on a free lane ends in every fair execution in which no event is
    delivered to it. Whatever the engines, payload and flags, the answers of collaborators, the
    cancels and the order of steps:

    - some step `n` ends the flow; after it the lane is free, nothing is recorded of the resource,
      and no task ever has the flow in hand again, so no more events of it are processed;
    - its history begins in the initial state and visits no state twice;
    - unless it is cancelled, its history ends in `FINAL`; the failed state comes right before, or
      not at all, and the status is failed exactly if the failed state was visited;
    - at no time is a caller told that the flow waits for an event from outside, nor of an event
      without transition. -/
theorem builtIn_ends {V : Vocabulary} {d : Definition V Collaborators}
    {hs : List (Handler V Collaborators)} (hb : BuiltIn V d hs)
    {engines : List (Definition V Collaborators × List (Handler V Collaborators) × Nat)}
    {E : Execution V Collaborators} (h₀ : E.world 0 = initial engines) (hf : E.Fair)
    {e : EngineId} {retention : Nat} (he : engines[e]? = some (d, hs, retention))
    {n₀ serial : Nat} {q : StartRequest V} (hl : E.label n₀ = .start e serial q)
    (hfree : (E.world n₀).lane? q.resourceId = none)
    (hno : ∀ n e' event, E.label n ≠ .dispatch e' (.opened serial) event) :
    ∃ n i, n₀ < n ∧ E.EndsIn e (.opened serial) n i ∧ i.status.isTerminal = true ∧
      (E.world (n + 1)).lane? q.resourceId = none ∧
      (E.world (n + 1)).status? q.resourceId = none ∧
      (∀ (m : Nat) (t : TaskId) (k : Task V Collaborators) (l : LockId) (p : FlowParameters),
        n < m → (E.world m).tasks[t]? = some k → k.work.inHand? = some (l, p) →
        p.flow ≠ .opened serial) ∧
      i.history.head? = some d.initial ∧ i.history.Nodup ∧
      (i.status ≠ .cancelled → ∃ before s, i.history = before ++ [s] ∧ V.stateName s = "FINAL" ∧
        (d.failedState ∈ i.history → before.getLast? = some d.failedState) ∧
        (i.status = .failed ↔ d.failedState ∈ i.history)) ∧
      ∀ (m : Nat) (t : TaskId) (k : Task V Collaborators) (o : Origin) (outcome : Outcome V),
        (E.world m).tasks[t]? = some k → k.work = .process o (.opened serial) (.over outcome) →
        Outcome.Settled outcome := by
  obtain ⟨P, hstart⟩ := hb.plan
  obtain ⟨n, i, hn, hi⟩ := Execution.endsByPlan_of_start P (fun _ => hb.stateName_final) h₀ hf he
    (hstart _ rfl) hl hfree hno
  exact ⟨n, i, hn, hi.ends, hi.terminal, hi.lane, hi.status, hi.idle, hi.begins, hi.nodup,
    hi.final, hi.settled⟩

/-- Everything that is asked for is accepted, and what was deleted is gone at once. -/
def deletedAtOnce : Collaborators.Reply
  | .deleteFreeIpa .. => .ok ()
  | _ => .error (.notFound "gone")

/-- A forced deletion. -/
def deletionRequest : StartRequest CascadingDelete.vocabulary where
  resourceId := 7
  resourceCrn := "environment"
  forced := true
  payload := default

/-- The deletion from its start to its end. -/
def deletionRun : List (Label CascadingDelete.vocabulary Collaborators) :=
  .start 0 0 deletionRequest :: List.replicate 15 (.run 0 deletedAtOnce)

/-- The world after the deletion. -/
def deleted : World CascadingDelete.vocabulary Collaborators :=
  ((initial deletionEngines).follow deletionRun).get rfl

/-- The deletion, after which only time passes. -/
def deletion : Execution CascadingDelete.vocabulary Collaborators :=
  .ofFollow (show (initial deletionEngines).follow deletionRun = some deleted from rfl)

/-- The deletion comes to its end. -/
theorem builtIn_ends_deletion : deletion.Fair ∧
    ∃ n i, deletion.EndsIn 0 (.opened 0) n i ∧ i.status.isTerminal = true ∧
      (deletion.world (n + 1)).lane? 7 = none ∧ i.history.Nodup := by
  have hf : deletion.Fair := Execution.fair_ofFollow _ deletedAtOnce (by decide)
  have hno : ∀ n e' event, deletion.label n ≠ .dispatch e' (.opened 0) event := by
    intro n e' event
    show deletionRun.getD n (.elapse 1) ≠ _
    rw [List.getD_eq_getElem?_getD]
    cases hn : deletionRun[n]? with
    | none => exact nofun
    | some l =>
      have hm := List.mem_of_getElem? hn
      unfold deletionRun at hm
      rw [List.mem_cons, List.mem_replicate] at hm
      rcases hm with rfl | ⟨-, rfl⟩ <;> exact nofun
  obtain ⟨n, i, -, hends, hterm, hlane, -, -, -, hnodup, -⟩ :=
    builtIn_ends (E := deletion) (.deletion ⟨1, 10, false⟩ (by decide))
      (show deletion.world 0 = initial deletionEngines from rfl) hf (e := 0) rfl
      (show deletion.label 0 = .start 0 0 deletionRequest from rfl) rfl hno
  exact ⟨hf, n, i, hends, hterm, hlane, hnodup⟩

end World

end ResourceFlow
