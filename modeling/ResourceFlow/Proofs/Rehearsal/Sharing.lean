import ResourceFlow.Proofs.Flows.Shared
import ResourceFlow.Rehearsal.Request
/-! # The built-in flows share the registry of a rehearsal

  In a rehearsal upscales, deletions and collections run side by side. The
  embeddings of their vocabularies are lawful, no two calls to collaborators
  are made as one, and the payloads of upscales and deletions are not ones of
  collections. So all that is proved of them on shared registries holds there,
  as for a deletion that is under way when an upscale is asked for
  (`deletion_beside_upscale`).
-/

namespace ResourceFlow.Rehearsal

open World

/-! ### The vocabularies -/

theorem upscale_lawful : upscale.Lawful where
  state? s t := by cases t <;> simp [upscale, eq_comm]
  selector? sel t := by cases t <;> simp [upscale, eq_comm]
  payload? p t := by cases t <;> simp [upscale, eq_comm]
  stateName _ := rfl
  selectorName _ := rfl
  payloadJson _ := rfl

theorem deletion_lawful : deletion.Lawful where
  state? s t := by cases t <;> simp [deletion, eq_comm]
  selector? sel t := by cases t <;> simp [deletion, eq_comm]
  payload? p t := by cases t <;> simp [deletion, eq_comm]
  stateName _ := rfl
  selectorName _ := rfl
  payloadJson _ := rfl

theorem diagnostics_lawful : diagnostics.Lawful where
  state? s t := by cases t <;> simp [diagnostics, eq_comm]
  selector? sel t := by cases t <;> simp [diagnostics, eq_comm]
  payload? p t := by cases t <;> simp [diagnostics, eq_comm]
  stateName _ := rfl
  selectorName _ := rfl
  payloadJson _ := rfl

theorem upscale_apart (p : Upscale.Payload) (p' : DiagnosticsParameters) :
    upscale.payload p ≠ diagnostics.payload p' := nofun

theorem deletion_apart (p : EnvironmentView) (p' : DiagnosticsParameters) :
    deletion.payload p ≠ diagnostics.payload p' := nofun

theorem collaboratorCalls_injective : Function.Injective collaboratorCalls.call := by
  intro q q' h
  injection h

/-- A built-in flow as a rehearsal runs it. -/
inductive Runs : Definition vocabulary Requests → List (Handler vocabulary Requests) → Prop where
  /-- An upscale. -/
  | upscaling (polling : Polling) :
      Runs (upscale.definition collaboratorCalls Upscale.definition)
        ((Upscale.handlers polling).map (upscale.handler collaboratorCalls))
  /-- A deletion. -/
  | deleting (polling : Polling) :
      Runs (deletion.definition collaboratorCalls (CascadingDelete.definition polling)) []
  /-- A collection. -/
  | collecting (settings : TelemetrySettings) :
      Runs (diagnostics.definition collaboratorCalls Diagnostics.definition)
        ((Diagnostics.handlers settings).map (diagnostics.handler collaboratorCalls))

/-- No built-in flow of a rehearsal tells the private keys of collections apart. -/
theorem Runs.hosts {d : Definition vocabulary Requests} {hs : List (Handler vocabulary Requests)}
    (h : Runs d hs) : Diagnostics.Hosts diagnostics collaboratorCalls d hs := by
  cases h with
  | upscaling polling => exact .other upscale_lawful upscale_apart (Upscale.keyless polling)
  | deleting polling =>
    exact .other deletion_lawful deletion_apart (CascadingDelete.keyless polling)
  | collecting settings => exact .collection settings

/-- Nobody can tell with which private keys collections were rehearsed, whatever built-in flows were
    rehearsed beside them. -/
theorem private_key_unseen_rehearsed
    {engines : List (Definition vocabulary Requests × List (Handler vocabulary Requests) × Nat)}
    (hengines : ∀ d hs k, (d, hs, k) ∈ engines → Runs d hs)
    {E E' : Execution vocabulary Requests} (h₀ : E.world 0 = initial engines)
    (h₀' : E'.world 0 = initial engines)
    (hl : E.Beside (Diagnostics.secrecyAmong diagnostics_lawful collaboratorCalls) E') (n : Nat) :
    (E.world n).Indistinguishable (E'.world n) :=
  (private_key_unseen_shared diagnostics_lawful
    (fun d hs k hmem => (hengines d hs k hmem).hosts) h₀ hl).2 E' h₀' rfl n

/-! ### A deletion beside an upscale -/

/-- An engine for deletions and one for upscales. -/
def sharedEngines :
    List (Definition vocabulary Requests × List (Handler vocabulary Requests) × Nat) := [
  (deletion.definition collaboratorCalls (CascadingDelete.definition ⟨1, 10, false⟩), [], 1),
  (upscale.definition collaboratorCalls Upscale.definition,
    (Upscale.handlers ⟨1, 10, false⟩).map (upscale.handler collaboratorCalls), 1)]

/-- Collaborators answer so, and there is nothing to tell of anything else. -/
def answering (ρ : Collaborators.Reply) : Requests.Reply
  | .collaborator q => ρ q
  | q => Response.done.reply q

/-- The deletion from its start to its end; an upscale is asked for while it is under way. -/
def sharedRun : List (Label vocabulary Requests) :=
  .start 0 0 (deletion.request haltRequest) :: .start 1 1 (upscale.request upscaleRequest) ::
    List.replicate 11 (.run 0 (answering secondRefused))

/-- The world after the deletion. -/
def sharedEnd : World vocabulary Requests :=
  ((initial sharedEngines).follow sharedRun).get rfl

theorem follow_sharedRun : (initial sharedEngines).follow sharedRun = some sharedEnd := rfl

/-- The deletion beside the upscale, after which only time passes. -/
def shared : Execution vocabulary Requests := .ofFollow follow_sharedRun

/-- The talk of the deletion comes through the link. -/
theorem carries_haltTalk : collaboratorCalls.Carries haltTalk (shared.talk 0 (.opened 0) 13) :=
  .cons (.asked _ _) <| .cons (.told _ _ _) <| .cons (.asked _ _) <| .cons (.told _ _ _) <|
    .cons (.asked _ _) <| .cons (.told _ _ _) .nil

/-- The upscale is refused, and the deletion ends as it would have without. -/
theorem deletion_beside_upscale : shared.Fair ∧
    ((shared.world 2).tasks[1]?).map (·.work) =
      some (.refused (.conflict 7 (.opened 0) "environment-deletion")) ∧
    ∃ n j, shared.EndsIn 0 (.opened 0) n j ∧ j.status = .failed ∧
      j.history = [CascadingDelete.State.init, .datalakesDeleting, .failed, .final].map
        deletion.state := by
  have hf : shared.Fair := Execution.fair_ofFollow _ (answering secondRefused) (by decide)
  obtain ⟨n, j, hends⟩ := deletion_outcome_shared (E := shared) (e := 0) deletion_lawful
    (show shared.world 0 = initial sharedEngines from rfl) rfl
    (show shared.label 0 = .start 0 0 (deletion.request haltRequest) from rfl) rfl
    (fun n e' event => Execution.undelivered_ofFollow _ rfl (.opened 0) n e' event)
    collaboratorCalls_injective hf (show 0 < (⟨1, 10, false⟩ : Polling).interval by decide)
  have hn : n < 13 := Execution.EndsIn.lt_length hends.ends rfl
  obtain ⟨i, own, rfl, hc, hexplained⟩ := hends.explained
    (hends.calm fun m => Execution.unrecorded_ofFollow _ rfl m 7 (.opened 0))
  rw [← hends.silent 13 (Nat.le_of_lt hn)] at hc
  obtain rfl := hc.unique collaboratorCalls_injective carries_haltTalk
  obtain ⟨hhistory, -⟩ := hexplained.cause _ _ fails_haltTalk
  exact ⟨hf, rfl, n, _, hends.ends, hexplained.failed.mpr ⟨_, _, fails_haltTalk⟩,
    congrArg (List.map deletion.state) hhistory⟩

end ResourceFlow.Rehearsal
