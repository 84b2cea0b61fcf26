import ResourceFlow.Proofs.Flows.BuiltIn
import ResourceFlow.Proofs.World.Provenance
/-! # The built-in flows build their events

  Upscales, deletions and collections build every event from the event at
  hand, whatever collaborators answer and whatever the settings. So as long as
  no event comes from outside, their records name the resource of the flow
  (`World.resource_of_builtIn_records`).
-/

namespace ResourceFlow

/-! ### Upscales -/

namespace Upscale

theorem stems_begin {x y : vocabulary.Event} (h : (begin x).run.CanEnd (.ok (some y))) :
    y.StemsFrom x := by
  unfold begin at h
  obtain ⟨current, h⟩ := Action.canEnd_of_bind h
  split at h
  · obtain ⟨operation, h⟩ := Action.canEnd_of_bind h
    cases h
    exact (Event.stemsFrom_withOperationId _ _).trans (Event.stemsFrom_followUp x _)
  · cases h
    exact Event.stemsFrom_followUp x _

theorem stems_awaitOperation {polling : Polling} {x y : vocabulary.Event}
    (h : (awaitOperation polling x).run.CanEnd (.ok y)) : y.StemsFrom x := by
  unfold awaitOperation at h
  split at h
  · cases h
  · obtain ⟨-, h⟩ := Action.canEnd_of_bind h
    cases h
    exact Event.stemsFrom_followUp x _

theorem builds (polling : Polling) : definition.Builds (.ofList (handlers polling)) where
  action s p x y h := by
    cases s with
    | init | final => cases h
    | start => exact stems_begin h
    | inProgress | finished | failed =>
      cases h
      exact Event.stemsFrom_followUp x _
  failure _ _ x _ := Event.stemsFrom_failed x _ _ _
  handler x hd flow y hh h := by
    cases hs : x.selector <;> rw [hs] at hh <;> cases hh
    exact stems_awaitOperation h
  handlerFailure x hd error hh := by
    cases hs : x.selector <;> rw [hs] at hh <;> cases hh
    exact Event.stemsFrom_failed x _ _ _

end Upscale

/-! ### Deletions -/

namespace CascadingDelete

/-- Whatever is done first, the event that an action answers with is the next one. -/
theorem stems_execute {polling : Polling} {s : State} {p : FlowParameters} {x y : vocabulary.Event}
    (h : (execute polling s p x).run.CanEnd (.ok (some y))) : y.StemsFrom x := by
  unfold execute at h
  cases s with
  | init | final => cases h
  | finished | failed =>
    cases h
    exact Event.stemsFrom_followUp x _
  | datalakesDeleting =>
    dsimp only at h
    split at h
    · obtain ⟨-, h⟩ := Action.canEnd_of_bind h
      cases h
      exact Event.stemsFrom_followUp x _
    · cases h
      exact Event.stemsFrom_followUp x _
  | freeIpaDeleting | resourcesDeleting =>
    obtain ⟨-, h⟩ := Action.canEnd_of_bind h
    cases h
    exact Event.stemsFrom_followUp x _

theorem builds (polling : Polling) : (definition polling).Builds (.ofList []) where
  action _ _ _ _ h := stems_execute h
  failure _ _ x _ := Event.stemsFrom_failed x _ _ _
  handler _ _ _ _ hh _ := by cases hh
  handlerFailure _ _ _ hh := by cases hh

end CascadingDelete

/-! ### Collections -/

namespace Diagnostics

theorem stems_prepare {flow : Option FlowId} {x y : vocabulary.Event}
    (h : (prepare flow x).run.CanEnd (.ok y)) : y.StemsFrom x := by
  obtain ⟨-, h⟩ := Action.canEnd_of_bind h
  cases h
  exact Event.stemsFrom_followUpWith x _ _

theorem stems_upgrade {settings : TelemetrySettings} {x y : vocabulary.Event}
    (h : (upgrade settings x).run.CanEnd (.ok y)) : y.StemsFrom x := by
  obtain ⟨-, h⟩ := Action.canEnd_of_bind h
  cases h
  exact Event.stemsFrom_followUp x _

theorem stems_ensureMachineUser {x y : vocabulary.Event}
    (h : (ensureMachineUser x).run.CanEnd (.ok y)) : y.StemsFrom x := by
  unfold ensureMachineUser at h
  split at h
  · obtain ⟨credential, h⟩ := Action.canEnd_of_bind h
    cases h
    exact Event.stemsFrom_followUpWith x _ _
  · cases h
    exact Event.stemsFrom_followUpWith x _ _

theorem stems_collect {x y : vocabulary.Event} (h : (collect x).run.CanEnd (.ok y)) :
    y.StemsFrom x := by
  obtain ⟨-, h⟩ := Action.canEnd_of_bind h
  cases h
  exact Event.stemsFrom_followUp x _

theorem stems_cleanup {x y : vocabulary.Event} (h : (cleanup x).run.CanEnd (.ok y)) :
    y.StemsFrom x := by
  obtain ⟨-, h⟩ := Action.canEnd_of_bind h
  cases h
  exact Event.stemsFrom_followUp x _

theorem builds (settings : TelemetrySettings) :
    definition.Builds (.ofList (handlers settings)) where
  action s p x y h := by
    cases s <;> cases h <;> exact Event.stemsFrom_followUp x _
  failure _ _ x _ := Event.stemsFrom_failed x _ _ _
  handler x hd flow y hh h := by
    cases hs : x.selector <;> rw [hs] at hh <;> cases hh
    · exact stems_prepare h
    · exact stems_upgrade h
    · exact stems_ensureMachineUser h
    · exact stems_collect h
    · exact stems_cleanup h
  handlerFailure x hd error hh := by
    cases hs : x.selector <;> rw [hs] at hh <;> cases hh <;> exact Event.stemsFrom_failed x _ _ _

end Diagnostics

/-! ### Records -/

theorem BuiltIn.builds {V : Vocabulary} {d : Definition V Collaborators}
    {hs : List (Handler V Collaborators)} (h : BuiltIn V d hs) : d.Builds (.ofList hs) := by
  cases h with
  | upscale polling => exact Upscale.builds polling
  | deletion polling => exact CascadingDelete.builds polling
  | collection settings => exact Diagnostics.builds settings

/-- The records of a built-in flow to which no event is delivered name its resource. -/
theorem World.resource_of_builtIn_records {V : Vocabulary} {d : Definition V Collaborators}
    {hs : List (Handler V Collaborators)} (hb : BuiltIn V d hs)
    {engines : List (Definition V Collaborators × List (Handler V Collaborators) × Nat)}
    {E : Execution V Collaborators} (h₀ : E.world 0 = initial engines) {e : EngineId}
    {retention : Nat} (he : engines[e]? = some (d, hs, retention)) {f : FlowId} {n m : Nat}
    {i : Instance V} (hi : (E.world m).instance? e f = some i)
    (hno : ∀ k event, E.label k ≠ .dispatch e f event) {a : AuditRecord}
    (ha : a ∈ (E.world n).records e f) :
    a.resourceId = i.params.resourceId ∧ a.resourceCrn = i.params.resourceCrn :=
  Execution.resource_of_mem_records h₀ he hb.builds hi (fun k x hl => absurd hl (hno k x)) ha

end ResourceFlow
