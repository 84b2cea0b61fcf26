import ResourceFlow.Proofs.Flows.DiagnosticsOutcome
import ResourceFlow.Proofs.World.Likeness
/-! # The private key stays secret

  A collection carries the private key with which its bundle is shipped in the
  payload of every event, and hands it on to the collaborators. Two payloads
  are alike if they differ in the private key only, and two answers if no
  answer depends on a key that was handed on, and if the credentials differ in
  the private key only (`Diagnostics.secrecy`). The handlers of a collection do
  not tell such payloads and answers apart (`Diagnostics.oblivious`).

  So two executions that differ in private keys cannot be told apart by what
  is recorded, logged, or seen by callers (`World.private_key_unseen`).
-/

namespace ResourceFlow

namespace Diagnostics

open ResourceFlow.Action

/-! ### What differs in private keys only -/

/-- The parameters, without the private key. -/
def redacted (p : DiagnosticsParameters) : DiagnosticsParameters := { p with privateKey := none }

/-- Whether a private key is handed on by a call, or handed out as its answer. -/
def carriesKey : Call → Bool
  | .initDiagnostics .. | .collectDiagnostics .. | .cleanupDiagnostics .. => true
  | .databusCredential _ => true
  | _ => false

/-- The answers are the same, but for the private keys of credentials, and no answer depends on a
    private key that was handed on. -/
structure Unrevealing (ρ ρ' : Collaborators.Reply) : Prop where
  /-- When nodes are prepared. -/
  init : ∀ r p p', redacted p' = redacted p →
    ρ' (.initDiagnostics r p') = ρ (.initDiagnostics r p)
  /-- When diagnostics are collected. -/
  collect : ∀ r p p', redacted p' = redacted p →
    ρ' (.collectDiagnostics r p') = ρ (.collectDiagnostics r p)
  /-- When leftovers are removed. -/
  cleanup : ∀ r p p', redacted p' = redacted p →
    ρ' (.cleanupDiagnostics r p') = ρ (.cleanupDiagnostics r p)
  /-- When a credential is asked for. -/
  credential : ∀ r, Likewise (fun c c' : DatabusCredential => c'.accessKey = c.accessKey)
    (ρ (.databusCredential r)) (ρ' (.databusCredential r))
  /-- All else does not deal with private keys. -/
  other : ∀ q, carriesKey q = false → ρ' q = ρ q

/-- The private key is not written. -/
theorem toJson_redacted (p : DiagnosticsParameters) : (redacted p).toJson = p.toJson := rfl

/-- What differs in private keys only, at whatever times. -/
def secrecy : Likeness vocabulary Collaborators where
  payload p p' := redacted p' = redacted p
  written {p p'} h := by
    show DiagnosticsParameters.toJson p' = DiagnosticsParameters.toJson p
    rw [← toJson_redacted p', h, toJson_redacted]
  reply := Unrevealing
  timed := False

variable {p p' : DiagnosticsParameters} {e e' : vocabulary.Event} {T : Prop}

theorem eq_of_redacted (h : redacted p' = redacted p) :
    p' = { p with privateKey := p'.privateKey } := by
  obtain ⟨_, _, _, _, _, _, _, _⟩ := p
  obtain ⟨_, _, _, _, _, _, _, _⟩ := p'
  injection h
  subst_vars
  rfl

theorem targets_of_redacted (h : redacted p' = redacted p) : targets p' = targets p := by
  rw [eq_of_redacted h]
  rfl

theorem destination_of_redacted (h : redacted p' = redacted p) :
    p'.destination = p.destination := by
  rw [eq_of_redacted h]

/-! ### Handlers -/

/-- Answers that are the same. -/
theorem likewise_of_eq {α : Type} {x y : Except CollaboratorError α} (h : y = x) :
    Likewise (fun a b => b = a) x y := by
  rw [h]
  cases x with
  | ok a => exact .ok rfl
  | error error => exact .error error

/-- Calls of a stage, with answers that are alike. -/
theorem resembles_orFail (q q' : Call) {R : q.Value → q'.Value → Prop}
    (h : ∀ ρ ρ' : Collaborators.Reply, Unrevealing ρ ρ' →
      Likewise R (ρ q : Except CollaboratorError q.Value) (ρ' q')) :
    Resembles Unrevealing T R q.orFail q'.orFail :=
  resembles_orRaise h

/-- A call that does not deal with private keys. -/
theorem resembles_other (q : Call) (hq : carriesKey q = false) {ε : Type}
    (raise : CollaboratorError → ε) :
    Resembles Unrevealing T (fun v v' => v' = v) (q.orRaise raise) (q.orRaise raise) :=
  resembles_orRaise fun _ _ hρ => likewise_of_eq (hρ.other q hq)

theorem resembles_prepare (flow : Option FlowId) (he : secrecy.Event e e') :
    Resembles Unrevealing T secrecy.Event (prepare flow e) (prepare flow e') := by
  have hp : redacted { e'.payload with uuid := flow.map FlowId.text } =
      redacted { e.payload with uuid := flow.map FlowId.text } := by
    rw [eq_of_redacted he.payload]
    rfl
  unfold prepare
  rw [he.resourceId]
  refine Resembles.bind (resembles_orFail (.initDiagnostics ..) (.initDiagnostics ..)
    fun ρ ρ' hρ => likewise_of_eq (hρ.init _ _ _ hp)) fun _ _ _ => resembles_pure ?_
  exact he.followUpWith .startUpgrade hp

theorem resembles_upgrade (settings : TelemetrySettings) (he : secrecy.Event e e') :
    Resembles Unrevealing T secrecy.Event (upgrade settings e) (upgrade settings e') := by
  have hupgrade : Resembles Unrevealing T (fun v v' => v' = v)
      (TelemetryService.upgrade settings e.resourceId .cdpTelemetry (some (targets e.payload)))
      (TelemetryService.upgrade settings e.resourceId .cdpTelemetry
        (some (targets e.payload))) := by
    -- Of the nodes of the stack, the same are upgraded.
    refine Resembles.bind (resembles_other (.stackMetadata _) rfl _) ?_
    rintro metadata _ rfl
    exact resembles_other (.updateTelemetry ..) rfl _
  unfold upgrade
  rw [he.resourceId, targets_of_redacted he.payload]
  exact (resembles_adapt hupgrade _).bind fun _ _ _ =>
    resembles_pure (he.followUp .startEnsureMachineUser)

theorem resembles_ensureMachineUser (he : secrecy.Event e e') :
    Resembles Unrevealing T secrecy.Event (ensureMachineUser e) (ensureMachineUser e') := by
  unfold ensureMachineUser
  rw [he.resourceId, destination_of_redacted he.payload]
  split
  · refine Resembles.bind (resembles_orFail (.databusCredential _) (.databusCredential _)
      fun ρ ρ' hρ => hρ.credential _) fun c c' hc => resembles_pure ?_
    refine he.followUpWith .startCollection ?_
    show redacted { e'.payload with accessKey := _, privateKey := _ } = _
    rw [eq_of_redacted he.payload, hc]
    rfl
  · exact resembles_pure (he.followUpWith .startCollection he.payload)

theorem resembles_collect (he : secrecy.Event e e') :
    Resembles Unrevealing T secrecy.Event (collect e) (collect e') := by
  unfold collect
  rw [he.resourceId]
  refine Resembles.bind (resembles_orFail (.collectDiagnostics ..) (.collectDiagnostics ..)
    fun ρ ρ' hρ => likewise_of_eq (hρ.collect _ _ _ he.payload)) fun _ _ _ => resembles_pure ?_
  exact he.followUp .startCleanup

theorem resembles_cleanup (he : secrecy.Event e e') :
    Resembles Unrevealing T secrecy.Event (cleanup e) (cleanup e') := by
  unfold cleanup
  rw [he.resourceId]
  refine Resembles.bind (resembles_orFail (.cleanupDiagnostics ..) (.cleanupDiagnostics ..)
    fun ρ ρ' hρ => likewise_of_eq (hρ.cleanup _ _ _ he.payload)) fun _ _ _ => resembles_pure ?_
  exact he.followUp .finish

/-- The work of every stage does not tell private keys apart. -/
theorem resembles_stage {settings : TelemetrySettings} {sel : Selector}
    {hd : Handler vocabulary Collaborators}
    (h : (Dispatcher.ofList (handlers settings)).handler? sel = some hd) :
    ∃ type accept, hd = stageHandler sel type accept ∧ ∀ f (e e' : vocabulary.Event),
      secrecy.Event e e' → Resembles Unrevealing T secrecy.Event (accept f e) (accept f e') := by
  cases sel with
  | init =>
    cases h
    exact ⟨_, _, rfl, fun f _ _ he => resembles_prepare f he⟩
  | upgrade =>
    cases h
    exact ⟨_, _, rfl, fun _ _ _ he => resembles_upgrade settings he⟩
  | ensureMachineUser =>
    cases h
    exact ⟨_, _, rfl, fun _ _ _ he => resembles_ensureMachineUser he⟩
  | collect =>
    cases h
    exact ⟨_, _, rfl, fun _ _ _ he => resembles_collect he⟩
  | cleanup =>
    cases h
    exact ⟨_, _, rfl, fun _ _ _ he => resembles_cleanup he⟩
  | _ => cases h

/-- A collection does not tell private keys apart. -/
theorem oblivious (settings : TelemetrySettings) :
    definition.Oblivious (.ofList (handlers settings)) secrecy where
  execute s _ _ _ he := by
    refine .done (.ok ?_)
    cases request? s with
    | none => exact .none
    | some selector => exact .some (he.followUp selector)
  actionFails _ _ error _ _ he := he.failed .failed (error.failureType .unset) error.message
  accept hh f e e' he := by
    obtain ⟨type, accept, rfl, hwork⟩ := resembles_stage hh
    exact hwork f e e' he
  handlerFails hh error _ _ he := by
    obtain ⟨type, accept, rfl, -⟩ := resembles_stage (T := secrecy.timed) hh
    exact he.failed .failed (error.failureType type) error.message

end Diagnostics

namespace World

open Diagnostics (secrecy)

variable {engines : List (Definition Diagnostics.vocabulary Collaborators ×
    List (Handler Diagnostics.vocabulary Collaborators) × Nat)}
  {E : Execution Diagnostics.vocabulary Collaborators}
  {label : Nat → Label Diagnostics.vocabulary Collaborators}

/-- Whatever other private keys collections are asked for with and collaborators hand out, the same
    can happen with them, and at no time the two worlds can be told apart. -/
theorem private_key_unseen
    (hengines : ∀ x ∈ engines, ∃ settings retention,
      x = (Diagnostics.definition, Diagnostics.handlers settings, retention))
    (h₀ : E.world 0 = initial engines)
    (hl : ∀ n, (E.label n).Resembles secrecy (label n)) :
    (∃ E' : Execution Diagnostics.vocabulary Collaborators,
      E'.world 0 = initial engines ∧ E'.label = label) ∧
    ∀ E' : Execution Diagnostics.vocabulary Collaborators, E'.world 0 = initial engines →
      E'.label = label → ∀ n, (E.world n).Indistinguishable (E'.world n) := by
  have hob : ∀ d hs k, (d, hs, k) ∈ engines → d.Oblivious (.ofList hs) secrecy := by
    intro d hs k hmem
    obtain ⟨settings, retention, heq⟩ := hengines _ hmem
    cases heq
    exact Diagnostics.oblivious settings
  exact indistinguishable_beside hob h₀ hl

/-- The machine user has another private key. -/
def rekeyed : Collaborators.Reply
  | .databusCredential _ => .ok ⟨"access", "fresh"⟩
  | q => uncollected q

theorem unrevealing_rekeyed : Diagnostics.Unrevealing uncollected rekeyed where
  init _ _ _ _ := rfl
  collect _ _ _ _ := rfl
  cleanup _ _ _ _ := rfl
  credential _ := .ok rfl
  other q hq := by cases q <;> first | rfl | cases hq

/-- The bundle is asked for without a private key. -/
def keylessRequest : StartRequest Diagnostics.vocabulary :=
  { diagnosticsRequest with payload := { diagnosticsRequest.payload with privateKey := none } }

/-- The collection from its start to its end, with other private keys. -/
def rekeyedRun : List (Label Diagnostics.vocabulary Collaborators) :=
  .start 0 0 keylessRequest :: List.replicate 27 (.run 0 rekeyed)

theorem resembles_rekeyedRun : List.Forall₂ (Label.Resembles secrecy) collectionRun rekeyedRun :=
  .cons (.start rfl rfl) (forall₂_replicate (.run unrevealing_rekeyed) 27)

/-- The collection could have gone on with other private keys, and nobody could have told. -/
theorem private_key_unseen_rekeyed :
    ∃ E' : Execution Diagnostics.vocabulary Collaborators,
      E'.world 0 = initial diagnosticsEngines ∧ E'.label = (rekeyedRun.getD · (.elapse 1)) ∧
      ∀ n, (collection.world n).Indistinguishable (E'.world n) := by
  have hengines : ∀ x ∈ diagnosticsEngines, ∃ settings retention,
      x = (Diagnostics.definition, Diagnostics.handlers settings, retention) := by
    intro x hx
    exact ⟨{}, 1, List.mem_singleton.mp hx⟩
  obtain ⟨⟨E', h₀', hl'⟩, hseen⟩ := private_key_unseen (E := collection) hengines rfl
    (fun n => rel_getD resembles_rekeyedRun (.elapse nofun) n)
  exact ⟨E', h₀', hl', hseen E' h₀' hl'⟩

end World

end ResourceFlow
