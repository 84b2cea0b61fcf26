import ResourceFlow.Proofs.Flows.BuiltIn
import ResourceFlow.Proofs.World.Closing
/-! # How a collection of diagnostics ends

  A collection prepares the nodes, upgrades their telemetry, makes sure of a
  credential where the bundle goes to support, collects and cleans up. The
  calls that this takes are written down as a `Script`, in which a call may
  depend on the answers to those before it. A run of a script makes its calls
  in order and stops at the first that fails (`Script.Runs`).

  `Diagnostics.script` is the script of a collection. Its account
  (`Diagnostics.account`) carries from handler to handler how far the script
  was followed: after every event, what is ahead of the run is what the event
  and its payload stand for (`Diagnostics.ahead`). How a collection ends
  follows for every fair execution (`World.diagnostics_outcome`).
-/

namespace ResourceFlow

namespace Diagnostics

open ResourceFlow.Action

/-! ### Scripts -/

/-- Calls that are made one after the other, as long as they succeed. -/
inductive Script where
  /-- There is nothing more to call. -/
  | done
  /-- A call, and what follows its answer. -/
  | call (q : Call) (next : q.Value → Script)

/-- The category of the failure where a call of a collection fails. -/
def category : Call → FailureType
  | .initDiagnostics .. => .initialization
  | .stackMetadata _ | .updateTelemetry .. => .upgrade
  | .databusCredential _ => .umsResourceCheck
  | .collectDiagnostics .. => .collection
  | .cleanupDiagnostics .. => .cleanup
  | _ => .unset

namespace Script

/-- The calls of a script up to one point succeeded, with this talk; another script is ahead. -/
inductive Reaches : Script → Talk Collaborators → Script → Prop where
  /-- Nothing was called yet. -/
  | refl (s : Script) : Reaches s [] s
  /-- The first call succeeded. -/
  | call {q : Call} {next : q.Value → Script} {talk : Talk Collaborators} {s : Script}
      (c c' : Duration) (v : q.Value) (h : Reaches (next v) talk s) :
      Reaches (.call q next) (.asked c q :: .told c' q (.ok v) :: talk) s

/-- All calls of a script were made, up to the first that failed, with this talk and this
    failure. -/
inductive Runs : Script → Talk Collaborators → Option Failure → Prop where
  /-- There was nothing to call. -/
  | done : Runs .done [] none
  /-- The first call failed. -/
  | failed {q : Call} {next : q.Value → Script} (c c' : Duration) (e : CollaboratorError) :
      Runs (.call q next) [.asked c q, .told c' q (.error e)] (some ⟨category q, e.message⟩)
  /-- The first call succeeded. -/
  | call {q : Call} {next : q.Value → Script} {talk : Talk Collaborators}
      {failure : Option Failure} (c c' : Duration) (v : q.Value)
      (h : Runs (next v) talk failure) :
      Runs (.call q next) (.asked c q :: .told c' q (.ok v) :: talk) failure

variable {s s' : Script} {talk talk' : Talk Collaborators} {failure : Option Failure}

/-- Following a script further. -/
theorem Reaches.runs (h : s.Reaches talk s') (h' : s'.Runs talk' failure) :
    s.Runs (talk ++ talk') failure := by
  induction h with
  | refl s => exact h'
  | call c c' v _ ih => exact .call c c' v (ih h')

/-- Following a script by one more call. -/
theorem Reaches.answered {q : Call} {next : q.Value → Script}
    (h : s.Reaches talk (.call q next)) (c c' : Duration) (v : q.Value) :
    s.Reaches (talk ++ [.asked c q] ++ [.told c' q (.ok v)]) (next v) := by
  generalize hs : Script.call q next = s' at h
  induction h with
  | refl s =>
    subst hs
    exact .call c c' v (.refl _)
  | call d d' v' _ ih => exact .call d d' v' (ih hs)

/-- A script of which nothing is ahead has run without a failure. -/
theorem Reaches.runs_of_done (h : s.Reaches talk .done) : s.Runs talk none := by
  have hr := h.runs .done
  rwa [List.append_nil] at hr

theorem Reaches.failed {q : Call} {next : q.Value → Script} (h : s.Reaches talk (.call q next))
    (c c' : Duration) (e : CollaboratorError) :
    s.Runs (talk ++ [.asked c q] ++ [.told c' q (.error e)])
      (some ⟨category q, e.message⟩) := by
  rw [List.append_assoc]
  exact h.runs (.failed c c' e)

/-- Every answer in the talk is a success. -/
def AllSucceed (talk : Talk Collaborators) : Prop :=
  ∀ c q x, (.told c q x : Entry Collaborators) ∈ talk → ∃ v, x = .ok v

theorem allSucceed_nil : AllSucceed [] := fun _ _ _ h => absurd h List.not_mem_nil

theorem allSucceed_cons {c c' : Duration} {q : Call} {v : q.Value} (h : AllSucceed talk) :
    AllSucceed (.asked c q :: .told c' q (.ok v) :: talk) := by
  intro d q' x hx
  rcases List.mem_cons.mp hx with hx | hx
  · cases hx
  · rcases List.mem_cons.mp hx with hx | hx
    · cases hx
      exact ⟨v, rfl⟩
    · exact h d q' x hx

/-- A run has no failure if every call succeeded. -/
theorem Runs.eq_none_iff (h : s.Runs talk failure) : failure = none ↔ AllSucceed talk := by
  induction h with
  | done => exact ⟨fun _ => allSucceed_nil, fun _ => rfl⟩
  | @failed q next c c' e =>
    refine ⟨nofun, fun hall => ?_⟩
    obtain ⟨v, hv⟩ := hall c' q (.error e) (.tail _ (.head _))
    cases hv
  | @call q next talk failure c c' v _ ih =>
    rw [ih]
    exact ⟨allSucceed_cons, fun hall d q' x hx => hall d q' x (.tail _ (.tail _ hx))⟩

/-- A failure is that of the last call, before which every call succeeded. -/
theorem Runs.last_of_failure {f : Failure} (h : s.Runs talk (some f)) :
    ∃ before c c' q e, talk = before ++ [.asked c q, .told c' q (.error e)] ∧
      AllSucceed before ∧ f = ⟨category q, e.message⟩ := by
  generalize hf : some f = failure at h
  induction h with
  | done => cases hf
  | @failed q next c c' e => exact ⟨[], c, c', q, e, rfl, allSucceed_nil, Option.some.inj hf⟩
  | call c c' v _ ih =>
    obtain ⟨before, d, d', q, e, rfl, hall, hf⟩ := ih hf
    exact ⟨_ :: _ :: before, d, d', q, e, rfl, allSucceed_cons hall, hf⟩

end Script

/-! ### The script of a collection -/

/-- The parameters with a credential, which replaces the two keys. -/
def keyed (p : DiagnosticsParameters) (credential : DatabusCredential) : DiagnosticsParameters :=
  { p with accessKey := some credential.accessKey, privateKey := some credential.privateKey }

/-- The nodes that pass the filter made of the hosts, the host groups and the excluded hosts. -/
def chosen (p : DiagnosticsParameters) (nodes : List Node) : List Node :=
  nodes.filter (NodeFilter.accepts
    { includeHosts := p.hosts, excludeHosts := p.excludeHosts, includeHostGroups := p.hostGroups })

section Script

variable (settings : TelemetrySettings) (r : ResourceId) (p : DiagnosticsParameters)

/-- What is left once diagnostics are collected. -/
def cleaning : Script := .call (.cleanupDiagnostics r p) fun _ => .done

/-- What is left once the credential is made sure of. -/
def collecting : Script := .call (.collectDiagnostics r p) fun _ => cleaning r p

/-- What is left once telemetry is upgraded. -/
def crediting : Script :=
  if p.destination = .support then
    .call (.databusCredential r) fun credential => collecting r (keyed p credential)
  else collecting r p

/-- What is left once the nodes are prepared. -/
def upgrading : Script :=
  .call (.stackMetadata r) fun metadata =>
    .call (.updateTelemetry metadata (chosen p metadata.nodes)
      { cdpTelemetry := settings.cdpTelemetry }) fun _ => crediting r p

/-- The calls of the collection of a flow, asked for with these parameters. -/
def script (f : FlowId) : Script :=
  .call (.initDiagnostics r { p with uuid := some f.text }) fun _ =>
    upgrading settings r { p with uuid := some f.text }

/-- The calls that are ahead when an event of a selector is at hand, with this payload. -/
def ahead (f : FlowId) : Selector → Script
  | .startInit | .init => script settings r p f
  | .startUpgrade | .upgrade => upgrading settings r p
  | .startEnsureMachineUser | .ensureMachineUser => crediting r p
  | .startCollection | .collect => collecting r p
  | .startCleanup | .cleanup => cleaning r p
  | .finish | .finalize | .failed | .failedHandled => .done

end Script

/-! ### What the stages say -/

variable {R : Rules Collaborators} {now : Duration} {event : vocabulary.Event} {s : Script}
  {talk : Talk Collaborators} {settings : TelemetrySettings} {f : FlowId}

/-- A call of the script, whatever is answered. -/
theorem obeys_call {ε : Type} {q : Call} {next : q.Value → Script}
    {Q : Duration → Talk Collaborators → Except ε q.Value → Prop}
    {raise : CollaboratorError → ε} (hallow : ∀ h q, R.allows h q)
    (hs : s.Reaches talk (.call q next))
    (hok : ∀ later talk v, s.Reaches talk (next v) → Q later talk (.ok v))
    (herror : ∀ later talk e, s.Runs talk (some ⟨category q, e.message⟩) →
      Q later talk (.error (raise e))) : Obeys R Q (q.orRaise raise) now talk := by
  refine obeys_orRaise (hallow _ _) ?_
  intro later x
  cases x with
  | ok v => exact hok later _ v (hs.answered now later v)
  | error e => exact herror later _ e (hs.failed now later e)

/-- What the work of a stage must come to: the script is followed up to the event that is answered
    with, or it ran into a failure of the stage's category. -/
def StageTo (s : Script) (settings : TelemetrySettings) (f : FlowId) (type : FailureType)
    (target : Selector) (event : vocabulary.Event) (talk : Talk Collaborators) :
    HandlerResult vocabulary → Prop
  | .ok next => next.selector = target ∧ next.resourceId = event.resourceId ∧
      s.Reaches talk (ahead settings event.resourceId next.payload f target)
  | .error e => ∃ message, e = .failed message ∧ s.Runs talk (some ⟨type, message⟩)

theorem obeys_prepare (hallow : ∀ h q, R.allows h q)
    (hs : s.Reaches talk (ahead settings event.resourceId event.payload f .init)) :
    Obeys R (fun _ talk r => StageTo s settings f .initialization .startUpgrade event talk r)
      (prepare (some f) event) now talk := by
  refine Obeys.bind (obeys_call hallow hs ?_ ?_)
  · exact fun later talk _ hs => obeys_pure ⟨rfl, rfl, hs⟩
  · exact fun later talk e hs => ⟨_, rfl, hs⟩

theorem obeys_upgrade (hallow : ∀ h q, R.allows h q)
    (hs : s.Reaches talk (ahead settings event.resourceId event.payload f .upgrade)) :
    Obeys R (fun _ talk r => StageTo s settings f .upgrade .startEnsureMachineUser event talk r)
      (upgrade settings event) now talk := by
  refine Obeys.bind (obeys_adapt (Obeys.bind (obeys_call hallow hs ?_ ?_)))
  · intro later talk metadata hs
    refine obeys_call hallow hs ?_ ?_
    · exact fun later talk _ hs => obeys_pure ⟨rfl, rfl, hs⟩
    · exact fun later talk e hs => ⟨_, rfl, hs⟩
  · exact fun later talk e hs => ⟨_, rfl, hs⟩

theorem obeys_ensureMachineUser (hallow : ∀ h q, R.allows h q)
    (hs : s.Reaches talk (ahead settings event.resourceId event.payload f .ensureMachineUser)) :
    Obeys R (fun _ talk r => StageTo s settings f .umsResourceCheck .startCollection event talk r)
      (ensureMachineUser event) now talk := by
  have hs : s.Reaches talk (crediting event.resourceId event.payload) := hs
  unfold ensureMachineUser
  unfold crediting at hs
  split at hs
  · rename_i hsupport
    rw [if_pos hsupport]
    refine Obeys.bind (obeys_call hallow hs ?_ ?_)
    · exact fun later talk credential hs => obeys_pure ⟨rfl, rfl, hs⟩
    · exact fun later talk e hs => ⟨_, rfl, hs⟩
  · rename_i hother
    rw [if_neg hother]
    exact obeys_pure ⟨rfl, rfl, hs⟩

theorem obeys_collect (hallow : ∀ h q, R.allows h q)
    (hs : s.Reaches talk (ahead settings event.resourceId event.payload f .collect)) :
    Obeys R (fun _ talk r => StageTo s settings f .collection .startCleanup event talk r)
      (collect event) now talk := by
  refine Obeys.bind (obeys_call hallow hs ?_ ?_)
  · exact fun later talk _ hs => obeys_pure ⟨rfl, rfl, hs⟩
  · exact fun later talk e hs => ⟨_, rfl, hs⟩

theorem obeys_cleanup (hallow : ∀ h q, R.allows h q)
    (hs : s.Reaches talk (ahead settings event.resourceId event.payload f .cleanup)) :
    Obeys R (fun _ talk r => StageTo s settings f .cleanup .finish event talk r)
      (cleanup event) now talk := by
  refine Obeys.bind (obeys_call hallow hs ?_ ?_)
  · exact fun later talk _ hs => obeys_pure ⟨rfl, rfl, hs⟩
  · exact fun later talk e hs => ⟨_, rfl, hs⟩

/-! ### The account -/

/-- The script of a run, asked for with these parameters. -/
def scriptOf (settings : TelemetrySettings) (p : DiagnosticsParameters) (q : FlowParameters) :
    Script :=
  script settings q.resourceId p q.flow

/-- What was said when an event of a selector is at hand, and what the run and the event keep of
    it. -/
def AtHand (settings : TelemetrySettings) (p : DiagnosticsParameters) (i : Instance vocabulary)
    (event : vocabulary.Event) (talk : Talk Collaborators) : Selector → Prop
  | .failed => ∃ failure, event.failure = some failure ∧
      (scriptOf settings p i.params).Runs talk (some failure)
  | .failedHandled => ∃ failure, i.failure = some failure ∧
      (scriptOf settings p i.params).Runs talk (some failure)
  | selector => i.failure = none ∧ (scriptOf settings p i.params).Reaches talk
      (ahead settings i.params.resourceId event.payload i.params.flow selector)

/-- An event that the run's state awaits is at hand. -/
structure Ready (settings : TelemetrySettings) (p : DiagnosticsParameters)
    (i : Instance vocabulary) (event : vocabulary.Event) (talk : Talk Collaborators) : Prop where
  /-- It is about the run's resource. -/
  resource : event.resourceId = i.params.resourceId
  /-- The state awaits it. -/
  awaited : event.selector ∈ awaited i.state
  /-- What was said fits the event. -/
  atHand : AtHand settings p i event talk event.selector

section Account

variable {p : DiagnosticsParameters} {i : Instance vocabulary} {state : State}

/-- The selector of the event that the work of a stage answers with. -/
def reply : Selector → Selector
  | .init => .startUpgrade
  | .upgrade => .startEnsureMachineUser
  | .ensureMachineUser => .startCollection
  | .collect => .startCleanup
  | _ => .finish

/-- The state of a stage awaits the answer to its work, or that it failed. -/
theorem reply_mem_awaited (state : State) : ∀ selector ∈ awaited state,
    (stage? selector).isSome = true →
      reply selector ∈ awaited state ∧ .failed ∈ awaited state := by
  cases state <;> decide

/-- Where the work of a stage is at hand, nothing failed before. -/
theorem AtHand.reaches {selector : Selector} (ha : AtHand settings p i event talk selector)
    (hs : (stage? selector).isSome = true) : i.failure = none ∧
      (scriptOf settings p i.params).Reaches talk
        (ahead settings i.params.resourceId event.payload i.params.flow selector) := by
  cases selector <;> first | exact ha | cases hs

/-- So it is where a stage answers. -/
theorem atHand_reply (hn : i.failure = none) (selector : Selector)
    (hs : (scriptOf settings p i.params).Reaches talk
      (ahead settings i.params.resourceId event.payload i.params.flow (reply selector))) :
    AtHand settings p i event talk (reply selector) := by
  cases selector <;> exact ⟨hn, hs⟩

/-- The work of a stage follows the script. -/
theorem obeys_stage {selector : Selector} {hd : Handler vocabulary Collaborators}
    (hallow : ∀ h q, R.allows h q)
    (hh : (Dispatcher.ofList (handlers settings)).handler? selector = some hd)
    (hs : s.Reaches talk (ahead settings event.resourceId event.payload f selector)) :
    ∃ type accept, hd = stageHandler selector type accept ∧ Obeys R
      (fun _ talk r => StageTo s settings f type (reply selector) event talk r)
      (accept (some f) event) now talk := by
  cases selector with
  | init =>
    cases hh
    exact ⟨_, _, rfl, obeys_prepare hallow hs⟩
  | upgrade =>
    cases hh
    exact ⟨_, _, rfl, obeys_upgrade hallow hs⟩
  | ensureMachineUser =>
    cases hh
    exact ⟨_, _, rfl, obeys_ensureMachineUser hallow hs⟩
  | collect =>
    cases hh
    exact ⟨_, _, rfl, obeys_collect hallow hs⟩
  | cleanup =>
    cases hh
    exact ⟨_, _, rfl, obeys_cleanup hallow hs⟩
  | _ => cases hh

/-- What a stage came to is ready for the run. -/
theorem obeys_accept {hd : Handler vocabulary Collaborators} {cancelled : Prop}
    (hallow : ∀ h q, R.allows h q) (hr : Ready settings p i event talk)
    (hh : (Dispatcher.ofList (handlers settings)).handler? event.selector = some hd) :
    (hd.accept (some i.params.flow) event).Obeys R (fun _ talk r =>
      hd.Resumes event cancelled (Ready settings p i · talk) r) now talk := by
  obtain ⟨hresource, hawaited, hat⟩ := hr
  have hstage : (stage? event.selector).isSome = true := by
    rw [← handler?_isSome settings, hh]
    rfl
  obtain ⟨hreply, hfailed⟩ := reply_mem_awaited i.state event.selector hawaited hstage
  obtain ⟨hn, hs⟩ := hat.reaches hstage
  rw [← hresource] at hs
  obtain ⟨type, accept, rfl, hobeys⟩ := obeys_stage hallow hh hs
  refine hobeys.mono fun _ talk r h => ?_
  cases r with
  | ok next =>
    obtain ⟨hnext, hsame, hs⟩ := h
    rw [hresource] at hs
    refine ⟨hsame.trans hresource, hnext ▸ hreply, ?_⟩
    rw [hnext]
    exact atHand_reply hn _ hs
  | error e =>
    obtain ⟨message, rfl, hs⟩ := h
    exact ⟨nofun, fun _ => ⟨hresource, hfailed, _, rfl, hs⟩⟩

/-- What was said when a state is entered on an event at hand, and what the run and the event keep
    of it. -/
def Entered (settings : TelemetrySettings) (p : DiagnosticsParameters) (i : Instance vocabulary)
    (event : vocabulary.Event) (talk : Talk Collaborators) : State → Prop
  | .init => False
  | .final => (scriptOf settings p i.params).Runs talk i.failure
  | .failed => ∃ failure, event.failure = some failure ∧
      (scriptOf settings p i.params).Runs talk (some failure)
  | state => ∃ selector, request? state = some selector ∧ selector ∈ awaited state ∧
      i.failure = none ∧ (scriptOf settings p i.params).Reaches talk
        (ahead settings i.params.resourceId event.payload i.params.flow selector)

theorem AtHand.entered {selector : Selector} {old : State}
    (ha : AtHand settings p i event talk selector) (ht : transition old selector = some state) :
    Entered settings p i event talk state := by
  cases old <;> cases selector <;> cases ht
  case finished.finalize.refl =>
    obtain ⟨hn, hs⟩ := ha
    show (scriptOf settings p i.params).Runs talk i.failure
    rw [hn]
    exact hs.runs_of_done
  case failed.failedHandled.refl =>
    obtain ⟨failure, hf, hs⟩ := ha
    show (scriptOf settings p i.params).Runs talk i.failure
    rw [hf]
    exact hs
  all_goals first | exact ha | exact ⟨_, rfl, by decide, ha⟩

/-- A state that does not end the run asks for what is ahead. -/
theorem ready_entered (hr : Ready settings p i event talk)
    (ht : transition i.state event.selector = some state) (hter : isTerminal state = false) :
    ∃ next, (request? state).map event.followUp = some next ∧
      Ready settings p (definition.entered i state event) next talk := by
  have hs := hr.atHand.entered ht
  cases state with
  | init => exact absurd hs id
  | final => cases hter
  | failed =>
    obtain ⟨failure, hf, hs⟩ := hs
    refine ⟨_, rfl, hr.resource, (by decide : Selector.failedHandled ∈ awaited .failed), failure,
      ?_, hs⟩
    show some (event.failure.getD _) = some failure
    rw [hf]
    rfl
  | _ =>
    obtain ⟨selector, hselector, hawaited, hs⟩ := hs
    cases hselector
    exact ⟨_, rfl, hr.resource, hawaited, hs⟩

end Account

/-- The start event is at hand at the start. -/
theorem ready_start (settings : TelemetrySettings) (q : StartRequest vocabulary) (f : FlowId)
    (flowType : String) :
    Ready settings q.payload (.new (q.params f flowType) .init) (q.event .startInit) [] :=
  ⟨rfl, .head _, rfl, .refl _⟩

/-- Collections account for what they say: they follow their script. -/
def account (settings : TelemetrySettings) (p : DiagnosticsParameters)
    (seen : ResourceId → Prop) : Account definition (.ofList (handlers settings)) where
  seen := seen
  allows _ _ _ := True
  ready := Ready settings p
  closing i talk := (scriptOf settings p i.params).Runs talk i.failure
  going i event talk hr := (plan settings).going i.state event hr.awaited
  handled i event talk hd now hr hh := obeys_accept (fun _ _ => trivial) hr hh
  next i event talk hr hh := (plan settings).next i.state event hr.awaited hh
  entered i event talk state now hr _ ht hter := by
    obtain ⟨next, hnext, hready⟩ := ready_entered hr ht hter
    exact ⟨next, hnext, hready⟩
  closed i event talk state hr _ ht hter := by
    have hs := hr.atHand.entered ht
    cases state with
    | final => exact ⟨hs, none, rfl⟩
    | _ => cases hter

/-! ### The outcome -/

/-- How a run that was not cancelled ended, told by all that was said. -/
structure Explained (settings : TelemetrySettings) (r : ResourceId) (f : FlowId)
    (p : DiagnosticsParameters) (talk : Talk Collaborators) (i : Instance vocabulary) : Prop where
  /-- The calls are those of the script, in order, up to the first that failed. -/
  ordered : (script settings r p f).Runs talk i.failure
  /-- The run is finished if every call succeeded. -/
  finished : i.status = .finished ↔ Script.AllSucceed talk
  /-- Otherwise it failed, with the text and the category of the last call, which failed. -/
  failed : i.status ≠ .finished → i.status = .failed ∧ ∃ before c c' q e,
    talk = before ++ [.asked c q, .told c' q (.error e)] ∧ Script.AllSucceed before ∧
      i.failure = some ⟨category q, e.message⟩

theorem Explained.of_runs {r : ResourceId} {p : DiagnosticsParameters} {i : Instance vocabulary}
    (hr : (script settings r p f).Runs talk i.failure)
    (hs : i.status = if i.failure.isSome then .failed else .finished) :
    Explained settings r f p talk i where
  ordered := hr
  finished := by
    rw [← hr.eq_none_iff, hs]
    cases i.failure <;> simp
  failed hne := by
    cases hf : i.failure with
    | none =>
      rw [hs, hf] at hne
      exact absurd rfl hne
    | some failure =>
      rw [hf] at hr hs
      obtain ⟨before, c, c', q, e, htalk, hall, hfailure⟩ := hr.last_of_failure
      exact ⟨hs, before, c, c', q, e, htalk, hall, congrArg some hfailure⟩

/-- What was said when a terminal state was entered explains how the run ends there. -/
theorem explains (q : StartRequest vocabulary) (seen : ResourceId → Prop) :
    (account settings q.payload seen).Explains (q.params f definition.flowType)
      (Explained settings q.resourceId f q.payload) := by
  intro i talk s now hrun hparams hc _ hs
  have hc : (scriptOf settings q.payload i.params).Runs talk i.failure := hc
  rw [hparams] at hc
  refine .of_runs ?_ ?_
  · rwa [Instance.failure_finish]
  · rwa [Instance.status_finish_of_running hrun, Instance.failure_finish]

end Diagnostics

namespace World

section Outcome

variable {engines : List (Definition Diagnostics.vocabulary Collaborators ×
    List (Handler Diagnostics.vocabulary Collaborators) × Nat)}
  {E : Execution Diagnostics.vocabulary Collaborators} {e : EngineId}
  {settings : TelemetrySettings} {retention n₀ serial : Nat}
  {q : StartRequest Diagnostics.vocabulary}

/-- A collection that is started on a free lane and gets no event from outside ends in every fair
    execution, whatever its collaborators answer, and nothing is said after its end. It is
    cancelled only if a cancel of it is recorded, and otherwise it made the calls of its script in
    order, up to the first that failed, and ended as they did. -/
theorem diagnostics_outcome (h₀ : E.world 0 = initial engines) (hf : E.Fair)
    (he : engines[e]? = some (Diagnostics.definition, Diagnostics.handlers settings, retention))
    (hl : E.label n₀ = .start e serial q) (hfree : (E.world n₀).lane? q.resourceId = none)
    (hno : ∀ n e' event, E.label n ≠ .dispatch e' (.opened serial) event) :
    ∃ n i, E.EndsIn e (.opened serial) n i ∧
      (∀ m, n ≤ m → E.talk e (.opened serial) m = E.talk e (.opened serial) n) ∧
      ((∀ m, ¬ CancelRecorded (E.world m) (E.world (m + 1)) q.resourceId (.opened serial)) →
        i.status ≠ .cancelled) ∧
      (i.status ≠ .cancelled → Diagnostics.Explained settings q.resourceId (.opened serial)
        q.payload (E.talk e (.opened serial) n) i) := by
  obtain ⟨n, i, s, hc⟩ :=
    Execution.closes_of_start (Diagnostics.account settings q.payload) (Diagnostics.plan settings)
      h₀ hf he (fun _ _ => Iff.rfl) (.head _) (fun _ => Diagnostics.ready_start settings q _ _) hl
      hfree hno
  exact ⟨n, _, hc.ends, hc.silent, hc.uncancelled, hc.explained (Diagnostics.explains q _)⟩

end Outcome

/-- An engine that collects diagnostics. -/
def diagnosticsEngines : List (Definition Diagnostics.vocabulary Collaborators ×
    List (Handler Diagnostics.vocabulary Collaborators) × Nat) :=
  [(Diagnostics.definition, Diagnostics.handlers {}, 1)]

/-- A bundle from the masters is to go to support. -/
def diagnosticsRequest : StartRequest Diagnostics.vocabulary where
  resourceId := 7
  resourceCrn := "stack"
  payload := { destination := .support, hostGroups := ["master"], privateKey := some "old" }

/-- There are two nodes and a credential; nothing can be collected. -/
def uncollected : Collaborators.Reply
  | .initDiagnostics .. => .ok ()
  | .stackMetadata _ =>
    .ok ⟨7, [⟨"m", "10.0.0.1", none, "master"⟩, ⟨"w", "10.0.0.2", none, "worker"⟩]⟩
  | .updateTelemetry .. => .ok ()
  | .databusCredential _ => .ok ⟨"access", "private"⟩
  | _ => .error (.rejected "no space left")

/-- The collection from its start to its end. -/
def collectionRun : List (Label Diagnostics.vocabulary Collaborators) :=
  .start 0 0 diagnosticsRequest :: List.replicate 27 (.run 0 uncollected)

/-- The world after the collection. -/
def collected : World Diagnostics.vocabulary Collaborators :=
  ((initial diagnosticsEngines).follow collectionRun).get rfl

theorem follow_collectionRun :
    (initial diagnosticsEngines).follow collectionRun = some collected := rfl

/-- The collection, after which only time passes. -/
def collection : Execution Diagnostics.vocabulary Collaborators := .ofFollow follow_collectionRun

/-- Where nothing can be collected nothing is cleaned up, and the collection fails in that stage. -/
theorem diagnostics_outcome_collection : collection.Fair ∧
    ∃ n i, collection.EndsIn 0 (.opened 0) n i ∧ i.status = .failed ∧
      i.failure = some ⟨.collection, "no space left"⟩ ∧
      (collection.talk 0 (.opened 0) n).filterMap (fun
        | .asked _ q => some q
        | .told .. => none) = [
          .initDiagnostics 7 { diagnosticsRequest.payload with uuid := some "F0" },
          .stackMetadata 7,
          .updateTelemetry
            ⟨7, [⟨"m", "10.0.0.1", none, "master"⟩, ⟨"w", "10.0.0.2", none, "worker"⟩]⟩
            [⟨"m", "10.0.0.1", none, "master"⟩] {},
          .databusCredential 7,
          .collectDiagnostics 7 { diagnosticsRequest.payload with
            uuid := some "F0", accessKey := some "access", privateKey := some "private" }] := by
  have h₀ : collection.world 0 = initial diagnosticsEngines := rfl
  have hf : collection.Fair := Execution.fair_ofFollow _ uncollected (by decide)
  obtain ⟨n, i, hends, hsilent, hcalm, hexplained⟩ :=
    diagnostics_outcome (E := collection) h₀ hf rfl
      (show collection.label 0 = .start 0 0 diagnosticsRequest from rfl) rfl
      (fun n e' event => Execution.undelivered_ofFollow _ rfl (.opened 0) n e' event)
  have hexplained := hexplained <| hcalm fun m hrec => by
    obtain ⟨k, e, -, hl⟩ := Execution.asked_of_recorded h₀ hrec
    exact Execution.uncancelled_ofFollow _ rfl k e _ hl
  have hn : n ≤ 28 := by
    refine Nat.le_of_not_lt fun hlate => ?_
    -- After the last label of the run the collection does not run any more.
    obtain ⟨k, rfl⟩ := Nat.exists_eq_add_of_lt hlate
    have hruns := hends.runs
    rw [show collection.world (28 + k + 1) = { collected with now := collected.now + (k + 1) } from
      Execution.play_after follow_collectionRun (k + 1)] at hruns
    cases hruns
  have htalk := hsilent 28 hn
  refine ⟨hf, n, i, hends, ?_⟩
  rw [← htalk] at hexplained ⊢
  have hlast : (collection.talk 0 (.opened 0) 28).getLast? = some (.told 0
      (.collectDiagnostics 7 { diagnosticsRequest.payload with
        uuid := some "F0", accessKey := some "access", privateKey := some "private" })
      (.error (.rejected "no space left"))) := rfl
  have hunfinished : i.status ≠ .finished := by
    rw [Ne, hexplained.finished]
    intro hall
    obtain ⟨v, hv⟩ := hall _ _ _ (List.mem_of_getLast? hlast)
    cases hv
  obtain ⟨hstatus, before, c, c', q, err, hsaid, -, hfailure⟩ := hexplained.failed hunfinished
  refine ⟨hstatus, ?_, rfl⟩
  -- The failure is that of the last call.
  rw [hsaid, List.getLast?_append] at hlast
  cases hlast
  exact hfailure

end World

end ResourceFlow
