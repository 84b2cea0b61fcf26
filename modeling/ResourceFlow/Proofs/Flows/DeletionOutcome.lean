import ResourceFlow.Proofs.Flows.DeletionFailures
import ResourceFlow.Proofs.Flows.Termination
import ResourceFlow.Proofs.World.Closing
/-! # How a deletion ends

  A deletion goes through its states one after the other. Where something makes
  it fail it turns to the failed state, and keeps a failure of the category
  that belongs to the cause; otherwise it is finished.

  The account of a deletion (`CascadingDelete.conclusions`) carries what was
  said through the events and the states: on the way the parts before ended
  well (`OnWay`), and the failure of an event, and later of the run, is the one
  that the talk tells (`Reached`). How a deletion ends follows for every fair
  execution (`World.deletion_outcome`).
-/

namespace ResourceFlow

namespace CascadingDelete

open ResourceFlow.Action

variable {polling : Polling} {p : FlowParameters} {s : State} {type : FailureType}

/-! ### The account -/

/-- The states of a deletion that does not fail, up to its last one. -/
def way : List State :=
  [.init, .datalakesDeleting, .freeIpaDeleting, .resourcesDeleting, .finished]

/-- The way up to a state. -/
def wayTo (s : State) : List State := way.takeWhile (· ≠ s) ++ [s]

/-- What was said when a state on the way is entered. -/
def Before (polling : Polling) (p : FlowParameters) (talk : Talk Collaborators) : State → Prop
  | .datalakesDeleting => talk = []
  | .freeIpaDeleting => LakesTo polling p talk none
  | .resourcesDeleting => ∃ l l', talk = l ++ l' ∧ LakesTo polling p l none ∧
      FreeIpaTo polling p l' none
  | .finished => Concluded polling p talk none
  | .init | .failed | .final => False

/-- A run that has not failed comes to a state on the way. -/
structure OnWay (polling : Polling) (i : Instance vocabulary) (talk : Talk Collaborators)
    (s : State) : Prop where
  /-- No failure is recorded. -/
  unfailed : i.failure = none
  /-- The run went straight to the state. -/
  straight : i.history ++ [s] = wayTo s
  /-- What was said fits the state. -/
  before : Before polling i.params talk s

/-- A run is about to end, or has: it went all the way, or failed in some state and recorded that,
    as what was said tells. -/
inductive Reached (polling : Polling) (i : Instance vocabulary) (talk : Talk Collaborators)
    (rest : List State) : Prop where
  /-- It went all the way. -/
  | finished (hn : i.failure = none) (hh : i.history = wayTo .finished ++ rest)
      (h : Concluded polling i.params talk none)
  /-- It failed. -/
  | failed {s : State} {failure : Failure} (hf : i.failure = some failure)
      (hh : i.history = wayTo s ++ .failed :: rest)
      (h : Concluded polling i.params talk (some (s, failure.type)))

theorem Reached.enter_final {polling : Polling} {i : Instance vocabulary}
    {talk : Talk Collaborators} (h : Reached polling i talk []) :
    Reached polling (i.enter .final) talk [.final] := by
  cases h with
  | finished hn hh h =>
    refine .finished hn ?_ h
    show i.history ++ [.final] = _
    rw [hh, List.append_nil]
  | failed hf hh h =>
    refine .failed hf ?_ h
    show i.history ++ [.final] = _
    rw [hh, List.append_assoc]
    rfl

/-- What holds when a state is about to be entered on an event. -/
def Entering (polling : Polling) (i : Instance vocabulary) (event : vocabulary.Event)
    (talk : Talk Collaborators) : State → Prop
  | .failed => i.history = wayTo i.state ∧ ∃ failure, event.failure = some failure ∧
      Concluded polling i.params talk (some (i.state, failure.type))
  | .final => Reached polling i talk []
  | s => OnWay polling i talk s

/-- An event is at hand that leads to a state. -/
def AtHand (polling : Polling) (i : Instance vocabulary) (event : vocabulary.Event)
    (talk : Talk Collaborators) : Prop :=
  event.resourceCrn = i.params.resourceCrn ∧
    ∃ s, transition i.state event.selector = some s ∧ Entering polling i event talk s

/-- What was said when the work of a state is done: it leads on to the next one, or failed. -/
def Leads (polling : Polling) (p : FlowParameters) (s s' : State) (talk : Talk Collaborators) :
    Option FailureType → Prop
  | none => Before polling p talk s'
  | some type => Concluded polling p talk (some (s, type))

section Account

variable {R : Rules Collaborators} {i : Instance vocabulary} {event : vocabulary.Event}
  {s : State} {now : Duration} {h : Talk Collaborators}

/-- Entering a state on the way records no failure. -/
theorem entered_eq (hs : s ≠ .failed) : (definition polling).entered i s event = i.enter s :=
  if_neg hs

/-- The work of a state on the way leads on to the next one, or to the failed state. -/
theorem obeys_onWay (s' : State) {selector : Selector} {x : Action ActionError Unit}
    {cancelled : Prop} (hcrn : event.resourceCrn = i.params.resourceCrn) (hon : OnWay polling i h s)
    (hs : s ≠ .failed) (ht : transition s selector = some s')
    (hfail : transition s .failed = some .failed) (hway : wayTo s ++ [s'] = wayTo s')
    (hent : ∀ {i event talk}, OnWay polling i talk s' → Entering polling i event talk s')
    (hx : Obeys R (fun _ talk r => ComesTo cancelled (Leads polling i.params s s') [] talk r)
      x now h) :
    Obeys R (fun _ talk r => (definition polling).Resumes s i.params event cancelled
      (AtHand polling ((definition polling).entered i s event) · talk) r)
      (do x; return some (event.followUp selector)) now h := by
  rw [entered_eq hs]
  refine Obeys.bind (hx.mono ?_)
  intro now talk r hr
  cases r with
  | error e =>
    refine ⟨hr.1, fun hc => ⟨hcrn, .failed, hfail, hon.straight, _, rfl, ?_⟩⟩
    obtain ⟨_, rfl, hsaid⟩ := hr.2 hc
    exact hsaid
  | ok _ =>
    obtain ⟨_, rfl, hsaid⟩ := hr
    refine obeys_pure ⟨_, rfl, hcrn, s', ht, hent ⟨hon.unfailed, ?_, hsaid⟩⟩
    show i.history ++ [s] ++ [s'] = _
    rw [hon.straight, hway]

/-- Entering a state that does not end the run, the run says what leads on. -/
theorem obeys_entering (hallow : ∀ h q, R.allows h q)
    (hcrn : event.resourceCrn = i.params.resourceCrn) (hs : Entering polling i event h s)
    (hter : isTerminal s = false) :
    Obeys R (fun _ talk r =>
      (definition polling).Resumes s i.params event (R.seen i.params.resourceId)
        (AtHand polling ((definition polling).entered i s event) · talk) r)
      (execute polling s i.params event) now h := by
  cases s with
  | init => exact absurd hs.before id
  | final => cases hter
  | datalakesDeleting =>
    have hs : OnWay polling i h .datalakesDeleting := hs
    have hnil : h = [] := hs.before
    subst hnil
    unfold execute
    cases hc : i.params.cascading with
    | false =>
      exact obeys_onWay .freeIpaDeleting (x := pure ()) hcrn hs nofun rfl rfl rfl id
        (obeys_pure ⟨[], rfl, .spared hc⟩)
    | true =>
      rw [hcrn]
      refine obeys_onWay .freeIpaDeleting hcrn hs nofun rfl rfl rfl id
        ((obeys_deleteDatalakes hc (fun _ => hallow _ _) fun _ _ => hallow _ _).mono ?_)
      rintro _ _ r hr
      refine hr.imp fun said t ht => ⟨said, rfl, ?_⟩
      cases t with
      | none => exact ht
      | some type => exact .lakes ht
  | freeIpaDeleting =>
    have hs : OnWay polling i h .freeIpaDeleting := hs
    have hlakes : LakesTo polling i.params h none := hs.before
    unfold execute
    rw [hcrn]
    refine obeys_onWay .resourcesDeleting hcrn hs nofun rfl rfl rfl id
      ((obeys_deleteFreeIpa (hallow _ _) fun _ => hallow _ _).mono ?_)
    rintro _ _ r hr
    refine hr.imp fun said t ht => ⟨h ++ said, rfl, ?_⟩
    cases t with
    | none => exact ⟨h, said, rfl, hlakes, ht⟩
    | some type => exact .freeIpa hlakes ht
  | resourcesDeleting =>
    have hs : OnWay polling i h .resourcesDeleting := hs
    obtain ⟨l, l', rfl, hlakes, hfree⟩ := hs.before
    unfold execute
    rw [hcrn]
    refine obeys_onWay .finished hcrn hs nofun rfl rfl rfl id
      ((obeys_deleteResources (hallow _ _)).mono ?_)
    rintro _ _ r hr
    refine hr.imp fun said t ht => ⟨l ++ l' ++ said, rfl, ?_⟩
    cases t with
    | none => exact .resources hlakes hfree ht
    | some type => exact .resources hlakes hfree ht
  | finished =>
    have hs : OnWay polling i h .finished := hs
    rw [entered_eq (s := .finished) nofun]
    refine obeys_pure ⟨_, rfl, hcrn, .final, rfl, .finished hs.unfailed ?_ hs.before⟩
    rw [List.append_nil]
    exact hs.straight
  | failed =>
    obtain ⟨hhistory, failure, hfailure, hconcluded⟩ := hs
    refine obeys_pure ⟨_, rfl, ?_⟩
    refine ⟨hcrn, .final, rfl, .failed ?_ ?_ hconcluded⟩
    · show some (event.failure.getD _) = _
      rw [hfailure]
      rfl
    · show i.history ++ [.failed] = _
      rw [hhistory]

end Account

/-- Deletions account for how they end. -/
def conclusions (polling : Polling) (seen : ResourceId → Prop) :
    Account (definition polling) (.ofList []) where
  seen := seen
  allows _ _ _ := True
  ready := AtHand polling
  closing i talk := Reached polling i talk [.final]
  going i event talk h := by
    obtain ⟨-, s, ht, -⟩ := h
    cases hs : i.state with
    | final =>
      rw [hs] at ht
      cases ht
    | _ => rfl
  handled i event talk hd now _ hh := by cases hh
  next i event talk h _ := by
    obtain ⟨-, s, ht, -⟩ := h
    exact Option.isSome_iff_exists.mpr ⟨s, ht⟩
  entered i event talk s now h _ ht hter := by
    obtain ⟨hcrn, s', ht', hs⟩ := h
    obtain rfl := Option.some.inj (ht'.symm.trans ht)
    exact obeys_entering (fun _ _ => trivial) hcrn hs hter
  closed i event talk s h _ ht hter := by
    obtain ⟨-, s', ht', hs⟩ := h
    obtain rfl := Option.some.inj (ht'.symm.trans ht)
    cases s' with
    | final =>
      rw [entered_eq (s := .final) nofun]
      exact ⟨hs.enter_final, none, rfl⟩
    | _ => cases hter

/-- The start event is at hand at the start. -/
theorem atHand_start (polling : Polling) (q : StartRequest vocabulary) (f : FlowId)
    (flowType : String) :
    AtHand polling (.new (q.params f flowType) .init) (q.event .start) [] :=
  ⟨rfl, .datalakesDeleting, rfl, rfl, rfl, rfl⟩

/-! ### The outcome -/

/-- How a run that was not cancelled ended, told by all that was said. -/
structure Explained (polling : Polling) (p : FlowParameters) (talk : Talk Collaborators)
    (i : Instance vocabulary) : Prop where
  /-- It dealt with one part after the other, up to the one that failed, if any did. -/
  parts : ∃ o, Concluded polling p talk o ∧ (i.status = .finished ↔ o = none)
  /-- It failed exactly if something made it fail. -/
  failed : i.status = .failed ↔ ∃ s type, Fails polling p (saidIn s talk) s type
  /-- Otherwise it went all the way. -/
  finished : i.status ≠ .failed →
    i.status = .finished ∧ i.failure = none ∧ i.history = way ++ [.final]
  /-- It failed in the state where something made it fail, and the failure is of that category. -/
  cause : ∀ s type, Fails polling p (saidIn s talk) s type →
    i.history = wayTo s ++ [.failed, .final] ∧ ∃ cause, i.failure = some ⟨type, cause⟩
  /-- A failure is a timeout exactly if a wait timed out; every other one is of a deletion. -/
  timeout : ∀ failure, i.failure = some failure →
    (failure.type = .timeout ↔ ∃ s, WaitFails polling p (saidIn s talk) s .timeout) ∧
      (failure.type ≠ .timeout → failure.type = .deletion)
  /-- A forced run fails by its first listing or by a wait, and by no request to delete. -/
  tolerant : p.forced = true → (i.status = .failed ↔
    (p.cascading = true ∧ Unlisted p (saidIn .datalakesDeleting talk)) ∨
      ∃ s type, WaitFails polling p (saidIn s talk) s type)
  /-- In a run that is not forced, nothing is said after the first failure to delete a data lake. -/
  halted : p.forced = false → ∀ before c crn forced e after,
    talk = before ++ .told c (.deleteDatalake crn forced) (.error e) :: after → after = []
  /-- Data lakes are waited for only if some deletion was accepted. -/
  lakesWait : lakesPolled p (saidIn .datalakesDeleting talk) ≠ [] →
    acceptedCrns (saidIn .datalakesDeleting talk) ≠ []
  /-- The identity service is waited for only if its deletion was accepted. -/
  freeIpaWait : freeIpaPolled p (saidIn .freeIpaDeleting talk) ≠ [] →
    ∃ c, .told c (.deleteFreeIpa p.resourceCrn p.forced) (.ok ()) ∈ saidIn .freeIpaDeleting talk

/-- In a forced run, the only failures besides those of waits are those to list data lakes. -/
theorem exists_fails_of_forced {talk : Talk Collaborators} (hf : p.forced = true) :
    (∃ s type, Fails polling p (saidIn s talk) s type) ↔
      (p.cascading = true ∧ Unlisted p (saidIn .datalakesDeleting talk)) ∨
        ∃ s type, WaitFails polling p (saidIn s talk) s type := by
  constructor
  · rintro ⟨s, type, h⟩
    cases h with
    | unlisted hc h => exact .inl ⟨hc, h⟩
    | refused hno =>
      rw [hf] at hno
      cases hno
    | waited h => exact .inr ⟨_, _, h⟩
  · rintro (⟨hc, h⟩ | ⟨s, type, h⟩)
    · exact ⟨_, _, .unlisted hc h⟩
    · exact ⟨s, type, .waited h⟩

namespace Reached

variable {i : Instance vocabulary} {talk : Talk Collaborators} {rest : List State}

theorem concluded (h : Reached polling i talk rest) :
    ∃ o, Concluded polling i.params talk o ∧ (i.failure = none ↔ o = none) := by
  cases h with
  | finished hn _ h => exact ⟨_, h, fun _ => rfl, fun _ => hn⟩
  | failed hf _ h =>
    refine ⟨_, h, fun hn => ?_, nofun⟩
    rw [hf] at hn
    cases hn

/-- What makes the run fail is what it recorded. -/
theorem cause (h : Reached polling i talk rest)
    (hf : Fails polling i.params (saidIn s talk) s type) :
    i.history = wayTo s ++ .failed :: rest ∧ ∃ cause, i.failure = some ⟨type, cause⟩ := by
  cases h with
  | finished _ _ h => cases (h.fails_iff s type).mp hf
  | @failed _ failure hfailure hh h =>
    cases (h.fails_iff s type).mp hf
    exact ⟨hh, failure.cause, hfailure⟩

/-- What the run recorded made it fail. -/
theorem fails (h : Reached polling i talk rest) {failure : Failure}
    (hf : i.failure = some failure) :
    ∃ s, Fails polling i.params (saidIn s talk) s failure.type := by
  cases h with
  | finished hn =>
    rw [hn] at hf
    cases hf
  | failed hf' _ h =>
    obtain rfl := Option.some.inj (hf'.symm.trans hf)
    exact ⟨_, (h.fails_iff _ _).mpr rfl⟩

/-- The run failed if something made it fail. -/
theorem failed_iff (h : Reached polling i talk rest)
    (hs : i.status = if i.failure.isSome then .failed else .finished) :
    i.status = .failed ↔ ∃ s type, Fails polling i.params (saidIn s talk) s type := by
  cases hf : i.failure with
  | none =>
    rw [hs, hf]
    refine ⟨nofun, ?_⟩
    rintro ⟨s, type, hfails⟩
    obtain ⟨-, cause, hf'⟩ := h.cause hfails
    rw [hf] at hf'
    cases hf'
  | some failure =>
    rw [hs, hf]
    obtain ⟨s, hfails⟩ := h.fails hf
    exact ⟨fun _ => ⟨s, _, hfails⟩, fun _ => rfl⟩

theorem history_of_unfailed (h : Reached polling i talk rest) (hn : i.failure = none) :
    i.history = way ++ rest := by
  cases h with
  | finished _ hh => exact hh
  | failed hf =>
    rw [hn] at hf
    cases hf

theorem timeout_iff (h : Reached polling i talk rest) {failure : Failure}
    (hf : i.failure = some failure) :
    failure.type = .timeout ↔ ∃ s, WaitFails polling i.params (saidIn s talk) s .timeout := by
  constructor
  · intro ht
    obtain ⟨s, hfails⟩ := h.fails hf
    rw [ht] at hfails
    exact ⟨s, hfails.waitFails_of_timeout⟩
  · rintro ⟨s, hw⟩
    obtain ⟨-, cause, hf'⟩ := h.cause (.waited hw)
    rw [hf] at hf'
    cases hf'
    rfl

/-- How the run ended is not changed by that it ended. -/
theorem finish (h : Reached polling i talk rest) (status : FlowStatus) (now : Duration) :
    Reached polling (i.finish status now) talk rest := by
  cases h with
  | finished hn hh h =>
    exact .finished (by rwa [Instance.failure_finish]) (by rwa [Instance.history_finish])
      (by rwa [Instance.params_finish])
  | failed hf hh h =>
    exact .failed (by rwa [Instance.failure_finish]) (by rwa [Instance.history_finish])
      (by rwa [Instance.params_finish])

end Reached

theorem Explained.of_reached {i : Instance vocabulary} {talk : Talk Collaborators}
    (h : Reached polling i talk [.final])
    (hs : i.status = if i.failure.isSome then .failed else .finished) :
    Explained polling i.params talk i where
  parts := by
    obtain ⟨o, hc, hnone⟩ := h.concluded
    refine ⟨o, hc, ?_⟩
    rw [← hnone, hs]
    cases i.failure <;> simp
  failed := h.failed_iff hs
  finished hne := by
    cases hf : i.failure with
    | none =>
      rw [hs, hf]
      exact ⟨rfl, rfl, h.history_of_unfailed hf⟩
    | some failure =>
      rw [hs, hf] at hne
      exact absurd rfl hne
  cause _ _ hfails := h.cause hfails
  timeout failure hf := by
    refine ⟨h.timeout_iff hf, fun hne => ?_⟩
    obtain ⟨s, hfails⟩ := h.fails hf
    exact hfails.type_eq.resolve_left hne
  tolerant hforced := (h.failed_iff hs).trans (exists_fails_of_forced hforced)
  halted hforced _ _ _ _ _ _ he := by
    obtain ⟨o, hc, -⟩ := h.concluded
    exact hc.halted hforced he
  lakesWait hw := by
    obtain ⟨o, hc, -⟩ := h.concluded
    obtain ⟨t, ht⟩ := hc.lakesTo
    exact ht.acceptedCrns_ne_nil hw
  freeIpaWait hw := by
    obtain ⟨o, hc, -⟩ := h.concluded
    rcases hc.freeIpaTo with hnil | ⟨t, ht⟩
    · rw [hnil] at hw
      exact absurd rfl hw
    · exact ht.accepted hw

/-- What was said when a terminal state was entered explains how the run ends there. -/
theorem explains (polling : Polling) (p : FlowParameters) (seen : ResourceId → Prop) :
    (conclusions polling seen).Explains p (Explained polling p) := by
  intro i talk s now hrun hparams hc _ hs
  have hexplained := Explained.of_reached (Reached.finish hc s now)
    (by rwa [Instance.status_finish_of_running hrun, Instance.failure_finish])
  rwa [Instance.params_finish, hparams] at hexplained

end CascadingDelete

namespace World

section Outcome

variable {engines : List (Definition CascadingDelete.vocabulary Collaborators ×
    List (Handler CascadingDelete.vocabulary Collaborators) × Nat)}
  {E : Execution CascadingDelete.vocabulary Collaborators} {e : EngineId} {polling : Polling}
  {retention n₀ serial : Nat} {q : StartRequest CascadingDelete.vocabulary}

/-- A deletion that is started on a free lane and gets no event from outside ends in every fair
    execution, whatever its flags and its collaborators' answers, and nothing is said after its end.
    It is cancelled only if a cancel of it is recorded; otherwise it failed where something made it
    fail, or went all the way if nothing did. -/
theorem deletion_outcome (h₀ : E.world 0 = initial engines) (hf : E.Fair)
    (hp : 0 < polling.interval)
    (he : engines[e]? = some (CascadingDelete.definition polling, [], retention))
    (hl : E.label n₀ = .start e serial q) (hfree : (E.world n₀).lane? q.resourceId = none)
    (hno : ∀ n e' event, E.label n ≠ .dispatch e' (.opened serial) event) :
    ∃ n i, E.EndsIn e (.opened serial) n i ∧
      (∀ m, n ≤ m → E.talk e (.opened serial) m = E.talk e (.opened serial) n) ∧
      ((∀ m, ¬ CancelRecorded (E.world m) (E.world (m + 1)) q.resourceId (.opened serial)) →
        i.status ≠ .cancelled) ∧
      (i.status ≠ .cancelled → CascadingDelete.Explained polling
        (q.params (.opened serial) (CascadingDelete.definition polling).flowType)
        (E.talk e (.opened serial) n) i) := by
  obtain ⟨n, i, s, hc⟩ :=
    Execution.closes_of_start (CascadingDelete.conclusions polling)
      (CascadingDelete.plan polling hp) h₀ hf he (fun _ _ => Iff.rfl) (.head _)
      (fun _ => CascadingDelete.atHand_start polling q _ _) hl hfree hno
  exact ⟨n, _, hc.ends, hc.silent, hc.uncancelled,
    hc.explained (CascadingDelete.explains polling _ _)⟩

end Outcome

/-- There are three data lakes; the deletion of the second is refused. -/
def secondRefused : Collaborators.Reply
  | .listDatalakes _ => .ok [⟨"first", "first"⟩, ⟨"second", "second"⟩, ⟨"third", "third"⟩]
  | .deleteDatalake "second" _ => .error (.rejected "in use")
  | .deleteDatalake .. => .ok ()
  | _ => .error (.notFound "gone")

/-- A deletion that cascades and is not forced. -/
def haltRequest : StartRequest CascadingDelete.vocabulary where
  resourceId := 7
  resourceCrn := "environment"
  cascading := true
  payload := default

/-- The deletion from its start to its end. -/
def haltRun : List (Label CascadingDelete.vocabulary Collaborators) :=
  .start 0 0 haltRequest :: List.replicate 11 (.run 0 secondRefused)

/-- The world after the deletion. -/
def halted : World CascadingDelete.vocabulary Collaborators :=
  ((initial deletionEngines).follow haltRun).get rfl

theorem follow_haltRun : (initial deletionEngines).follow haltRun = some halted := rfl

/-- The deletion, after which only time passes. -/
def halt : Execution CascadingDelete.vocabulary Collaborators := .ofFollow follow_haltRun

/-- All that is said. -/
def haltTalk : Talk Collaborators := [
  .asked 0 (.listDatalakes "environment"),
  .told 0 (.listDatalakes "environment")
    (.ok [⟨"first", "first"⟩, ⟨"second", "second"⟩, ⟨"third", "third"⟩]),
  .asked 0 (.deleteDatalake "first" false), .told 0 (.deleteDatalake "first" false) (.ok ()),
  .asked 0 (.deleteDatalake "second" false),
  .told 0 (.deleteDatalake "second" false) (.error (.rejected "in use"))]

/-- The refusal, which is among what is said about data lakes, fails the deletion. -/
theorem fails_haltTalk : CascadingDelete.Fails ⟨1, 10, false⟩
    (haltRequest.params (.opened 0) (CascadingDelete.definition ⟨1, 10, false⟩).flowType)
    (CascadingDelete.saidIn .datalakesDeleting haltTalk) .datalakesDeleting .deletion :=
  .refused rfl (.datalake (List.mem_filter.mpr ⟨List.getLast_mem (by decide), rfl⟩))

/-- Where the deletion of the second of three data lakes is refused, the third is not asked to be
    deleted, the first is not waited for, and the deletion fails. -/
theorem deletion_outcome_halt : halt.Fair ∧
    ∃ n i, halt.EndsIn 0 (.opened 0) n i ∧ halt.talk 0 (.opened 0) n = haltTalk ∧
      i.status = .failed ∧ i.history = [.init, .datalakesDeleting, .failed, .final] ∧
      ∃ cause, i.failure = some ⟨.deletion, cause⟩ := by
  have hf : halt.Fair := Execution.fair_ofFollow _ secondRefused (by decide)
  obtain ⟨n, i, hends, hsilent, hcalm, hexplained⟩ :=
    deletion_outcome (E := halt) (e := 0) (show halt.world 0 = initial deletionEngines from rfl) hf
      (show 0 < (⟨1, 10, false⟩ : Polling).interval by decide) rfl
      (show halt.label 0 = .start 0 0 haltRequest from rfl) rfl
      (fun n e' event => Execution.undelivered_ofFollow _ rfl (.opened 0) n e' event)
  have hn : n < 12 := Execution.EndsIn.lt_length hends rfl
  have htalk : halt.talk 0 (.opened 0) n = haltTalk := (hsilent 12 (Nat.le_of_lt hn)).symm
  have hexplained := hexplained (hcalm fun m => Execution.unrecorded_ofFollow _ rfl m 7 (.opened 0))
  rw [htalk] at hexplained
  obtain ⟨hhistory, hcause⟩ := hexplained.cause _ _ fails_haltTalk
  exact ⟨hf, n, i, hends, htalk, hexplained.failed.mpr ⟨_, _, fails_haltTalk⟩, hhistory, hcause⟩

end World

end ResourceFlow
