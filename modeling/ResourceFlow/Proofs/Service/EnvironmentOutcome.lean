import ResourceFlow.Proofs.Flows.Repetition
/-! # What a wait for an environment comes to

  A wait with one call in each attempt is told by the answers to its call
  (`Wait.answers`): while it goes on, no answer settled it; it is over because
  of the last answer, or because a look before an attempt noticed a
  cancellation (`Wait.OneCall.explained`).

  For an environment this gives `EnvironmentWait.outcome_told`. The wait
  returns an environment only if that is what the last description answered,
  passed the check and was not cancelled by then. A status with which nothing
  is to be hoped for ends the wait at once, a cancellation that is noticed
  after a description or before an attempt does too, and the failures of
  these last two kinds, and no others, count as cancellations of the flow that
  waits.
-/

namespace ResourceFlow

namespace Polling

variable {V : Type} {p : Polling} {elapsed : Duration} {outcome : Except String (Attempt V)}

/-- A wait pauses only after an attempt that settled nothing. -/
theorem unsettled_of_pause {d : Duration} (h : p.after elapsed outcome = .pause d) :
    p.Unsettled outcome := by
  match outcome with
  | .ok .again => exact .inl rfl
  | .ok (.finish v) => cases h
  | .ok (.giveUp reason) => cases h
  | .error message =>
    cases hs : p.stopOnError with
    | false => exact .inr ⟨message, rfl, hs⟩
    | true =>
      unfold after at h
      simp only [hs, if_true] at h
      cases h

/-- An attempt ends a wait with a value, for a reason, or as its time is over. -/
theorem after_eq_stop {result : Except PollError V} (h : p.after elapsed outcome = .stop result) :
    (∃ v, outcome = .ok (.finish v) ∧ result = .ok v) ∨
      (∃ reason, outcome = .ok (.giveUp reason) ∧ result = .error (.aborted reason)) ∨
      (∃ message, outcome = .error message ∧ p.stopOnError = true ∧
        result = .error (.aborted ⟨.attemptError, message⟩)) ∨
      (p.Unsettled outcome ∧ result = .error (.timeout p.timeout)) := by
  -- What settles nothing stops a wait only when its time is over.
  have hlate (hu : p.Unsettled outcome) : result = .error (.timeout p.timeout) := by
    obtain he | he := Nat.lt_or_ge elapsed p.timeout
    · rw [after_of_early hu he] at h
      cases h
    · rw [after_of_late hu he] at h
      cases h
      rfl
  match outcome with
  | .ok .again => exact .inr (.inr (.inr ⟨.inl rfl, hlate (.inl rfl)⟩))
  | .ok (.finish v) =>
    cases h
    exact .inl ⟨v, rfl, rfl⟩
  | .ok (.giveUp reason) =>
    cases h
    exact .inr (.inl ⟨reason, rfl, rfl⟩)
  | .error message =>
    cases hs : p.stopOnError with
    | true =>
      unfold after at h
      simp only [hs, if_true] at h
      cases h
      exact .inr (.inr (.inl ⟨message, rfl, rfl, rfl⟩))
    | false =>
      have hu : p.Unsettled (.error message : Except String (Attempt V)) := .inr ⟨message, rfl, hs⟩
      exact .inr (.inr (.inr ⟨hu, hlate hu⟩))

end Polling

namespace Wait

variable {V : Type}

/-! ### Told by the answers -/

/-- The answers to a call in the steps up to `n`, each with whether the wait was cancelled when it
    came. -/
def answers (w : Wait Collaborators V) (q : Call) (s : Surroundings Collaborators)
    (start : Duration) : Nat → List (Except CollaboratorError q.Value × Bool)
  | 0 => []
  | n + 1 => w.answers q s start n ++
    if (w.record s start n).asks? = some q then
      [(s.reply (n + 1) q, s.cancelled (n + 1) w.resource)] else []

/-- Where a wait stands, told by the answers to its one call. -/
inductive Explained (w : Wait Collaborators V) (q : Call)
    (outcome : Bool → Except CollaboratorError q.Value → Except String (Attempt V)) :
    List (Except CollaboratorError q.Value × Bool) →
      Progress (Waiting Collaborators V) (Except PollError V) → Prop where
  /-- It goes on, as no answer settled it. -/
  | going {l : List (Except CollaboratorError q.Value × Bool)} {v : Waiting Collaborators V}
      (h : ∀ x ∈ l, w.polling.Unsettled (outcome x.2 x.1)) : Explained w q outcome l (.more v)
  /-- No answer settled it, but it was cancelled before an attempt. -/
  | cancelled {l : List (Except CollaboratorError q.Value × Bool)}
      (h : ∀ x ∈ l, w.polling.Unsettled (outcome x.2 x.1)) :
      Explained w q outcome l (.result (.error .cancelled))
  /-- The last answer ended it. -/
  | settled {l : List (Except CollaboratorError q.Value × Bool)}
      (h : ∀ x ∈ l, w.polling.Unsettled (outcome x.2 x.1))
      {x : Except CollaboratorError q.Value × Bool} {elapsed : Duration}
      {result : Except PollError V}
      (hx : w.polling.after elapsed (outcome x.2 x.1) = .stop result) :
      Explained w q outcome (l ++ [x]) (.result result)

section OneCall

variable {w : Wait Collaborators V} {q : Call} {start : Duration}
  {outcome : Bool → Except CollaboratorError q.Value → Except String (Attempt V)}
  {s : Surroundings Collaborators}

theorem answers_asked {n : Nat} (h : (w.record s start n).asks? = some q) :
    w.answers q s start (n + 1) =
      w.answers q s start n ++ [(s.reply (n + 1) q, s.cancelled (n + 1) w.resource)] := by
  rw [answers, if_pos h]

theorem answers_unasked {n : Nat} (h : (w.record s start n).asks? = none) :
    w.answers q s start (n + 1) = w.answers q s start n := by
  rw [answers, if_neg (by rw [h]; exact nofun), List.append_nil]

/-- A wait with one call in each attempt stands as its answers tell. -/
theorem OneCall.explained (hw : w.OneCall q outcome) (s : Surroundings Collaborators)
    (start : Duration) (n : Nat) :
    w.Explained q outcome (w.answers q s start n) (w.record s start n).progress := by
  -- In a cycle no answer comes; the wait makes its call, unless it is cancelled.
  have hcycle : ∀ (stage : Stage Collaborators V) (m : Moment) (k : Nat) {l},
      (∀ x ∈ l, w.polling.Unsettled (outcome x.2 x.1)) →
      w.Explained q outcome l (Waiting.cycleNoted ⟨w, start, stage⟩ m k).1 := by
    intro stage m k l hl
    rcases hw.cycleNoted start stage m k with ⟨-, h⟩ | ⟨-, next, -, h⟩
    · rw [h]
      exact .cancelled hl
    · rw [h]
      exact .going hl
  induction n with
  | zero => exact hcycle _ _ _ nofun
  | succ n ih =>
    have hp : w.Paces start q outcome (w.record s start n).progress := hw.paces n
    generalize hx : (w.record s start n).progress = x at ih hp
    cases hp with
    | «over» result =>
      obtain ⟨hover, -⟩ := asks?_of_result hx (Nat.le_succ n)
      rw [answers_unasked (asks?_of_result hx (Nat.le_refl n)).2, hover]
      exact ih
    | pausing k due =>
      rw [answers_unasked (by rw [Record.asks?, hx]), record_paused hx]
      generalize w.answers q s start n = l at ih ⊢
      cases ih with
      | going hl => exact hcycle _ _ _ hl
    | calling k next hnext =>
      rw [answers_asked (by rw [Record.asks?, hx]), record_answered hx hnext]
      generalize w.answers q s start n = l at ih ⊢
      cases ih with
      | going hl =>
        split
        · rename_i result hstop
          exact .settled hl hstop
        · rename_i d hpause
          refine .going fun x hx => ?_
          rcases List.mem_append.mp hx with hx | hx
          · exact hl x hx
          · obtain rfl := List.mem_singleton.mp hx
            exact Polling.unsettled_of_pause hpause

/-- An answer that settles a wait ends it in the step in which it comes. -/
theorem OneCall.result_of_answer (hw : w.OneCall q outcome) {n : Nat} {result : Except PollError V}
    (hasks : (w.record s start n).asks? = some q)
    (hstop : ∀ elapsed, w.polling.after elapsed
      (outcome (s.cancelled (n + 1) w.resource) (s.reply (n + 1) q)) = .stop result) {m : Nat}
    (hm : n < m) :
    (w.record s start m).progress = .result result ∧ (w.record s start m).asks? = none := by
  obtain ⟨k, next, hn, hnext⟩ := hw.calling_of_asks hasks
  have hnow := record_answered hn hnext
  rw [hstop] at hnow
  exact asks?_of_result hnow hm

/-- A cancellation that is noticed before an attempt ends a wait in that step. -/
theorem result_of_notice {n k : Nat} {t : Duration} {before : List (Deed V)}
    (h : w.Comes s start n t k before) (hc : s.cancelled n w.resource = true) {m : Nat}
    (hm : n ≤ m) : (w.record s start m).progress = .result (.error .cancelled) ∧
      (w.record s start m).asks? = none := by
  have hr := record_of_ends (.cancelled h hc) hm
  have hresult : (w.record s start m).progress = .result (.error .cancelled) := by rw [hr]
  exact ⟨hresult, (asks?_of_result hresult (Nat.le_refl m)).2⟩

end OneCall

end Wait

/-! ### What a status means -/

namespace EnvironmentStatus

variable {status : EnvironmentStatus}

/-- An environment failed when its creation or its deletion did. -/
theorem isFailed_iff :
    status.isFailed = true ↔ status = .createFailed ∨ status = .deleteFailed := by
  cases status <;> decide

/-- It is stopping with its data hubs and its identity service, and stopped as a whole. -/
theorem isStopInProgressOrStopped_iff :
    status.isStopInProgressOrStopped = true ↔
      status = .stopDatahubStarted ∨ status = .stopFreeipaStarted ∨ status = .envStopped := by
  cases status <;> decide

/-- It is starting with its data hubs and its identity service. -/
theorem isStartInProgress_iff :
    status.isStartInProgress = true ↔
      status = .startDatahubStarted ∨ status = .startFreeipaStarted := by
  cases status <;> decide

end EnvironmentStatus

namespace EnvironmentWait

/-! ### What an answer means -/

/-- A status with which nothing is to be hoped for, and the reason to give up. -/
inductive Hopeless (t : Target) : EnvironmentStatus → AbortReason → Prop where
  /-- The environment failed. -/
  | failed {status : EnvironmentStatus} (h : status = .createFailed ∨ status = .deleteFailed) :
      Hopeless t status ⟨.targetFailed, "Environment creation failed: " ++ t.environmentName⟩
  /-- It is stopped or stopping. -/
  | stopped {status : EnvironmentStatus}
      (h : status = .stopDatahubStarted ∨ status = .stopFreeipaStarted ∨ status = .envStopped) :
      Hopeless t status
        ⟨.targetStopped, "Environment is in stopped status: " ++ t.environmentName⟩
  /-- It is starting. -/
  | starting {status : EnvironmentStatus}
      (h : status = .startDatahubStarted ∨ status = .startFreeipaStarted) :
      Hopeless t status ⟨.targetStarting,
        "The environment is starting. Please wait until finished: " ++ t.environmentName⟩

/-- Why a wait gives up when a cancellation is noticed after a description. -/
def rejection (t : Target) : AbortReason where
  kind := .rejected
  message := "Environment wait polling cancelled in inmemory store, id: " ++
    toString t.resourceId.toInt

/-- An answer after which the wait goes on, while there is time and errors do not end it: an error,
    or a status that neither passes nor is hopeless, not cancelled. -/
inductive Undecided (t : Target) (check : EnvironmentStatus → Bool) :
    Except CollaboratorError EnvironmentDetails × Bool → Prop where
  /-- The call failed. -/
  | error (e : CollaboratorError) (cancelled : Bool) : Undecided t check (.error e, cancelled)
  /-- The environment is not there yet. -/
  | again (d : EnvironmentDetails) (hc : check d.status = false)
      (hh : ∀ reason, ¬ Hopeless t d.status reason) : Undecided t check (.ok d, false)

variable {t : Target} {polling : Polling} {check : EnvironmentStatus → Bool}

/-- No status is hopeless for two reasons, and without one it is classified as not there yet. -/
theorem classify_eq (t : Target) (check : EnvironmentStatus → Bool) (d : EnvironmentDetails) :
    (check d.status = true ∧ classify t check d = .finish d) ∨
      (check d.status = false ∧ ∃ reason, Hopeless t d.status reason ∧
        classify t check d = .giveUp reason) ∨
      (check d.status = false ∧ (∀ reason, ¬ Hopeless t d.status reason) ∧
        classify t check d = .again) := by
  unfold classify
  cases hc : check d.status with
  | true => exact .inl ⟨rfl, rfl⟩
  | false =>
    refine .inr ?_
    cases hf : d.status.isFailed with
    | true => exact .inl ⟨rfl, _, .failed (EnvironmentStatus.isFailed_iff.mp hf), rfl⟩
    | false =>
      cases hs : d.status.isStopInProgressOrStopped with
      | true =>
        exact .inl ⟨rfl, _, .stopped (EnvironmentStatus.isStopInProgressOrStopped_iff.mp hs), rfl⟩
      | false =>
        cases hi : d.status.isStartInProgress with
        | true =>
          exact .inl ⟨rfl, _, .starting (EnvironmentStatus.isStartInProgress_iff.mp hi), rfl⟩
        | false =>
          refine .inr ⟨rfl, fun reason h => ?_, rfl⟩
          cases h with
          | failed h => exact absurd (EnvironmentStatus.isFailed_iff.mpr h) (by simp [hf])
          | stopped h =>
            exact absurd (EnvironmentStatus.isStopInProgressOrStopped_iff.mpr h) (by simp [hs])
          | starting h =>
            exact absurd (EnvironmentStatus.isStartInProgress_iff.mpr h) (by simp [hi])

/-- A status is hopeless for one reason only. -/
theorem Hopeless.unique {status : EnvironmentStatus} {reason reason' : AbortReason}
    (h : Hopeless t status reason) (h' : Hopeless t status reason') : reason = reason' := by
  cases h <;> cases h' <;> first | rfl | (cases status <;> simp_all)

theorem classify_of_hopeless {d : EnvironmentDetails} {reason : AbortReason}
    (hc : check d.status = false) (h : Hopeless t d.status reason) :
    classify t check d = .giveUp reason := by
  rcases classify_eq t check d with ⟨hc', -⟩ | ⟨-, reason', h', heq⟩ | ⟨-, hno, -⟩
  · rw [hc] at hc'
    cases hc'
  · rw [heq, h.unique h']
  · exact absurd h (hno reason)

/-- After an answer that settles nothing the matter is undecided. -/
theorem undecided_of_unsettled {x : Except CollaboratorError EnvironmentDetails × Bool}
    (h : polling.Unsettled (Polls.describing t check x.2 x.1)) : Undecided t check x := by
  obtain ⟨answer, cancelled⟩ := x
  cases answer with
  | error e => exact .error e cancelled
  | ok d =>
    -- A description is no error, so it was not there yet.
    have hagain : Polls.describing t check cancelled (.ok d) = .ok .again := by
      rcases h with h | ⟨_, hm, -⟩
      · exact h
      · cases hm
    cases cancelled with
    | true => cases hagain
    | false =>
      have hclass : classify t check d = .again := Except.ok.inj hagain
      rcases classify_eq t check d with ⟨-, heq⟩ | ⟨-, _, -, heq⟩ | ⟨hc, hh, -⟩
      · rw [heq] at hclass
        cases hclass
      · rw [heq] at hclass
        cases hclass
      · exact .again d hc hh

/-! ### What the service returns -/

/-- What the call of the service returned by step `n`, if it is over. -/
def returned? (t : Target) (polling : Polling) (check : EnvironmentStatus → Bool)
    (s : Surroundings Collaborators) (start : Duration) (n : Nat) :
    Option (Except ServiceError EnvironmentDetails) :=
  match ((untilStatus t polling check).record s start n).progress with
  | .result outcome => some (report outcome)
  | .more _ => none

/-- What the environment was described as by step `n`. -/
def descriptions (t : Target) (polling : Polling) (check : EnvironmentStatus → Bool)
    (s : Surroundings Collaborators) (start : Duration) (n : Nat) :
    List (Except CollaboratorError EnvironmentDetails × Bool) :=
  (untilStatus t polling check).answers (.describeEnvironment t.environmentCrn) s start n

/-- After step `n` the service waits for a description. -/
def Describes (t : Target) (polling : Polling) (check : EnvironmentStatus → Bool)
    (s : Surroundings Collaborators) (start : Duration) (n : Nat) : Prop :=
  ((untilStatus t polling check).record s start n).asks? =
    some (.describeEnvironment t.environmentCrn)

/-- In step `n` the service looks for a cancellation, before an attempt, and notices one. -/
def Notices (t : Target) (polling : Polling) (check : EnvironmentStatus → Bool)
    (s : Surroundings Collaborators) (start : Duration) (n : Nat) : Prop :=
  (∃ time k deeds, (untilStatus t polling check).Comes s start n time k deeds) ∧
    s.cancelled n t.resourceId = true

/-- How a call of the service can come out, given the descriptions. -/
inductive Outcome (t : Target) (polling : Polling) (check : EnvironmentStatus → Bool) :
    List (Except CollaboratorError EnvironmentDetails × Bool) →
      Except ServiceError EnvironmentDetails → Prop where
  /-- The last description passed the check. -/
  | passed {l : List (Except CollaboratorError EnvironmentDetails × Bool)}
      (h : ∀ x ∈ l, Undecided t check x) {d : EnvironmentDetails} (hc : check d.status = true) :
      Outcome t polling check (l ++ [(.ok d, false)]) (.ok d)
  /-- The last description was hopeless. -/
  | hopeless {l : List (Except CollaboratorError EnvironmentDetails × Bool)}
      (h : ∀ x ∈ l, Undecided t check x) {d : EnvironmentDetails} (hc : check d.status = false)
      {reason : AbortReason} (hh : Hopeless t d.status reason) :
      Outcome t polling check (l ++ [(.ok d, false)]) (.error (.poll (.aborted reason)))
  /-- A cancellation was noticed after the last description. -/
  | rejected {l : List (Except CollaboratorError EnvironmentDetails × Bool)}
      (h : ∀ x ∈ l, Undecided t check x) (d : EnvironmentDetails) :
      Outcome t polling check (l ++ [(.ok d, true)]) (.error (.poll (.aborted (rejection t))))
  /-- The last call failed, and errors end the wait. -/
  | failed {l : List (Except CollaboratorError EnvironmentDetails × Bool)}
      (h : ∀ x ∈ l, Undecided t check x) (hs : polling.stopOnError = true) (e : CollaboratorError)
      (cancelled : Bool) : Outcome t polling check (l ++ [(.error e, cancelled)])
        (.error (.poll (.aborted ⟨.attemptError, e.message⟩)))
  /-- Nothing was decided in time. -/
  | timedOut {l : List (Except CollaboratorError EnvironmentDetails × Bool)}
      (h : ∀ x ∈ l, Undecided t check x) :
      Outcome t polling check l (.error (.poll (.timeout polling.timeout)))
  /-- Nothing was decided when a cancellation was noticed before an attempt. -/
  | cancelled {l : List (Except CollaboratorError EnvironmentDetails × Bool)}
      (h : ∀ x ∈ l, Undecided t check x) : Outcome t polling check l (.error (.poll .cancelled))

/-! ### Descriptions and outcomes -/

/-- An answer that ends the wait tells how the service reports it. -/
theorem outcome_of_stop {l : List (Except CollaboratorError EnvironmentDetails × Bool)}
    (hl : ∀ x ∈ l, Undecided t check x) {x : Except CollaboratorError EnvironmentDetails × Bool}
    {elapsed : Duration} {result : Except PollError EnvironmentDetails}
    (hx : polling.after elapsed (Polls.describing t check x.2 x.1) = .stop result) :
    Outcome t polling check (l ++ [x]) (report result) := by
  obtain ⟨answer, cancelled⟩ := x
  rcases Polling.after_eq_stop hx with
    ⟨d, ho, rfl⟩ | ⟨reason, ho, rfl⟩ | ⟨message, ho, hs, rfl⟩ | ⟨hu, rfl⟩
  · -- A description is reported only if it is passed, and nobody cancelled.
    match answer, cancelled with
    | .error _, _ => cases ho
    | .ok _, true => cases ho
    | .ok d', false =>
      have hclass : classify t check d' = .finish d := Except.ok.inj ho
      rcases classify_eq t check d' with ⟨hc, heq⟩ | ⟨-, _, -, heq⟩ | ⟨-, -, heq⟩
      · obtain rfl : d' = d := Attempt.finish.inj (heq.symm.trans hclass)
        exact .passed hl hc
      · cases heq.symm.trans hclass
      · cases heq.symm.trans hclass
  · match answer, cancelled with
    | .error _, _ => cases ho
    | .ok d', true =>
      obtain rfl : rejection t = reason := Attempt.giveUp.inj (Except.ok.inj ho)
      exact .rejected hl d'
    | .ok d', false =>
      have hclass : classify t check d' = .giveUp reason := Except.ok.inj ho
      rcases classify_eq t check d' with ⟨-, heq⟩ | ⟨hc, _, hh, heq⟩ | ⟨-, -, heq⟩
      · cases heq.symm.trans hclass
      · obtain rfl := Attempt.giveUp.inj (heq.symm.trans hclass)
        exact .hopeless hl hc hh
      · cases heq.symm.trans hclass
  · match answer with
    | .error e =>
      obtain rfl : e.message = message := Except.error.inj ho
      exact .failed hl hs e cancelled
    | .ok _ => cases ho
  · refine .timedOut fun y hy => ?_
    rcases List.mem_append.mp hy with hy | hy
    · exact hl y hy
    · obtain rfl := List.mem_singleton.mp hy
      exact undecided_of_unsettled hu

variable {s : Surroundings Collaborators} {start : Duration}

/-- What the service returns is one of the outcomes that the descriptions allow. -/
theorem outcome_of_returned {n : Nat} {x : Except ServiceError EnvironmentDetails}
    (h : returned? t polling check s start n = some x) :
    Outcome t polling check (descriptions t polling check s start n) x := by
  have hexplained := (Polls.describing_oneCall t polling check).explained s start n
  unfold returned? at h
  unfold descriptions
  generalize Wait.answers _ _ s start n = l at hexplained ⊢
  generalize (Wait.record _ s start n).progress = progress at h hexplained
  have undecided {l : List (Except CollaboratorError EnvironmentDetails × Bool)}
      (hl : ∀ x ∈ l, (untilStatus t polling check).polling.Unsettled
        (Polls.describing t check x.2 x.1)) : ∀ x ∈ l, Undecided t check x :=
    fun x hx => undecided_of_unsettled (hl x hx)
  cases hexplained with
  | going => cases h
  | cancelled hl =>
    cases h
    exact .cancelled (undecided hl)
  | settled hl hx =>
    cases h
    exact outcome_of_stop (undecided hl) hx

/-- What the service returned it goes on to return, and it asks for nothing any more. -/
theorem returned_of_result {n m : Nat} {outcome : Except PollError EnvironmentDetails}
    (h : ((untilStatus t polling check).record s start n).progress = .result outcome)
    (hm : n ≤ m) : returned? t polling check s start m = some (report outcome) ∧
      ¬ Describes t polling check s start m := by
  obtain ⟨hresult, hasks⟩ := Wait.asks?_of_result h hm
  refine ⟨?_, ?_⟩
  · unfold returned?
    rw [hresult]
  · unfold Describes
    rw [hasks]
    exact nofun

/-- A description after which the wait stops for any time that it took ends it at once. -/
theorem returned_of_description {n : Nat} {d : EnvironmentDetails}
    (result : Except PollError EnvironmentDetails) (h : Describes t polling check s start n)
    (hd : s.reply (n + 1) (.describeEnvironment t.environmentCrn) = .ok d)
    (hstop : ∀ elapsed, polling.after elapsed
      (Polls.describing t check (s.cancelled (n + 1) t.resourceId) (.ok d)) = .stop result)
    {m : Nat} (hm : n < m) : returned? t polling check s start m = some (report result) ∧
      ¬ Describes t polling check s start m := by
  have hsettles : ∀ elapsed, polling.after elapsed
      (Polls.describing t check (s.cancelled (n + 1) t.resourceId)
        (s.reply (n + 1) (.describeEnvironment t.environmentCrn))) = .stop result := by
    intro elapsed
    rw [hd]
    exact hstop elapsed
  have hover := (Polls.describing_oneCall t polling check).result_of_answer h hsettles
    (Nat.lt_succ_self n)
  exact returned_of_result hover.1 hm

/-- A cancellation was returned only if one was noticed before an attempt. -/
theorem notices_of_cancelled {n : Nat}
    (h : returned? t polling check s start n = some (.error (.poll .cancelled))) :
    ∃ m ≤ n, Notices t polling check s start m := by
  have hstands := (untilStatus t polling check).stands s start n
  unfold returned? at h
  generalize (untilStatus t polling check).record s start n = record at h hstands
  cases hstands with
  | trying => cases h
  | pausing => cases h
  | done hends hle =>
    cases hends with
    | cancelled hcomes hc => exact ⟨_, hle, ⟨_, _, _, hcomes⟩, hc⟩
    | finished => cases h
    | gaveUp => cases h
    | failed => cases h
    | timedOut => cases h

/-- No status is a cancellation. -/
theorem Hopeless.kind_ne {status : EnvironmentStatus} {reason : AbortReason}
    (h : Hopeless t status reason) : reason.kind ≠ .rejected := by
  cases h <;> exact nofun

/-! ### The service as a whole -/

/-- A wait for an environment comes out as the descriptions and the cancellations tell. -/
structure Told (t : Target) (polling : Polling) (check : EnvironmentStatus → Bool)
    (s : Surroundings Collaborators) (start : Duration) : Prop where
  /-- An environment is returned only if it was described so last, passed the check and was not
      cancelled by then; all that was answered before was an error, or neither passed nor was
      hopeless, and was not cancelled. -/
  returned : ∀ n d, returned? t polling check s start n = some (.ok d) →
    ∃ before, descriptions t polling check s start n = before ++ [(.ok d, false)] ∧
      check d.status = true ∧ ∀ x ∈ before, Undecided t check x
  /-- Whatever is returned is one of the outcomes. -/
  outcome : ∀ n x, returned? t polling check s start n = some x →
    Outcome t polling check (descriptions t polling check s start n) x
  /-- A description that passes ends the wait at once, unless it is cancelled. -/
  passed : ∀ n d, Describes t polling check s start n →
    s.reply (n + 1) (.describeEnvironment t.environmentCrn) = .ok d →
    s.cancelled (n + 1) t.resourceId = false → check d.status = true →
    ∀ m, n < m → returned? t polling check s start m = some (.ok d) ∧
      ¬ Describes t polling check s start m
  /-- So does one that does not pass and is hopeless, for its reason. -/
  hopeless : ∀ n d reason, Describes t polling check s start n →
    s.reply (n + 1) (.describeEnvironment t.environmentCrn) = .ok d →
    s.cancelled (n + 1) t.resourceId = false → check d.status = false →
    Hopeless t d.status reason →
    ∀ m, n < m → returned? t polling check s start m = some (.error (.poll (.aborted reason))) ∧
      ¬ Describes t polling check s start m
  /-- So does a cancellation that is noticed after a description, whatever it tells. -/
  rejected : ∀ n d, Describes t polling check s start n →
    s.reply (n + 1) (.describeEnvironment t.environmentCrn) = .ok d →
    s.cancelled (n + 1) t.resourceId = true →
    ∀ m, n < m →
      returned? t polling check s start m = some (.error (.poll (.aborted (rejection t)))) ∧
      ¬ Describes t polling check s start m
  /-- And so does one that is noticed before an attempt, which asks for nothing any more. -/
  cancelled : ∀ n, Notices t polling check s start n →
    ∀ m, n ≤ m → returned? t polling check s start m = some (.error (.poll .cancelled)) ∧
      ¬ Describes t polling check s start m
  /-- Of the errors that are returned, those of a noticed cancellation are cancellations of the
      flow that waits, and no others. -/
  cancellation : ∀ n err, returned? t polling check s start n = some (.error err) →
    (err.toActionError.isCancellation = true ↔
      (err = .poll (.aborted (rejection t)) ∧
        ∃ before d, descriptions t polling check s start n = before ++ [(.ok d, true)]) ∨
      (err = .poll .cancelled ∧ ∃ m ≤ n, Notices t polling check s start m))

/-- Every wait for an environment comes out so, whatever is answered and cancelled. -/
theorem outcome_told (t : Target) (polling : Polling) (check : EnvironmentStatus → Bool)
    (s : Surroundings Collaborators) (start : Duration) : Told t polling check s start where
  returned n d h := by
    have houtcome := outcome_of_returned h
    generalize descriptions t polling check s start n = l at houtcome
    cases houtcome with
    | passed hl hc => exact ⟨_, rfl, hc, hl⟩
  outcome n x h := outcome_of_returned h
  passed n d h hd hc hp m hm :=
    returned_of_description (.ok d) h hd
      (fun elapsed => by simp [hc, Polls.describing, classify, hp, Polling.after]) hm
  hopeless n d reason h hd hc hp hh m hm :=
    returned_of_description (.error (.aborted reason)) h hd
      (fun elapsed => by
        simp [hc, Polls.describing, classify_of_hopeless hp hh, Polling.after]) hm
  rejected n d h hd hc m hm :=
    returned_of_description (.error (.aborted (rejection t))) h hd
      (fun elapsed => by simp [hc, Polls.describing, rejection, Polling.after]) hm
  cancelled n h m hm := by
    obtain ⟨⟨time, k, deeds, hcomes⟩, hc⟩ := h
    exact returned_of_result (Wait.result_of_notice hcomes hc (Nat.le_refl n)).1 hm
  cancellation n err h := by
    have houtcome := outcome_of_returned h
    have hnotices : err = .poll .cancelled → ∃ m ≤ n, Notices t polling check s start m := by
      rintro rfl
      exact notices_of_cancelled h
    generalize descriptions t polling check s start n = l at houtcome ⊢
    cases houtcome with
    | hopeless hl hc hh =>
      have hkind := hh.kind_ne
      refine iff_of_false (by simpa [ServiceError.toActionError, ActionError.isCancellation]) ?_
      rintro (⟨herr, -⟩ | ⟨herr, -⟩) <;> cases herr
      exact hkind rfl
    | rejected hl d => exact iff_of_true rfl (.inl ⟨rfl, _, d, rfl⟩)
    | failed hl hs e cancelled =>
      refine iff_of_false Bool.false_ne_true ?_
      rintro (⟨herr, -⟩ | ⟨herr, -⟩) <;> cases herr
    | timedOut =>
      refine iff_of_false Bool.false_ne_true ?_
      rintro (⟨herr, -⟩ | ⟨herr, -⟩) <;> cases herr
    | cancelled hl => exact iff_of_true rfl (.inr ⟨rfl, hnotices rfl⟩)

end EnvironmentWait

end ResourceFlow
