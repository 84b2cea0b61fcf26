import ResourceFlow.Flows.CascadingDelete
import ResourceFlow.Flows.Upscale
import ResourceFlow.Proofs.Polling.Timing
import ResourceFlow.Service.EnvironmentWait
/-! # When a failed call is repeated

  The waits for an environment, for an operation, for data lakes to be gone
  and for an identity service to be gone make one call in each attempt. What
  becomes of such a wait when the call fails does not depend on how it failed
  (`Polls.repeated_iff`): the call is made again exactly if errors do not end
  the wait, its time is not over, and its resource is not cancelled by the
  next look. Errors end a wait that stops on errors, except for the wait for an
  operation, which takes every error for a status that cannot be read yet.

  So an error that no repetition can mend is answered with a repetition
  (`Polls.rejected_repeated`), although `CollaboratorError.isRetryable` tells
  such errors apart.
-/

namespace ResourceFlow

namespace Wait

variable {V : Type}

/-! ### Waits with one call in each attempt -/

/-- The call that was made in the step that led to this. -/
def Record.asks? {I : Interface} (x : Record I V) : Option I.Call :=
  match x.progress with
  | .more ⟨_, _, .calling _ q _⟩ => some q
  | _ => none

/-- Every attempt makes one call, and its answer is the outcome of the attempt, seen with whether
    the wait is cancelled by then. -/
def OneCall (w : Wait Collaborators V) (q : Call)
    (outcome : Bool → Except CollaboratorError q.Value → Except String (Attempt V)) : Prop :=
  ∀ k, ∃ next, w.attempt k = .call q next ∧
    ∀ x m, (next x).run m = .done (outcome (m.cancelled w.resource) x)

/-- Where a wait with one call in each attempt stands after a step: it is over, it pauses, or it
    made its call. -/
inductive Paces (w : Wait Collaborators V) (start : Duration) (q : Call)
    (outcome : Bool → Except CollaboratorError q.Value → Except String (Attempt V)) :
    Progress (Waiting Collaborators V) (Except PollError V) → Prop where
  /-- It is over. -/
  | over (result : Except PollError V) : Paces w start q outcome (.result result)
  /-- It pauses. -/
  | pausing (k : Nat) (due : Duration) : Paces w start q outcome (.more ⟨w, start, .pausing k due⟩)
  /-- It made its call. -/
  | calling (k : Nat)
      (next : Collaborators.Answer q → Procedure Collaborators (Except String (Attempt V)))
      (h : ∀ x m, (next x).run m = .done (outcome (m.cancelled w.resource) x)) :
      Paces w start q outcome (.more ⟨w, start, .calling k q next⟩)

section OneCall

variable {w : Wait Collaborators V} {q : Call} {start : Duration}
  {outcome : Bool → Except CollaboratorError q.Value → Except String (Attempt V)}
  {s : Surroundings Collaborators}

/-- A cycle is cancelled, or makes the call. -/
theorem OneCall.cycleNoted (hw : w.OneCall q outcome) (start : Duration)
    (stage : Stage Collaborators V) (m : Moment) (k : Nat) :
    (m.cancelled w.resource = true ∧
      (Waiting.cycleNoted ⟨w, start, stage⟩ m k).1 = .result (.error .cancelled)) ∨
    (m.cancelled w.resource = false ∧ ∃ next, (∀ x m,
      (next x).run m = .done (outcome (m.cancelled w.resource) x)) ∧
      (Waiting.cycleNoted ⟨w, start, stage⟩ m k).1 = .more ⟨w, start, .calling k q next⟩) := by
  obtain ⟨next, hattempt, hnext⟩ := hw k
  rw [Waiting.cycleNoted_fst]
  unfold Waiting.cycle
  cases hc : m.cancelled w.resource with
  | true => exact .inl ⟨rfl, rfl⟩
  | false =>
    refine .inr ⟨rfl, next, hnext, ?_⟩
    simp [Waiting.goOn, hattempt, Procedure.run]

/-- After an answer the wait does what its polling says. -/
theorem record_answered {n k : Nat}
    {next : Collaborators.Answer q → Procedure Collaborators (Except String (Attempt V))}
    (hn : (w.record s start n).progress = .more ⟨w, start, .calling k q next⟩)
    (hnext : ∀ x m, (next x).run m = .done (outcome (m.cancelled w.resource) x)) :
    (w.record s start (n + 1)).progress =
      match w.polling.after ((w.record s start n).now + s.takes (n + 1) - start)
        (outcome (s.cancelled (n + 1) w.resource) (s.reply (n + 1) q)) with
      | .stop result => .result result
      | .pause d => .more ⟨w, start,
          .pausing (k + 1) ((w.record s start n).now + s.takes (n + 1) + d)⟩ := by
  rw [record]
  simp only [hn, Waiting.wakes, Waiting.stepNoted, Waiting.goOnNoted, Waiting.goOn, hnext]
  rfl

/-- After a pause the next cycle comes. -/
theorem record_paused {n k : Nat} {due : Duration}
    (hn : (w.record s start n).progress = .more ⟨w, start, .pausing k due⟩) :
    (w.record s start (n + 1)).progress =
      (Waiting.cycleNoted ⟨w, start, .pausing k due⟩ (s.moment (n + 1) due) k).1 := by
  rw [record]
  simp [hn, Waiting.wakes, Waiting.stepNoted, Surroundings.moment]

/-- A wait with one call in each attempt keeps to its paces. -/
theorem OneCall.paces (hw : w.OneCall q outcome) (n : Nat) :
    w.Paces start q outcome (w.record s start n).progress := by
  -- In a cycle it is cancelled, or makes the call.
  have hcycle : ∀ (stage : Stage Collaborators V) m k,
      w.Paces start q outcome (Waiting.cycleNoted ⟨w, start, stage⟩ m k).1 := by
    intro stage m k
    rcases hw.cycleNoted start stage m k with ⟨-, h⟩ | ⟨-, next, hnext, h⟩
    · rw [h]
      exact .over _
    · rw [h]
      exact .calling k next hnext
  induction n with
  | zero => exact hcycle _ _ _
  | succ n ih =>
    generalize hx : (w.record s start n).progress = x at ih
    cases ih with
    | «over» result =>
      rw [record]
      simp only [hx]
      exact .over result
    | pausing k due =>
      rw [record_paused hx]
      exact hcycle _ _ _
    | calling k next hnext =>
      rw [record_answered hx hnext]
      split
      · exact .over _
      · exact .pausing _ _

/-- In a step in which the call is made, an attempt waits for its answer afterwards. -/
theorem OneCall.calling_of_asks (hw : w.OneCall q outcome) {n : Nat}
    (hn : (w.record s start n).asks? = some q) : ∃ k next, (w.record s start n).progress =
      .more ⟨w, start, .calling k q next⟩ ∧
        ∀ x m, (next x).run m = .done (outcome (m.cancelled w.resource) x) := by
  have hp : w.Paces start q outcome (w.record s start n).progress := hw.paces n
  unfold Record.asks? at hn
  generalize (w.record s start n).progress = x at hn hp
  cases hp with
  | calling k next hnext => exact ⟨k, next, rfl, hnext⟩
  | _ => cases hn

/-- A wait that is over makes no call any more. -/
theorem asks?_of_result {n m : Nat} {result : Except PollError V}
    (hn : (w.record s start n).progress = .result result) (hm : n ≤ m) :
    (w.record s start m).progress = .result result ∧ (w.record s start m).asks? = none := by
  rw [record_of_result rfl hn hm]
  refine ⟨hn, ?_⟩
  unfold Record.asks?
  rw [hn]

/-- Where a wait is over, no call follows. -/
theorem not_asks_of_result {n : Nat} {result : Except PollError V}
    (hn : (w.record s start n).progress = .result result) :
    ¬ ∃ m, n ≤ m ∧ (w.record s start m).asks? = some q := by
  rintro ⟨m, hm, hasks⟩
  rw [(asks?_of_result hn hm).2] at hasks
  cases hasks

/-- After a pause the call is made, exactly if the wait is not cancelled by then. -/
theorem OneCall.asks_after_pause_iff (hw : w.OneCall q outcome) {n k : Nat} {due : Duration}
    (hn : (w.record s start n).progress = .more ⟨w, start, .pausing k due⟩) :
    (∃ m, n ≤ m ∧ (w.record s start m).asks? = some q) ↔
      s.cancelled (n + 1) w.resource = false := by
  have hlook := record_paused hn
  rcases hw.cycleNoted start _ (s.moment (n + 1) due) k with ⟨hcan, hc⟩ | ⟨hcan, next, -, hc⟩
  · have hcan : s.cancelled (n + 1) w.resource = true := hcan
    refine iff_of_false ?_ (by simp [hcan])
    rintro ⟨m, hm, hasks⟩
    obtain rfl | hm := Nat.eq_or_lt_of_le hm
    · rw [Record.asks?, hn] at hasks
      cases hasks
    · exact not_asks_of_result (hlook.trans hc) ⟨m, hm, hasks⟩
  · refine iff_of_true ⟨n + 1, Nat.le_succ n, ?_⟩ hcan
    rw [Record.asks?, hlook.trans hc]

end OneCall

end Wait

/-! ### The waits of the library -/

/-- The waits that make one call over and over: with the call, whether its errors are errors of the
    attempt, and which of them are what is waited for. -/
inductive Polls : {V : Type} → Wait Collaborators V → Call → Bool → (CollaboratorError → Bool) →
    Prop where
  /-- For an environment. -/
  | environment (t : EnvironmentWait.Target) (polling : Polling)
      (check : EnvironmentStatus → Bool) :
      Polls (EnvironmentWait.untilStatus t polling check) (.describeEnvironment t.environmentCrn)
        true fun _ => false
  /-- For an operation; its status may be unreadable. -/
  | operation (polling : Polling) (r : ResourceId) (operation account : String) :
      Polls (Upscale.operationWait polling r operation account)
        (.operationStatus operation account) false fun _ => false
  /-- For data lakes to be gone. -/
  | datalakes (polling : Polling) (r : ResourceId) (environment : String)
      (deleting : List String) :
      Polls (CascadingDelete.datalakesWait polling r environment deleting)
        (.listDatalakes environment) true fun _ => false
  /-- For an identity service to be gone. -/
  | freeIpa (polling : Polling) (r : ResourceId) (environment : String) :
      Polls (CascadingDelete.freeIpaWait polling r environment) (.describeFreeIpa environment)
        true CollaboratorError.isNotFound

namespace Polls

/-- What becomes of an attempt with the description of an environment. -/
def describing (t : EnvironmentWait.Target) (check : EnvironmentStatus → Bool)
    (cancelled : Bool) :
    Except CollaboratorError EnvironmentDetails → Except String (Attempt EnvironmentDetails)
  | .error e => .error e.message
  | .ok d => .ok (if cancelled then .giveUp ⟨.rejected,
      "Environment wait polling cancelled in inmemory store, id: " ++
        toString t.resourceId.toInt⟩ else EnvironmentWait.classify t check d)

/-- What becomes of an attempt with the list of data lakes. -/
def listing (deleting : List String) :
    Except CollaboratorError (List DatalakeSummary) → Except String (Attempt Unit)
  | .ok remaining =>
    .ok (if remaining.any fun d => deleting.contains d.crn then .again else .finish ())
  | .error e => .error e.message

/-- What becomes of an attempt with the description of an identity service. -/
def missing : Except CollaboratorError FreeIpaDescription → Except String (Attempt Unit)
  | .ok _ => .ok .again
  | .error (.notFound _) => .ok (.finish ())
  | .error e => .error e.message

variable {V : Type} {w : Wait Collaborators V} {q : Call} {heeds : Bool}
  {awaited : CollaboratorError → Bool}

/-- Every attempt of a wait for an environment asks for its description once. -/
theorem describing_oneCall (t : EnvironmentWait.Target) (polling : Polling)
    (check : EnvironmentStatus → Bool) :
    (EnvironmentWait.untilStatus t polling check).OneCall (.describeEnvironment t.environmentCrn)
      (describing t check) := by
  intro k
  refine ⟨_, rfl, fun x m => ?_⟩
  cases x with
  | error e => rfl
  | ok d =>
    show Procedure.run m (if m.cancelled t.resourceId then _ else _) = _
    cases hc : m.cancelled t.resourceId <;>
      simp [EnvironmentWait.untilStatus, describing, hc] <;> rfl

/-- In all of them an attempt is one call, and all errors are alike, apart from what is waited
    for. -/
theorem oneCall (h : Polls w q heeds awaited) : ∃ outcome, w.OneCall q outcome ∧
    ∀ b e, awaited e = false →
      outcome b (.error e) = if heeds then .error e.message else .ok .again := by
  cases h with
  | environment t polling check =>
    exact ⟨describing t check, describing_oneCall t polling check, fun _ _ _ => rfl⟩
  | operation polling r operation account =>
    exact ⟨fun _ x => .ok (Upscale.judge operation x.toOption), fun k => ⟨_, rfl, fun _ _ => rfl⟩,
      fun _ _ _ => rfl⟩
  | datalakes polling r environment deleting =>
    refine ⟨fun _ => listing deleting, fun k => ⟨_, rfl, fun x m => ?_⟩, fun _ _ _ => rfl⟩
    cases x <;> rfl
  | freeIpa polling r environment =>
    refine ⟨fun _ => missing, fun k => ⟨_, rfl, fun x m => ?_⟩, ?_⟩
    · rcases x with (m | m | m) | d <;> rfl
    · intro b e he
      cases e with
      | notFound => cases he
      | _ => rfl

/-- What settles nothing is an error that does not end the wait. -/
theorem unsettled_iff (p : Polling) (e : CollaboratorError) :
    p.Unsettled (if heeds then .error e.message else .ok (.again : Attempt V)) ↔
      (heeds && p.stopOnError) = false := by
  unfold Polling.Unsettled
  cases heeds <;> simp

/-- Whatever error a call fails with, apart from what is waited for, the wait makes the call again
    exactly if errors do not end it, there is time left, and it is not cancelled by the next
    look. -/
theorem repeated_iff (h : Polls w q heeds awaited) (s : Surroundings Collaborators)
    (start : Duration) {n : Nat} {e : CollaboratorError}
    (hasked : (w.record s start n).asks? = some q)
    (hanswer : (s.reply (n + 1) q : Except CollaboratorError q.Value) = .error e)
    (he : awaited e = false) :
    ((∃ m, n < m ∧ (w.record s start m).asks? = some q) ↔
      (heeds && w.polling.stopOnError) = false ∧
        (w.record s start n).now + s.takes (n + 1) - start < w.polling.timeout ∧
        s.cancelled (n + 2) w.resource = false) ∧
    ((heeds && w.polling.stopOnError) = true → ∀ m, n < m →
      (w.record s start m).progress = .result (.error (.aborted ⟨.attemptError, e.message⟩))) := by
  obtain ⟨outcome, hone, hout⟩ := h.oneCall
  obtain ⟨k, next, hn, hnext⟩ := hone.calling_of_asks hasked
  have hnow := Wait.record_answered hn hnext
  rw [hanswer, hout _ _ he] at hnow
  cases hstop : heeds && w.polling.stopOnError with
  | true =>
    obtain ⟨rfl, hs⟩ : heeds = true ∧ w.polling.stopOnError = true := by simpa using hstop
    simp only [if_true, Polling.after, hs] at hnow
    exact ⟨iff_of_false (Wait.not_asks_of_result hnow) fun hc => Bool.noConfusion hc.1,
      fun _ m hm => (Wait.asks?_of_result hnow hm).1⟩
  | false =>
    refine ⟨?_, fun hf => Bool.noConfusion hf⟩
    have hun := (unsettled_iff (V := V) w.polling e).mpr hstop
    obtain hearly | hlate := Nat.lt_or_ge
      ((w.record s start n).now + s.takes (n + 1) - start) w.polling.timeout
    · rw [Polling.after_of_early hun hearly] at hnow
      -- The next look decides.
      rw [eq_self, true_and, iff_true_intro hearly, true_and]
      exact hone.asks_after_pause_iff hnow
    · rw [Polling.after_of_late hun hlate] at hnow
      exact iff_of_false (Wait.not_asks_of_result hnow)
        fun hc => absurd hc.2.1 (Nat.not_lt.mpr hlate)

/-- Every call is refused. -/
def refusing : Surroundings Collaborators where
  cancelled _ _ := false
  takes _ := 0
  reply _ _ := .error (.rejected "denied")

/-- An environment that someone waits for. -/
def target : EnvironmentWait.Target := ⟨7, "environment", "name"⟩

/-- A refused description is asked for again. -/
theorem repeated_iff_refusing :
    ((EnvironmentWait.untilAvailable target ⟨1, 10, false⟩).record refusing 0 0).asks? =
        some (.describeEnvironment "environment") ∧
      ∃ m, 0 < m ∧ ((EnvironmentWait.untilAvailable target ⟨1, 10, false⟩).record refusing 0
        m).asks? = some (.describeEnvironment "environment") :=
  ⟨rfl, (repeated_iff (.environment target ⟨1, 10, false⟩ EnvironmentStatus.isAvailable) refusing 0
    (n := 0) rfl rfl rfl).1.mpr ⟨rfl, by decide, rfl⟩⟩

/-- After an error that no repetition can mend, and that is not what is waited for, the wait does
    not make its call again. -/
def GivesUp (w : Wait Collaborators V) (q : Call) (awaited : CollaboratorError → Bool) : Prop :=
  ∀ (s : Surroundings Collaborators) (start : Duration) (n : Nat) (e : CollaboratorError),
    (w.record s start n).asks? = some q →
    (s.reply (n + 1) q : Except CollaboratorError q.Value) = .error e →
    e.isRetryable = false → awaited e = false →
    ∀ m, n < m → (w.record s start m).asks? ≠ some q

/-- None of the waits gives up on a refusal, unless errors are to end it; the wait for an operation
    does not even then. -/
theorem rejected_repeated :
    ¬ GivesUp (EnvironmentWait.untilAvailable target ⟨1, 10, false⟩)
      (.describeEnvironment "environment") (fun _ => false) ∧
    ¬ GivesUp (Upscale.operationWait ⟨1, 10, true⟩ 7 "operation" "account")
      (.operationStatus "operation" "account") (fun _ => false) ∧
    ¬ GivesUp (CascadingDelete.datalakesWait ⟨1, 10, false⟩ 7 "environment" ["datalake"])
      (.listDatalakes "environment") (fun _ => false) ∧
    ¬ GivesUp (CascadingDelete.freeIpaWait ⟨1, 10, false⟩ 7 "environment")
      (.describeFreeIpa "environment") CollaboratorError.isNotFound := by
  refine ⟨fun h => ?_, fun h => ?_, fun h => ?_, fun h => ?_⟩
  all_goals exact h refusing 0 0 (.rejected "denied") rfl rfl rfl rfl 2 (by decide) rfl

end Polls

end ResourceFlow
