import Mathlib.Algebra.GroupWithZero.Nat
import ResourceFlow.Proofs.Flows.BuiltIn
import ResourceFlow.Proofs.World.Closing
/-! # How an upscale ends

  An upscale describes the identity service, asks for an operation if there
  are too few nodes, and reads the operation's status until that settles
  something or its time is over. How it ends is told by what its collaborators
  answered: finished if there were enough nodes or the operation was read to
  be completed, failed otherwise, and then as timed out or not. Nodes are
  counted over all instance groups, as many as 64 bits can count
  (`FreeIpaDescription.toNat_nodeCount`).

  `Upscale.Concluded` lists what can have been said by the end, each with the
  category of the failure that it calls for. The account of an upscale
  (`Upscale.account`) carries it from the answers of actions and the handler
  through the failures that events and instances keep. What callers see of the
  end follows for every fair execution (`World.upscale_outcome`).
-/

namespace ResourceFlow

/-! ### Counting nodes -/

/-- 64-bit numbers add up as their values do, less what does not fit. -/
theorem toNat_foldl_nodeCount (groups : List InstanceGroup) (n : UInt64) :
    (groups.foldl (fun n g => n + g.nodeCount) n).toNat =
      (n.toNat + (groups.map fun g => g.nodeCount.toNat).sum) % 2 ^ 64 := by
  induction groups generalizing n with
  | nil => exact (Nat.mod_eq_of_lt n.toNat_lt).symm
  | cons g rest ih =>
    rw [List.foldl_cons, ih, UInt64.toNat_add, List.map_cons, List.sum_cons, Nat.mod_add_mod,
      Nat.add_assoc]

namespace FreeIpaDescription

/-- The nodes of all groups, added up without a bound. -/
def total (d : FreeIpaDescription) : Nat := (d.instanceGroups.map fun g => g.nodeCount.toNat).sum

/-- The count of a description is the sum over its groups, where that fits 64 bits. -/
theorem toNat_nodeCount {d : FreeIpaDescription} (h : d.total < 2 ^ 64) :
    d.nodeCount.toNat = d.total := by
  unfold nodeCount
  rw [toNat_foldl_nodeCount]
  exact (Nat.mod_eq_of_lt (by rwa [UInt64.toNat_zero, Nat.zero_add])).trans (Nat.zero_add _)

end FreeIpaDescription

namespace Upscale

open ResourceFlow.Action

/-! ### Readings -/

/-- What was answered when the status of an operation was asked for. -/
abbrev Reading : Type := Except CollaboratorError OperationStatus

/-- The reading failed, or the operation goes on. -/
def Unsettled (x : Reading) : Prop := ∀ status, x = .ok status → status.status = .running

/-- The reading that a line tells. -/
def reading? : Entry Collaborators → Option Reading
  | .told _ (.operationStatus ..) x => some x
  | _ => none

/-- The readings of the status of operations, in order. -/
def readings (talk : Talk Collaborators) : List Reading := talk.filterMap reading?

/-- When a line about the status of an operation was said. -/
def pollTime? : Entry Collaborators → Option Duration
  | .asked c (.operationStatus ..) => some c
  | .told c (.operationStatus ..) _ => some c
  | _ => none

/-- When the status of operations was talked about, in order. -/
def pollTimes (talk : Talk Collaborators) : List Duration := talk.filterMap pollTime?

/-- The operation that a line asks for. -/
def upscale? : Entry Collaborators → Option (String × AvailabilityType)
  | .asked _ (.upscaleFreeIpa environment target) => some (environment, target)
  | _ => none

/-- The operations that were asked for, in order. -/
def upscales (talk : Talk Collaborators) : List (String × AvailabilityType) :=
  talk.filterMap upscale?

@[simp] theorem readings_append (h h' : Talk Collaborators) :
    readings (h ++ h') = readings h ++ readings h' := List.filterMap_append

@[simp] theorem pollTimes_append (h h' : Talk Collaborators) :
    pollTimes (h ++ h') = pollTimes h ++ pollTimes h' := List.filterMap_append

@[simp] theorem upscales_append (h h' : Talk Collaborators) :
    upscales (h ++ h') = upscales h ++ upscales h' := List.filterMap_append

/-! ### What is said -/

variable (p : Payload) (talk : Talk Collaborators)

/-- The identity service was described so. -/
def Described (description : FreeIpaDescription) : Prop :=
  ∃ c, .told c (.describeFreeIpa p.environmentCrn) (.ok description) ∈ talk

/-- No description tells of more nodes than 64 bits can count. -/
def Counted : Prop := ∀ description, Described p talk description → description.total < 2 ^ 64

/-- All groups of a description together have fewer nodes than there should be. -/
def Short (description : FreeIpaDescription) : Prop :=
  description.total < p.target.instanceCount

/-- There are too few nodes. -/
def Few : Prop := ∃ description, Described p talk description ∧ Short p description

/-- The operation was started. -/
def Began (operation : String) : Prop :=
  ∃ c, .told c (.upscaleFreeIpa p.environmentCrn p.target) (.ok operation) ∈ talk

/-- The operation was read to be completed, and nothing was settled before. -/
def Completed : Prop :=
  ∃ before status after, readings talk = before ++ .ok status :: after ∧
    status.status = .completed ∧ ∀ x ∈ before, Unsettled x

/-- The wait for the operation came to its time limit, and nothing was settled. -/
def TimedOut (limit : Duration) : Prop :=
  (∀ x ∈ readings talk, Unsettled x) ∧ ∃ first last, (pollTimes talk).head? = some first ∧
    (pollTimes talk).getLast? = some last ∧ limit ≤ last - first

variable {p talk}

/-- What the count of a description is compared for, where the count fits. -/
theorem short_iff {description : FreeIpaDescription} (h : description.total < 2 ^ 64) :
    Short p description ↔ description.nodeCount.toNat < p.target.instanceCount := by
  rw [FreeIpaDescription.toNat_nodeCount h, Short]

/-- The status of the operation was asked for so many times, and nothing was settled. -/
inductive Polled (operation account : String) : Talk Collaborators → Prop where
  /-- It was not asked for yet. -/
  | nil : Polled operation account []
  /-- It was asked for once more. -/
  | again {talk : Talk Collaborators} (h : Polled operation account talk) (c c' : Duration)
      (x : Reading) (hx : Unsettled x) :
      Polled operation account (talk ++ [.asked c (.operationStatus operation account)] ++
        [.told c' (.operationStatus operation account) x])

/-- What was said in the wait for the operation, and the category of the failure that follows, if
    any. -/
inductive Waited (limit : Duration) (operation account : String) :
    Talk Collaborators → Option FailureType → Prop where
  /-- The operation completed. -/
  | completed {talk : Talk Collaborators} (h : Polled operation account talk) (c c' : Duration)
      (status : OperationStatus) (hs : status.status = .completed) :
      Waited limit operation account (talk ++ [.asked c (.operationStatus operation account)] ++
        [.told c' (.operationStatus operation account) (.ok status)]) none
  /-- The operation ended otherwise. -/
  | ended {talk : Talk Collaborators} (h : Polled operation account talk) (c c' : Duration)
      (status : OperationStatus) (hs : status.status ≠ .completed)
      (hr : status.status ≠ .running) :
      Waited limit operation account (talk ++ [.asked c (.operationStatus operation account)] ++
        [.told c' (.operationStatus operation account) (.ok status)]) (some .scale)
  /-- The time limit was reached. -/
  | timedOut {talk : Talk Collaborators} {first last : Duration}
      (h : Polled operation account talk) (hfirst : (pollTimes talk).head? = some first)
      (hlast : (pollTimes talk).getLast? = some last) (hl : limit ≤ last - first) :
      Waited limit operation account talk (some .timeout)

/-- There are too few nodes, and the operation was started. -/
inductive Begun (p : Payload) (operation : String) : Talk Collaborators → Prop where
  /-- After two calls. -/
  | mk (c₁ c₂ c₃ c₄ : Duration) (description : FreeIpaDescription)
      (hfew : description.total < 2 ^ 64 → Short p description) :
      Begun p operation [.asked c₁ (.describeFreeIpa p.environmentCrn),
        .told c₂ (.describeFreeIpa p.environmentCrn) (.ok description),
        .asked c₃ (.upscaleFreeIpa p.environmentCrn p.target),
        .told c₄ (.upscaleFreeIpa p.environmentCrn p.target) (.ok operation)]

/-- The operation was started and waited for. -/
def Pursued (p : Payload) (limit : Duration) (talk : Talk Collaborators)
    (type : Option FailureType) : Prop :=
  ∃ operation before rest, talk = before ++ rest ∧ Begun p operation before ∧
    Waited limit operation p.accountId rest type

/-- What was said by the end, and the category of the failure that follows, if any. -/
inductive Concluded (p : Payload) (limit : Duration) :
    Talk Collaborators → Option FailureType → Prop where
  /-- The identity service could not be described. -/
  | undescribed (c c' : Duration) (e : CollaboratorError) :
      Concluded p limit [.asked c (.describeFreeIpa p.environmentCrn),
        .told c' (.describeFreeIpa p.environmentCrn) (.error e)] (some .scale)
  /-- There are enough nodes. -/
  | enough (c c' : Duration) (description : FreeIpaDescription)
      (hmany : description.total < 2 ^ 64 → ¬ Short p description) :
      Concluded p limit [.asked c (.describeFreeIpa p.environmentCrn),
        .told c' (.describeFreeIpa p.environmentCrn) (.ok description)] none
  /-- The operation could not be started. -/
  | refused (c₁ c₂ c₃ c₄ : Duration) (description : FreeIpaDescription)
      (hfew : description.total < 2 ^ 64 → Short p description) (e : CollaboratorError) :
      Concluded p limit [.asked c₁ (.describeFreeIpa p.environmentCrn),
        .told c₂ (.describeFreeIpa p.environmentCrn) (.ok description),
        .asked c₃ (.upscaleFreeIpa p.environmentCrn p.target),
        .told c₄ (.upscaleFreeIpa p.environmentCrn p.target) (.error e)] (some .scale)
  /-- The operation was waited for. -/
  | pursued {talk : Talk Collaborators} {type : Option FailureType}
      (h : Pursued p limit talk type) : Concluded p limit talk type

theorem Begun.began {operation : String} (hb : Begun p operation talk) :
    Began p talk operation := by
  obtain ⟨c₁, c₂, c₃, c₄, description, hfew⟩ := hb
  exact ⟨c₄, by simp⟩

theorem Pursued.began {limit : Duration} {type : Option FailureType}
    (h : Pursued p limit talk type) : ∃ operation, Began p talk operation := by
  obtain ⟨operation, before, rest, rfl, hb, -⟩ := h
  obtain ⟨c, hc⟩ := hb.began
  exact ⟨operation, c, List.mem_append_left _ hc⟩

/-! ### What the parts of an upscale say -/

variable {R : Rules Collaborators} {now : Duration} {event : vocabulary.Event}

/-- What entering `START` must come to. -/
def BeginsTo (limit : Duration) (event : vocabulary.Event) (talk : Talk Collaborators) :
    ActionResult vocabulary → Prop
  | .ok next =>
    (∃ operation, next = some ((event.followUp .inProgress).withOperationId operation) ∧
      Begun event.payload operation talk) ∨
    (next = some (event.followUp .skipped) ∧ Concluded event.payload limit talk none)
  | .error e => ∃ message, e = .failed message ∧
      Concluded event.payload limit talk (some .scale)

theorem obeys_begin (limit : Duration)
    (hdescribe : ∀ h, R.allows h (.describeFreeIpa event.payload.environmentCrn))
    (hupscale : ∀ h, R.allows h
      (.upscaleFreeIpa event.payload.environmentCrn event.payload.target)) :
    Obeys R (fun _ talk r => BeginsTo limit event talk r) (begin event) now [] := by
  refine Obeys.bind (obeys_adapt (Obeys.bind ⟨hdescribe _, ?_⟩))
  intro later x
  -- Only a description counts, also where an error is an answer to others.
  rcases x with (m | m | m) | description
  · exact ⟨_, rfl, .undescribed now later _⟩
  · exact ⟨_, rfl, .undescribed now later _⟩
  · exact ⟨_, rfl, .undescribed now later _⟩
  · show Obeys R _ (if description.nodeCount.toNat < _ then _ else _) later _
    split
    · have hfew : description.total < 2 ^ 64 → Short event.payload description :=
        fun hfits => (short_iff hfits).mpr ‹_›
      refine Obeys.bind (obeys_orRaise (hupscale _) ?_)
      intro last y
      cases y with
      | error e => exact ⟨_, rfl, .refused now later later last description hfew e⟩
      | ok operation =>
        exact obeys_pure (.inl ⟨operation, rfl, .mk now later later last description hfew⟩)
    · refine obeys_pure (.inr ⟨rfl, .enough now later description fun hfits hfew => ?_⟩)
      exact absurd ((short_iff hfits).mp hfew) ‹_›

/-- So many attempts of the wait that began after `h` settled nothing, the first at its start. -/
def Attempts (h : Talk Collaborators) (started : Duration) (operation account : String) (k : Nat)
    (talk : Talk Collaborators) : Prop :=
  ∃ said, talk = h ++ said ∧ Polled operation account said ∧ (k = 0 → said = []) ∧
    (k ≠ 0 → (pollTimes said).head? = some started)

theorem Attempts.begin (h : Talk Collaborators) (started : Duration)
    (operation account : String) : Attempts h started operation account 0 h :=
  ⟨[], (List.append_nil h).symm, .nil, fun _ => rfl, fun hk => absurd rfl hk⟩

/-- The first attempt begins the wait, and one more attempt does not change that. -/
theorem Attempts.head?_again {said : Talk Collaborators} {started : Duration} {k : Nat}
    (operation account : String) (hnil : k = 0 → said = [])
    (hhead : k ≠ 0 → (pollTimes said).head? = some started) (hk : k = 0 → now = started)
    (later : Duration) (x : Reading) :
    (pollTimes (said ++ [.asked now (.operationStatus operation account)] ++
      [.told later (.operationStatus operation account) x])).head? = some started := by
  cases k with
  | zero =>
    rw [hnil rfl, hk rfl]
    rfl
  | succ k =>
    rw [pollTimes_append, pollTimes_append, List.append_assoc, List.head?_append,
      hhead (Nat.succ_ne_zero k)]
    rfl

/-- What the wait for an operation must come to. -/
def WaitsTo (limit : Duration) (h : Talk Collaborators) (operation account : String)
    (cancelled : Prop) (talk : Talk Collaborators) : Except PollError Unit → Prop
  | .ok _ => ∃ said, talk = h ++ said ∧ Waited limit operation account said none
  | .error e => (ActionError.poll e).isCancellation = true ∧ cancelled ∨
    (ActionError.poll e).isCancellation = false ∧ ∃ said, talk = h ++ said ∧
      Waited limit operation account said (some ((ActionError.poll e).failureType .scale))

/-- A reading settles the wait as the status says, and is one more attempt otherwise. -/
theorem keeps_operationWait {polling : Polling} {resource : ResourceId} {started : Duration}
    {operation account : String} {h : Talk Collaborators}
    (hallow : ∀ said, R.allows (h ++ said) (.operationStatus operation account)) :
    (operationWait polling resource operation account).Keeps R started
      (Attempts h started operation account)
      fun o _ talk => WaitsTo polling.timeout h operation account (R.seen resource) talk o where
  cancelled k now talk _ hseen := .inl ⟨rfl, hseen⟩
  attempt k now talk hk hnow := by
    obtain ⟨said, rfl, hpolled, hnil, hhead⟩ := hk
    refine ⟨hallow _, ?_⟩
    intro later x
    have hsaid : ∀ x : Reading, h ++ said ++ [.asked now (.operationStatus operation account)] ++
        [.told later (.operationStatus operation account) x] =
        h ++ (said ++ [.asked now (.operationStatus operation account)] ++
          [.told later (.operationStatus operation account) x]) := by
      intro x
      simp
    -- A reading that settles nothing is one more attempt, or the last.
    have hagain : Unsettled x → (operationWait polling resource operation account).Settles started
        (Attempts h started operation account (k + 1))
        (fun o _ talk => WaitsTo polling.timeout h operation account (R.seen resource) talk o)
        later (h ++ said ++ [.asked now (.operationStatus operation account)] ++
          [.told later (.operationStatus operation account) x]) (.ok .again) := by
      intro hx
      have hfirst := Attempts.head?_again operation account hnil hhead hnow later x
      have hpolled' := hpolled.again now later x hx
      rw [hsaid]
      refine Wait.settles_again (fun ht => .inr ⟨rfl, _, rfl, ?_⟩)
        ⟨_, rfl, hpolled', fun hk => absurd hk (Nat.succ_ne_zero k), fun _ => hfirst⟩
      exact .timedOut hpolled' hfirst (by simp [pollTimes, pollTime?]) ht
    cases x with
    | error e => exact hagain nofun
    | ok status =>
      show Wait.Settles _ _ _ _ later _ (.ok (judge operation (some status)))
      cases hs : status.status with
      | completed =>
        simp only [judge, hs]
        exact Wait.settles_finish ⟨_, hsaid _, .completed hpolled now later status hs⟩
      | running =>
        simp only [judge, hs]
        refine hagain ?_
        intro status' hstatus
        cases hstatus
        exact hs
      | failed | rejected | timedOut =>
        simp only [judge, hs]
        refine Wait.settles_giveUp (.inr ⟨rfl, _, hsaid _, ?_⟩)
        exact .ended hpolled now later status (by rw [hs]; exact nofun) (by rw [hs]; exact nofun)

/-- What the work of the handler must come to. -/
def AwaitsTo (limit : Duration) (event : vocabulary.Event) (cancelled : Prop)
    (talk : Talk Collaborators) : HandlerResult vocabulary → Prop
  | .ok next => next = event.followUp .success ∧ Pursued event.payload limit talk none
  | .error e => (e.isCancellation = true → cancelled) ∧ (e.isCancellation = false →
      Pursued event.payload limit talk (some (e.failureType .scale)))

theorem obeys_awaitOperation {polling : Polling} {operation : String} {h : Talk Collaborators}
    (ho : event.operationId = some operation) (hb : Begun event.payload operation h)
    (hallow : ∀ said, R.allows (h ++ said) (.operationStatus operation event.payload.accountId)) :
    Obeys R (fun _ talk r => AwaitsTo polling.timeout event (R.seen event.resourceId) talk r)
      (awaitOperation polling event) now h := by
  unfold awaitOperation
  rw [ho]
  refine Obeys.bind (obeys_wait (Attempts.begin ..) ((keeps_operationWait hallow).mono ?_))
  intro o later talk hw
  cases o with
  | ok _ =>
    obtain ⟨said, rfl, hw⟩ := hw
    exact obeys_pure ⟨rfl, operation, h, said, rfl, hb, hw⟩
  | error e =>
    rcases hw with ⟨hc, hseen⟩ | ⟨hc, said, rfl, hw⟩
    · refine ⟨fun _ => hseen, fun hc' => ?_⟩
      have hc' : (ActionError.poll e).isCancellation = false := hc'
      rw [hc] at hc'
      cases hc'
    · refine ⟨fun hc' => ?_, fun _ => ⟨operation, h, said, rfl, hb, hw⟩⟩
      have hc' : (ActionError.poll e).isCancellation = true := hc'
      rw [hc] at hc'
      cases hc'

/-! ### The account -/

/-- What was said when an event of a selector is at hand in a state, and what the run and the event
    keep of it. -/
def AtHand (p : Payload) (limit : Duration) (i : Instance vocabulary) (event : vocabulary.Event)
    (talk : Talk Collaborators) : State → Selector → Prop
  | .init, .start => i.failure = none ∧ talk = []
  | .start, .inProgress | .inProgress, .waitRequest => i.failure = none ∧
      ∃ operation, event.operationId = some operation ∧ Begun p operation talk
  | .start, .skipped | .inProgress, .success | .finished, .finalized =>
      i.failure = none ∧ Concluded p limit talk none
  | .start, .failed | .inProgress, .failed => ∃ failure, event.failure = some failure ∧
      Concluded p limit talk (some failure.type)
  | .failed, .failedHandled => ∃ failure, i.failure = some failure ∧
      Concluded p limit talk (some failure.type)
  | _, _ => False

/-- Where the operation goes on, it was started. -/
def Backed (p : Payload) (i : Instance vocabulary) (talk : Talk Collaborators) : Prop :=
  .inProgress ∈ i.history → ∃ operation, Began p talk operation

/-- An event of the run's resource and payload is at hand. -/
structure Ready (p : Payload) (limit : Duration) (i : Instance vocabulary)
    (event : vocabulary.Event) (talk : Talk Collaborators) : Prop where
  /-- It is about the run's resource. -/
  resource : event.resourceId = i.params.resourceId
  /-- It carries the run's payload. -/
  payload : event.payload = p
  /-- The run is as the talk has it. -/
  backed : Backed p i talk
  /-- What was said fits the state and the event. -/
  atHand : AtHand p limit i event talk i.state event.selector

/-- Which calls are made, after which talk. -/
def Allowed (p : Payload) (talk : Talk Collaborators) : Call → Prop
  | .describeFreeIpa environment => environment = p.environmentCrn
  | .upscaleFreeIpa environment target => environment = p.environmentCrn ∧ target = p.target
  | .operationStatus operation account => Began p talk operation ∧ account = p.accountId
  | _ => False

section Account

variable {p : Payload} {limit : Duration} {i : Instance vocabulary} {event : vocabulary.Event}
  {talk : Talk Collaborators} {s : State}

theorem AtHand.going {selector : Selector} (ha : AtHand p limit i event talk s selector) :
    isTerminal s = false := by
  cases s with
  | final => exact absurd ha id
  | _ => rfl

/-- Only in one state is an event at hand that is not for a transition. -/
theorem AtHand.next {selector : Selector} (ha : AtHand p limit i event talk s selector) :
    (s = .inProgress ∧ selector = .waitRequest) ∨
      (selector ≠ .waitRequest ∧ (transition s selector).isSome = true) := by
  cases s <;> cases selector <;>
    first
    | exact .inl ⟨rfl, rfl⟩
    | exact .inr ⟨nofun, rfl⟩
    | exact absurd ha id

/-- What was said when a state is entered on an event at hand, and what the run and the event keep
    of it. -/
def Entered (p : Payload) (limit : Duration) (i : Instance vocabulary) (event : vocabulary.Event)
    (talk : Talk Collaborators) : State → Prop
  | .init => False
  | .start => i.failure = none ∧ talk = []
  | .inProgress => i.failure = none ∧
      ∃ operation, event.operationId = some operation ∧ Begun p operation talk
  | .finished => i.failure = none ∧ Concluded p limit talk none
  | .failed => ∃ failure, event.failure = some failure ∧
      Concluded p limit talk (some failure.type)
  | .final => Concluded p limit talk (i.failure.map Failure.type)

theorem AtHand.entered {selector : Selector} {s' : State}
    (ha : AtHand p limit i event talk s selector) (ht : transition s selector = some s') :
    Entered p limit i event talk s' := by
  cases s <;> cases selector <;> first | exact absurd ha id | cases ht
  case finished.finalized.refl =>
    obtain ⟨hn, hc⟩ := ha
    show Concluded p limit talk (i.failure.map Failure.type)
    rw [hn]
    exact hc
  case failed.failedHandled.refl =>
    obtain ⟨failure, hf, hc⟩ := ha
    show Concluded p limit talk (i.failure.map Failure.type)
    rw [hf]
    exact hc
  all_goals exact ha

/-- Entering a state, the run is backed if the operation was started. -/
theorem Backed.entered (hb : Backed p i talk)
    (hs : s = .inProgress → ∃ operation, Began p talk operation) :
    Backed p (definition.entered i s event) talk := by
  intro hin
  rw [Definition.history_entered, List.mem_append, List.mem_singleton] at hin
  exact hin.elim hb fun h => hs h.symm

/-- The next event of a state that was just entered. -/
theorem Ready.ofEntered {next : vocabulary.Event}
    (hresource : next.resourceId = i.params.resourceId) (hpayload : next.payload = p)
    (hb : Backed p (definition.entered i s event) talk)
    (ha : AtHand p limit (definition.entered i s event) next talk s next.selector) :
    Ready p limit (definition.entered i s event) next talk := by
  refine ⟨?_, hpayload, hb, ?_⟩
  · rw [Definition.params_entered]
    exact hresource
  · rw [Definition.state_entered]
    exact ha

/-- Entering a state from another one, the run does there what its account allows. -/
theorem obeys_execute {seen : ResourceId → Prop} (hr : Ready p limit i event talk)
    (hs : Entered p limit i event talk s) (hter : isTerminal s = false) :
    Obeys ⟨seen, Allowed p⟩ (fun _ talk r => definition.Resumes s i.params event
        (seen i.params.resourceId) (Ready p limit (definition.entered i s event) · talk) r)
      (execute s i.params event) now talk := by
  obtain ⟨hresource, rfl, hback, -⟩ := hr
  have hbacked : s ≠ .inProgress → Backed event.payload (definition.entered i s event) talk :=
    fun hne => hback.entered fun h => absurd h hne
  cases s with
  | init => exact absurd hs id
  | final => cases hter
  | start =>
    obtain ⟨hn, rfl⟩ := hs
    refine (obeys_begin limit ?_ ?_).mono ?_
    · exact fun _ => rfl
    · exact fun _ => ⟨rfl, rfl⟩
    · intro now talk r hr
      have hb : Backed event.payload (definition.entered i .start event) talk := by
        refine Backed.entered (fun hin => ?_) nofun
        obtain ⟨operation, c, hc⟩ := hback hin
        cases hc
      cases r with
      | error e =>
        obtain ⟨message, rfl, hc⟩ := hr
        exact ⟨nofun, fun _ => .ofEntered hresource rfl hb ⟨_, rfl, hc⟩⟩
      | ok next =>
        rcases hr with ⟨operation, rfl, hbegun⟩ | ⟨rfl, hc⟩
        · exact ⟨_, rfl, .ofEntered hresource rfl hb ⟨hn, operation, rfl, hbegun⟩⟩
        · exact ⟨_, rfl, .ofEntered hresource rfl hb ⟨hn, hc⟩⟩
  | inProgress =>
    obtain ⟨hn, operation, ho, hbegun⟩ := hs
    have hb : Backed event.payload (definition.entered i .inProgress event) talk :=
      hback.entered fun _ => ⟨operation, hbegun.began⟩
    exact ⟨_, rfl, .ofEntered hresource rfl hb ⟨hn, operation, ho, hbegun⟩⟩
  | finished =>
    obtain ⟨hn, hc⟩ := hs
    exact ⟨_, rfl, .ofEntered hresource rfl (hbacked nofun) ⟨hn, hc⟩⟩
  | failed =>
    obtain ⟨failure, hf, hc⟩ := hs
    refine ⟨_, rfl, .ofEntered hresource rfl (hbacked nofun) ⟨failure, ?_, hc⟩⟩
    show some (event.failure.getD _) = some failure
    rw [hf]
    rfl

/-- The handler does what the account allows. -/
theorem obeys_waitHandler {seen : ResourceId → Prop} {polling : Polling}
    (hr : Ready p polling.timeout i event talk) (hs : i.state = .inProgress)
    (hsel : event.selector = .waitRequest) (flow : Option FlowId) :
    ((waitHandler polling).accept flow event).Obeys ⟨seen, Allowed p⟩ (fun _ talk r =>
      (waitHandler polling).Resumes event (seen i.params.resourceId)
        (Ready p polling.timeout i · talk) r) now talk := by
  obtain ⟨hresource, rfl, -, hat⟩ := hr
  rw [hs, hsel] at hat
  obtain ⟨hn, operation, ho, hbegun⟩ := hat
  obtain ⟨c, hc⟩ := hbegun.began
  -- Whatever the wait comes to, the operation was started.
  have hready : ∀ {talk type} (next : vocabulary.Event), next.resourceId = event.resourceId →
      next.payload = event.payload → Pursued event.payload polling.timeout talk type →
      AtHand event.payload polling.timeout i next talk .inProgress next.selector →
      Ready event.payload polling.timeout i next talk := fun next hnr hnp hpursued ha =>
    ⟨hnr.trans hresource, hnp, fun _ => hpursued.began, by rw [hs]; exact ha⟩
  refine (obeys_awaitOperation ho hbegun ?_).mono ?_
  · exact fun _ => ⟨⟨c, List.mem_append_left _ hc⟩, rfl⟩
  · intro now talk r hr
    cases r with
    | ok next =>
      obtain ⟨rfl, hpursued⟩ := hr
      exact hready _ rfl rfl hpursued ⟨hn, .pursued hpursued⟩
    | error e =>
      obtain ⟨hcancelled, hfailed⟩ := hr
      refine ⟨fun hcan => hresource ▸ hcancelled hcan, fun hcan => ?_⟩
      exact hready _ rfl rfl (hfailed hcan) ⟨_, rfl, .pursued (hfailed hcan)⟩

end Account

/-- The start event is at hand at the start. -/
theorem ready_start (limit : Duration) (q : StartRequest vocabulary) (f : FlowId)
    (flowType : String) :
    Ready q.payload limit (.new (q.params f flowType) .init) (q.event .start) [] := by
  refine ⟨rfl, rfl, fun hin => ?_, ⟨rfl, rfl⟩⟩
  cases List.mem_singleton.mp hin

/-- Upscales account for what they say. -/
def account (polling : Polling) (p : Payload) (seen : ResourceId → Prop) :
    Account definition (.ofList (handlers polling)) where
  seen := seen
  allows _ := Allowed p
  ready := Ready p polling.timeout
  closing i talk := Concluded p polling.timeout talk (i.failure.map Failure.type) ∧
    Backed p i talk
  going i event talk hr := hr.atHand.going
  handled i event talk hd now hr hh := by
    rw [handler?_eq] at hh
    rcases hr.atHand.next with ⟨hs, hsel⟩ | ⟨hne, -⟩
    · rw [if_pos hsel] at hh
      obtain rfl := Option.some.inj hh
      exact obeys_waitHandler hr hs hsel _
    · rw [if_neg hne] at hh
      cases hh
  next i event talk hr hh := by
    rcases hr.atHand.next with ⟨-, hsel⟩ | ⟨-, ht⟩
    · rw [handler?_eq, if_pos hsel] at hh
      cases hh
    · exact ht
  entered i event talk s now hr _ ht hter := obeys_execute hr (hr.atHand.entered ht) hter
  closed i event talk s hr _ ht hter := by
    have hs := hr.atHand.entered ht
    cases s with
    | final => exact ⟨⟨hs, hr.backed.entered nofun⟩, none, rfl⟩
    | _ => cases hter

/-! ### The outcome -/

section Outcome

variable {p : Payload} {limit : Duration} {operation account : String}
  {talk before rest : Talk Collaborators} {type : Option FailureType}

theorem Polled.unsettled (hp : Polled operation account talk) :
    ∀ x ∈ readings talk, Unsettled x := by
  induction hp with
  | nil => exact List.forall_mem_nil _
  | again h c c' x hx ih =>
    rw [readings_append, readings_append, List.forall_mem_append, List.forall_mem_append]
    exact ⟨⟨ih, List.forall_mem_nil _⟩, List.forall_mem_singleton.mpr hx⟩

theorem Polled.call_eq (hp : Polled operation account talk) :
    ∀ x ∈ talk, x.call = .operationStatus operation account := by
  induction hp with
  | nil => exact List.forall_mem_nil _
  | again h c c' x hx ih =>
    rw [List.forall_mem_append, List.forall_mem_append]
    exact ⟨⟨ih, List.forall_mem_singleton.mpr rfl⟩, List.forall_mem_singleton.mpr rfl⟩

namespace Waited

theorem call_eq (hw : Waited limit operation account rest type) :
    ∀ x ∈ rest, x.call = .operationStatus operation account := by
  cases hw with
  | completed h | ended h =>
    rw [List.forall_mem_append, List.forall_mem_append]
    exact ⟨⟨h.call_eq, List.forall_mem_singleton.mpr rfl⟩, List.forall_mem_singleton.mpr rfl⟩
  | timedOut h => exact h.call_eq

/-- The wait was completed, or it was not, and then it timed out or the operation ended. -/
theorem type_eq (hw : Waited limit operation account rest type) :
    (type = none ∧ Completed rest ∧ ¬ TimedOut rest limit) ∨
      (type = some .scale ∧ ¬ Completed rest ∧ ¬ TimedOut rest limit) ∨
      (type = some .timeout ∧ ¬ Completed rest ∧ TimedOut rest limit) := by
  -- A reading that settled something is not one that a time limit was reached with.
  have hsettled : ∀ {talk c c' status}, status.status ≠ .running →
      ¬ TimedOut (talk ++ [.asked c (.operationStatus operation account)] ++
        [.told c' (.operationStatus operation account) (.ok status)]) limit := by
    intro talk c c' status hs ht
    exact hs (ht.1 (.ok status) (by simp [readings, reading?]) status rfl)
  cases hw with
  | @completed talk h c c' status hs =>
    refine .inl ⟨rfl, ⟨readings talk, status, [], ?_, hs, h.unsettled⟩, hsettled ?_⟩
    · rw [readings_append, readings_append]
      simp [readings, reading?]
    · rw [hs]
      exact nofun
  | @ended talk h c c' status hs hr =>
    refine .inr (.inl ⟨rfl, ?_, hsettled hr⟩)
    rintro ⟨before, status', after, hread, hs', -⟩
    have hmem : (.ok status' : Reading) ∈ readings talk ++ [.ok status] := by
      rw [show readings talk ++ [.ok status] = before ++ .ok status' :: after by
        rw [← hread, readings_append, readings_append]; simp [readings, reading?]]
      simp
    rcases List.mem_append.mp hmem with hm | hm
    · rw [h.unsettled _ hm status' rfl] at hs'
      cases hs'
    · cases List.mem_singleton.mp hm
      exact hs hs'
  | timedOut h hfirst hlast hl =>
    refine .inr (.inr ⟨rfl, ?_, h.unsettled, _, _, hfirst, hlast, hl⟩)
    rintro ⟨before, status, after, hread, hs, -⟩
    rw [h.unsettled (.ok status) (by rw [hread]; simp) status rfl] at hs
    cases hs

end Waited

/-- In the wait only the status of the operation is talked about. -/
theorem told_of_call_ne (hrest : ∀ x ∈ rest, x.call = .operationStatus operation account)
    {c : Duration} {q : Call} {x : Except CollaboratorError q.Value}
    (hq : q ≠ .operationStatus operation account)
    (hx : (.told c q x : Entry Collaborators) ∈ before ++ rest) : .told c q x ∈ before :=
  (List.mem_append.mp hx).resolve_right fun hx => hq (hrest _ hx)

namespace Begun

theorem completed_iff (hb : Begun p operation before) :
    Completed (before ++ rest) ↔ Completed rest := by
  cases hb
  exact Iff.rfl

theorem timedOut_iff (hb : Begun p operation before) :
    TimedOut (before ++ rest) limit ↔ TimedOut rest limit := by
  cases hb
  exact Iff.rfl

theorem upscales_eq (hb : Begun p operation before)
    (hrest : ∀ x ∈ rest, x.call = .operationStatus operation account) :
    upscales (before ++ rest) = [(p.environmentCrn, p.target)] := by
  have hnone : upscales rest = [] := by
    refine List.filterMap_eq_nil_iff.mpr fun x hx => ?_
    have hcall := hrest x hx
    cases x with
    | told => rfl
    | asked c q =>
      obtain rfl : q = _ := hcall
      rfl
  rw [upscales_append, hnone]
  cases hb
  rfl

theorem described (hb : Begun p operation before) (rest : Talk Collaborators) :
    ∃ description, Described p (before ++ rest) description := by
  cases hb with
  | mk c₁ c₂ c₃ c₄ description hfew => exact ⟨description, c₂, by simp⟩

/-- The identity service was described with too few nodes. -/
theorem short (hb : Begun p operation before)
    (hrest : ∀ x ∈ rest, x.call = .operationStatus operation account)
    (hcount : Counted p (before ++ rest)) {description : FreeIpaDescription}
    (hd : Described p (before ++ rest) description) : Short p description := by
  have hfits := hcount _ hd
  obtain ⟨c, hd⟩ := hd
  have hd : .told c (.describeFreeIpa p.environmentCrn) (.ok description) ∈ before :=
    told_of_call_ne hrest nofun hd
  cases hb with
  | mk c₁ c₂ c₃ c₄ description' hfew =>
    obtain ⟨-, rfl⟩ : c = c₂ ∧ description = description' := by simpa using hd
    exact hfew hfits

end Begun

/-- What an upscale must have been told to be finished. -/
def Succeeded (p : Payload) (talk : Talk Collaborators) : Prop :=
  ∃ description, Described p talk description ∧
    (¬ Short p description ∨ (∃ operation, Began p talk operation) ∧ Completed talk)

/-- The identity service could not be described, or the operation not be started. -/
def Hindered (p : Payload) (talk : Talk Collaborators) : Prop :=
  ∃ c e, .told c (.describeFreeIpa p.environmentCrn) (.error e) ∈ talk ∨
    .told c (.upscaleFreeIpa p.environmentCrn p.target) (.error e) ∈ talk

namespace Concluded

/-- One operation is asked for at most. -/
theorem upscales_cases (hc : Concluded p limit talk type) :
    upscales talk = [] ∨ upscales talk = [(p.environmentCrn, p.target)] := by
  cases hc with
  | undescribed | enough => exact .inl rfl
  | refused => exact .inr rfl
  | pursued h =>
    obtain ⟨operation, before, rest, rfl, hb, hw⟩ := h
    exact .inr (hb.upscales_eq hw.call_eq)

/-- One operation is asked for if there are too few nodes, none otherwise. -/
theorem upscales_eq (hc : Concluded p limit talk type) (hcount : Counted p talk) :
    (Few p talk ∧ upscales talk = [(p.environmentCrn, p.target)]) ∨
      (¬ Few p talk ∧ upscales talk = []) := by
  cases hc with
  | undescribed c c' e => exact .inr ⟨by simp [Few, Described], rfl⟩
  | enough c c' description hmany =>
    refine .inr ⟨?_, rfl⟩
    rintro ⟨description', hd, hfew⟩
    have hfits := hcount _ hd
    obtain ⟨c, hd⟩ := hd
    obtain ⟨-, rfl⟩ : c = c' ∧ description' = description := by simpa using hd
    exact hmany hfits hfew
  | refused c₁ c₂ c₃ c₄ description hfew e =>
    have hfits := hcount description ⟨c₂, .tail _ (.head _)⟩
    exact .inl ⟨⟨description, ⟨c₂, .tail _ (.head _)⟩, hfew hfits⟩, rfl⟩
  | pursued h =>
    obtain ⟨operation, before, rest, rfl, hb, hw⟩ := h
    obtain ⟨description, hd⟩ := hb.described rest
    exact .inl ⟨⟨description, hd, hb.short hw.call_eq hcount hd⟩, hb.upscales_eq hw.call_eq⟩

/-- There is no failure exactly if what was said lets the upscale succeed. -/
theorem none_iff (hc : Concluded p limit talk type) (hcount : Counted p talk) :
    type = none ↔ Succeeded p talk := by
  cases hc with
  | undescribed c c' e => simp [Succeeded, Described]
  | enough c c' description hmany =>
    have hfits := hcount description ⟨c', .tail _ (.head _)⟩
    exact ⟨fun _ => ⟨description, ⟨c', .tail _ (.head _)⟩, .inl (hmany hfits)⟩, fun _ => rfl⟩
  | refused c₁ c₂ c₃ c₄ description hfew e =>
    refine ⟨nofun, ?_⟩
    rintro ⟨description', hd, hmany | ⟨⟨operation, c', ho⟩, -⟩⟩
    · have hfits := hcount _ hd
      obtain ⟨c, hd⟩ := hd
      obtain ⟨-, rfl⟩ : c = c₂ ∧ description' = description := by simpa using hd
      exact absurd (hfew hfits) hmany
    · simp at ho
  | pursued h =>
    obtain ⟨operation, before, rest, rfl, hb, hw⟩ := h
    obtain ⟨description, hd⟩ := hb.described rest
    have hcompleted : type = none ↔ Completed (before ++ rest) := by
      rw [hb.completed_iff]
      rcases hw.type_eq with ⟨rfl, h, -⟩ | ⟨rfl, h, -⟩ | ⟨rfl, h, -⟩ <;> simp [h]
    rw [hcompleted]
    constructor
    · exact fun h => ⟨description, hd, .inr ⟨Pursued.began ⟨_, _, _, rfl, hb, hw⟩, h⟩⟩
    · rintro ⟨description', hd', hmany | ⟨-, h⟩⟩
      · exact absurd (hb.short hw.call_eq hcount hd') hmany
      · exact h

/-- The category of a failure is as what was said calls for. -/
theorem type_cases (hc : Concluded p limit talk type) :
    (type = none ∨ type = some .scale) ∧ ¬ TimedOut talk limit ∨
      type = some .timeout ∧ TimedOut talk limit := by
  have hsilent : ∀ {talk}, pollTimes talk = [] → ¬ TimedOut talk limit := by
    rintro talk hnil ⟨-, first, last, hfirst, -⟩
    rw [hnil] at hfirst
    cases hfirst
  cases hc with
  | undescribed c c' e => exact .inl ⟨.inr rfl, hsilent rfl⟩
  | enough c c' description hmany => exact .inl ⟨.inl rfl, hsilent rfl⟩
  | refused c₁ c₂ c₃ c₄ description hfew e => exact .inl ⟨.inr rfl, hsilent rfl⟩
  | pursued h =>
    obtain ⟨operation, before, rest, rfl, hb, hw⟩ := h
    rw [hb.timedOut_iff]
    rcases hw.type_eq with ⟨ht, -, h⟩ | ⟨ht, -, h⟩ | ⟨ht, -, h⟩
    · exact .inl ⟨.inl ht, h⟩
    · exact .inl ⟨.inr ht, h⟩
    · exact .inr ⟨ht, h⟩

/-- Where one of the two calls before the wait failed, no operation was started. -/
theorem not_began (hc : Concluded p limit talk type) (hh : Hindered p talk) (operation : String) :
    ¬ Began p talk operation := by
  rintro ⟨c', hbegan⟩
  obtain ⟨c, e, hh⟩ := hh
  cases hc with
  | undescribed => simp at hbegan
  | enough => simp at hbegan
  | refused => simp at hbegan
  | pursued h =>
    obtain ⟨operation', before, rest, rfl, hb, hw⟩ := h
    have hbefore : .told c (.describeFreeIpa p.environmentCrn) (.error e) ∈ before ∨
        .told c (.upscaleFreeIpa p.environmentCrn p.target) (.error e) ∈ before :=
      hh.imp (told_of_call_ne hw.call_eq nofun) (told_of_call_ne hw.call_eq nofun)
    cases hb
    simp at hbefore

end Concluded

/-- How a run that was not cancelled ended, told by all that was said. Where the number of nodes
    matters, it is one that can be counted. -/
structure Explained (p : Payload) (limit : Duration) (talk : Talk Collaborators)
    (i : Instance vocabulary) : Prop where
  /-- One operation was asked for at most. -/
  once : upscales talk = [] ∨ upscales talk = [(p.environmentCrn, p.target)]
  /-- If there were too few nodes, one was. -/
  upscaled : Counted p talk → Few p talk → upscales talk = [(p.environmentCrn, p.target)]
  /-- Otherwise none was. -/
  spared : Counted p talk → ¬ Few p talk → upscales talk = []
  /-- Only the status of an operation that was started was asked for. -/
  asked : ∀ before c operation account after,
    talk = before ++ .asked c (.operationStatus operation account) :: after →
      Began p before operation ∧ account = p.accountId
  /-- The run is finished if there were enough nodes, or the operation completed. -/
  finished : Counted p talk → (i.status = .finished ↔ Succeeded p talk)
  /-- Otherwise it failed, as timed out or not. -/
  failed : i.status ≠ .finished → i.status = .failed ∧ ∃ failure, i.failure = some failure ∧
    (failure.type = .timeout ↔ TimedOut talk limit) ∧
    (failure.type ≠ .timeout → failure.type = .scale)
  /-- If one of the two calls before the wait failed, the wait's state was never entered. -/
  stopped : Hindered p talk → .inProgress ∉ i.history

/-- What was said when a terminal state was entered explains how the run ends there. -/
theorem Explained.of_concluded {i : Instance vocabulary}
    (hc : Concluded p limit talk (i.failure.map Failure.type)) (hb : Backed p i talk)
    (hs : i.status = if i.failure.isSome then .failed else .finished)
    (hasked : ∀ before c operation account after,
      talk = before ++ .asked c (.operationStatus operation account) :: after →
        Began p before operation ∧ account = p.accountId) : Explained p limit talk i where
  once := hc.upscales_cases
  upscaled hcount hfew := by
    rcases hc.upscales_eq hcount with ⟨-, h⟩ | ⟨hno, -⟩
    · exact h
    · exact absurd hfew hno
  spared hcount hno := by
    rcases hc.upscales_eq hcount with ⟨hfew, -⟩ | ⟨-, h⟩
    · exact absurd hfew hno
    · exact h
  asked := hasked
  finished hcount := by
    rw [← hc.none_iff hcount, hs]
    cases i.failure <;> simp
  failed hne := by
    rw [hs] at hne ⊢
    cases hf : i.failure with
    | none =>
      rw [hf] at hne
      exact absurd rfl hne
    | some failure =>
      rw [hf] at hc
      refine ⟨rfl, failure, rfl, ?_⟩
      rcases hc.type_cases with ⟨h | h, htime⟩ | ⟨h, htime⟩
      · cases h
      · have h : failure.type = .scale := Option.some.inj h
        rw [h]
        exact ⟨⟨nofun, fun ht => absurd ht htime⟩, fun _ => rfl⟩
      · have h : failure.type = .timeout := Option.some.inj h
        rw [h]
        exact ⟨⟨fun _ => htime, fun _ => rfl⟩, fun hne => absurd rfl hne⟩
  stopped hh hin := by
    obtain ⟨operation, hbegan⟩ := hb hin
    exact hc.not_began hh operation hbegan

end Outcome

/-- What was said when a terminal state was entered explains how the run ends there. -/
theorem explains (polling : Polling) (p : Payload) (params : FlowParameters)
    (seen : ResourceId → Prop) :
    (account polling p seen).Explains params (Explained p polling.timeout) := by
  intro i talk s now hrun _ hc hallowed hs
  obtain ⟨hconcluded, hbacked⟩ := hc
  refine .of_concluded ?_ ?_ ?_ ?_
  · rwa [Instance.failure_finish]
  · unfold Backed
    rwa [Instance.history_finish]
  · rwa [Instance.status_finish_of_running hrun, Instance.failure_finish]
  · intro before c operation account after htalk
    obtain ⟨_, hasked⟩ := hallowed before c _ after htalk
    exact hasked

end Upscale

namespace World

section Outcome

variable {engines : List (Definition Upscale.vocabulary Collaborators ×
    List (Handler Upscale.vocabulary Collaborators) × Nat)}
  {E : Execution Upscale.vocabulary Collaborators} {e : EngineId} {polling : Polling}
  {retention n₀ serial : Nat} {q : StartRequest Upscale.vocabulary}

/-- An upscale that is started on a free lane and gets no event from outside ends in every fair
    execution, whatever the identity service answers, and nothing is said after its end. It is
    cancelled only if a cancel of it is recorded, and otherwise what was said explains how it
    ended. -/
theorem upscale_outcome (h₀ : E.world 0 = initial engines) (hf : E.Fair)
    (hp : 0 < polling.interval)
    (he : engines[e]? = some (Upscale.definition, Upscale.handlers polling, retention))
    (hl : E.label n₀ = .start e serial q) (hfree : (E.world n₀).lane? q.resourceId = none)
    (hno : ∀ n e' event, E.label n ≠ .dispatch e' (.opened serial) event) :
    ∃ n i, E.EndsIn e (.opened serial) n i ∧
      (∀ m, n ≤ m → E.talk e (.opened serial) m = E.talk e (.opened serial) n) ∧
      ((∀ m, ¬ CancelRecorded (E.world m) (E.world (m + 1)) q.resourceId (.opened serial)) →
        i.status ≠ .cancelled) ∧
      (i.status ≠ .cancelled →
        Upscale.Explained q.payload polling.timeout (E.talk e (.opened serial) n) i) := by
  obtain ⟨n, i, s, hc⟩ :=
    Execution.closes_of_start (Upscale.account polling q.payload) (Upscale.plan polling hp) h₀ hf
      he (fun _ _ => Iff.rfl) (.head _) (fun _ => Upscale.ready_start _ q _ _) hl hfree hno
  exact ⟨n, _, hc.ends, hc.silent, hc.uncancelled, hc.explained (Upscale.explains polling _ _ _)⟩

end Outcome

/-- An engine that upscales identity services. -/
def upscaleEngines : List (Definition Upscale.vocabulary Collaborators ×
    List (Handler Upscale.vocabulary Collaborators) × Nat) :=
  [(Upscale.definition, Upscale.handlers ⟨1, 10, false⟩, 1)]

/-- An identity service is to be made highly available. -/
def upscaleRequest : StartRequest Upscale.vocabulary where
  resourceId := 7
  resourceCrn := "environment"
  payload := ⟨"environment", "account", .ha⟩

/-- Two nodes, in two groups. -/
def twoNodes : FreeIpaDescription where
  status := "Available"
  availability := some .available
  instanceGroups := [⟨"master", 1⟩, ⟨"replica", 1⟩]

/-- There are two nodes, and an operation is started; its status cannot be read before it is
    completed. -/
def growing (completed : Bool) : Collaborators.Reply
  | .describeFreeIpa _ => .ok twoNodes
  | .upscaleFreeIpa .. => .ok "operation"
  | .operationStatus operation _ =>
    if completed then .ok ⟨operation, .completed, none⟩ else .error (.transport "later")
  | _ => .error (.notFound "never")

/-- The upscale from its start to its end. -/
def growthRun : List (Label Upscale.vocabulary Collaborators) :=
  .start 0 0 upscaleRequest :: List.replicate 10 (.run 0 (growing false)) ++
    .elapse 1 :: List.replicate 7 (.run 0 (growing true))

/-- The world after the upscale. -/
def grown : World Upscale.vocabulary Collaborators :=
  ((initial upscaleEngines).follow growthRun).get rfl

theorem follow_growthRun : (initial upscaleEngines).follow growthRun = some grown := rfl

/-- The upscale, after which only time passes. -/
def growth : Execution Upscale.vocabulary Collaborators := .ofFollow follow_growthRun

/-- All that is said. -/
def growthTalk : Talk Collaborators := [
  .asked 0 (.describeFreeIpa "environment"), .told 0 (.describeFreeIpa "environment") (.ok twoNodes),
  .asked 0 (.upscaleFreeIpa "environment" .ha),
  .told 0 (.upscaleFreeIpa "environment" .ha) (.ok "operation"),
  .asked 0 (.operationStatus "operation" "account"),
  .told 0 (.operationStatus "operation" "account") (.error (.transport "later")),
  .asked 1 (.operationStatus "operation" "account"),
  .told 1 (.operationStatus "operation" "account") (.ok ⟨"operation", .completed, none⟩)]

/-- Two nodes are too few. A reading that fails does no harm: the upscale is finished when the next
    one tells that the operation is completed. -/
theorem upscale_outcome_growth : growth.Fair ∧ ∃ n i, growth.EndsIn 0 (.opened 0) n i ∧
    growth.talk 0 (.opened 0) n = growthTalk ∧ i.status = .finished ∧
    Upscale.Counted upscaleRequest.payload growthTalk ∧
    Upscale.Few upscaleRequest.payload growthTalk ∧
    Upscale.upscales growthTalk = [("environment", .ha)] := by
  have h₀ : growth.world 0 = initial upscaleEngines := rfl
  have hf : growth.Fair := Execution.fair_ofFollow _ (growing true) (by decide)
  have he : upscaleEngines[0]? =
      some (Upscale.definition, Upscale.handlers ⟨1, 10, false⟩, 1) := rfl
  obtain ⟨n, i, hends, hsilent, hcalm, hexplained⟩ := upscale_outcome (E := growth) h₀ hf
    (by decide) he (show growth.label 0 = .start 0 0 upscaleRequest from rfl) rfl
    (fun n e' event => Execution.undelivered_ofFollow _ rfl (.opened 0) n e' event)
  have hexplained := hexplained <| hcalm fun m hrec => by
    obtain ⟨k, e, -, hl⟩ := Execution.asked_of_recorded h₀ hrec
    exact Execution.uncancelled_ofFollow _ rfl k e _ hl
  have hn : n ≤ 19 := by
    refine Nat.le_of_not_lt fun hlate => ?_
    -- After the last label of the run the upscale does not run any more.
    obtain ⟨k, rfl⟩ := Nat.exists_eq_add_of_lt hlate
    have hruns := hends.runs
    rw [show growth.world (19 + k + 1) = { grown with now := grown.now + (k + 1) } from
      Execution.play_after follow_growthRun (k + 1)] at hruns
    cases hruns
  have htalk : growth.talk 0 (.opened 0) n = growthTalk := (hsilent 19 hn).symm.trans rfl
  rw [htalk] at hexplained
  have hdescribed : Upscale.Described upscaleRequest.payload growthTalk twoNodes :=
    ⟨0, .tail _ (.head _)⟩
  have hcounted : Upscale.Counted upscaleRequest.payload growthTalk := by
    rintro description ⟨c, hd⟩
    obtain ⟨-, rfl⟩ : c = 0 ∧ description = twoNodes := by
      simpa [growthTalk, upscaleRequest] using hd
    decide
  have hfew : Upscale.Few upscaleRequest.payload growthTalk :=
    ⟨_, hdescribed, (by decide : twoNodes.total < 3)⟩
  have hbegan : Upscale.Began upscaleRequest.payload growthTalk "operation" :=
    ⟨0, .tail _ (.tail _ (.tail _ (.head _)))⟩
  have hcompleted : Upscale.Completed growthTalk :=
    ⟨[.error (.transport "later")], ⟨"operation", .completed, none⟩, [], rfl, rfl,
      by simp [Upscale.Unsettled]⟩
  exact ⟨hf, n, i, hends, htalk,
    (hexplained.finished hcounted).mpr ⟨_, hdescribed, .inr ⟨⟨_, hbegan⟩, hcompleted⟩⟩,
    hcounted, hfew, hexplained.upscaled hcounted hfew⟩

end World

end ResourceFlow
