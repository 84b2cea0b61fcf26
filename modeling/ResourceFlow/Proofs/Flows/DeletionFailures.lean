import ResourceFlow.Proofs.Flows.DeletionTalk
/-! # Why a deletion fails

  A deletion fails if its data lakes cannot be listed, if a request to delete
  something fails and the run is not forced, or if a wait times out or is
  aborted. `CascadingDelete.Fails` tells from what was said in a state whether
  and how the deletion failed there.

  Each part of a deletion fails as what was said in its state tells. The parts
  together (`CascadingDelete.Concluded`) fail in one state at most, so the
  cause of a failure is told by the whole talk (`Concluded.fails_iff`), and
  what was said elsewhere is no cause.
-/

namespace ResourceFlow

namespace CascadingDelete

open ResourceFlow.Action

/-! ### Why a deletion fails -/

/-- The state in which a call is made. -/
def stateOf? : Call → Option State
  | .listDatalakes _ | .deleteDatalake .. => some .datalakesDeleting
  | .deleteFreeIpa .. | .describeFreeIpa _ => some .freeIpaDeleting
  | .deleteResources .. => some .resourcesDeleting
  | _ => none

/-- What was said in a state. -/
def saidIn (s : State) (talk : Talk Collaborators) : Talk Collaborators :=
  talk.filter fun x => stateOf? x.call = some s

/-- The data lake whose deletion a line accepts. -/
def accepted? : Entry Collaborators → Option String
  | .told _ (.deleteDatalake crn _) (.ok _) => some crn
  | _ => none

/-- The data lakes whose deletion was accepted, in order. -/
def acceptedCrns (talk : Talk Collaborators) : List String := talk.filterMap accepted?

variable (polling : Polling) (p : FlowParameters) (said : Talk Collaborators)

/-- What was said in the wait for data lakes: all about listings, but for the first. -/
def lakesPolled : Talk Collaborators :=
  (said.filter fun x => x.call = .listDatalakes p.resourceCrn).drop 2

/-- What was said in the wait for the identity service: all about descriptions. -/
def freeIpaPolled : Talk Collaborators :=
  said.filter fun x => x.call = .describeFreeIpa p.resourceCrn

/-- The data lakes could not be listed. -/
def Unlisted : Prop := ∃ c c' e rest, said = .asked c (.listDatalakes p.resourceCrn) ::
  .told c' (.listDatalakes p.resourceCrn) (.error e) :: rest

/-- A request to delete something failed in this state. -/
inductive Refuses : State → Prop where
  /-- A data lake. -/
  | datalake {c : Duration} {crn : String} {forced : Bool} {e : CollaboratorError}
      (h : .told c (.deleteDatalake crn forced) (.error e) ∈ said) : Refuses .datalakesDeleting
  /-- The identity service, unless it was not found. -/
  | freeIpa {c : Duration} {environment : String} {forced : Bool} {e : CollaboratorError}
      (h : .told c (.deleteFreeIpa environment forced) (.error e) ∈ said)
      (hne : ∀ m, e ≠ .notFound m) : Refuses .freeIpaDeleting
  /-- The other resources. -/
  | resources {c : Duration} {environment : String} {forced : Bool} {e : CollaboratorError}
      (h : .told c (.deleteResources environment forced) (.error e) ∈ said) :
      Refuses .resourcesDeleting

/-- What was said in a wait makes it fail, with a failure of this category. -/
inductive PollFails (q : Call)
    (judge : Except CollaboratorError q.Value → Except String (Attempt Unit))
    (wait : Talk Collaborators) : FailureType → Prop where
  /-- It timed out. -/
  | timedOut (h : Wait.TimedOut polling (I := Collaborators) q judge wait) :
      PollFails q judge wait .timeout
  /-- It was aborted: an attempt failed, and the policy is to stop on errors. -/
  | aborted (h : Wait.Aborted polling (I := Collaborators) q judge wait) :
      PollFails q judge wait .deletion

/-- The wait in this state failed, with a failure of this category. -/
inductive WaitFails : State → FailureType → Prop where
  /-- The one for the data lakes whose deletion was accepted, until none of them is listed. -/
  | lakes {type : FailureType} (h : PollFails polling (.listDatalakes p.resourceCrn)
      (judgeListing (acceptedCrns said)) (lakesPolled p said) type) :
      WaitFails .datalakesDeleting type
  /-- The one for the identity service, until it is not found. -/
  | freeIpa {type : FailureType} (h : PollFails polling (.describeFreeIpa p.resourceCrn)
      judgeDescription (freeIpaPolled p said) type) : WaitFails .freeIpaDeleting type

/-- What was said in a state makes the deletion fail there, with a failure of this category. -/
inductive Fails : State → FailureType → Prop where
  /-- The data lakes of a deletion that cascades could not be listed. -/
  | unlisted (hc : p.cascading = true) (h : Unlisted p said) : Fails .datalakesDeleting .deletion
  /-- A request to delete something failed in a run that is not forced. -/
  | refused {s : State} (hf : p.forced = false) (h : Refuses said s) : Fails s .deletion
  /-- A wait failed. -/
  | waited {s : State} {type : FailureType} (h : WaitFails polling p said s type) : Fails s type

variable {polling p said} {s : State} {type : FailureType}

section PollFails

variable {q : Call} {judge : Except CollaboratorError q.Value → Except String (Attempt Unit)}
  {wait : Talk Collaborators}

theorem PollFails.type_eq (h : PollFails polling q judge wait type) :
    type = .timeout ∨ type = .deletion := by
  cases h with
  | timedOut => exact .inl rfl
  | aborted => exact .inr rfl

theorem not_pollFails_nil : ¬ PollFails polling q judge [] type := by
  rintro (h | h)
  · exact Wait.not_timedOut_nil h
  · exact Wait.not_aborted_nil h

/-- The category of the failure of a wait is told by what was said in it. -/
theorem failureOf_eq_some {o : Except PollError Unit}
    (hw : Wait.Waited polling (I := Collaborators) q judge wait o) :
    failureOf o = some type ↔ PollFails polling q judge wait type := by
  constructor
  · intro h
    cases hw with
    | finished => cases h
    | gaveUp hp c c' x hx =>
      cases h
      exact .aborted ((Wait.Waited.gaveUp hp c c' x hx).aborted_iff.mpr ⟨_, rfl⟩)
    | stopped hp c c' x hx hs =>
      cases h
      exact .aborted ((Wait.Waited.stopped hp c c' x hx hs).aborted_iff.mpr ⟨_, rfl⟩)
    | timedOut hp hfirst hlast hl =>
      cases h
      exact .timedOut ((Wait.Waited.timedOut hp hfirst hlast hl).timedOut_iff.mpr rfl)
  · rintro (h | h)
    · rw [hw.timedOut_iff.mp h]
      rfl
    · obtain ⟨reason, rfl⟩ := hw.aborted_iff.mp h
      rfl

end PollFails

theorem WaitFails.type_eq (h : WaitFails polling p said s type) :
    type = .timeout ∨ type = .deletion := by
  cases h with
  | lakes h | freeIpa h => exact h.type_eq

theorem Fails.type_eq (h : Fails polling p said s type) : type = .timeout ∨ type = .deletion := by
  cases h with
  | unlisted | refused => exact .inr rfl
  | waited h => exact h.type_eq

/-- Only a wait fails with a timeout. -/
theorem Fails.waitFails_of_timeout (h : Fails polling p said s .timeout) :
    WaitFails polling p said s .timeout := by
  cases h with
  | waited h => exact h

/-- Where nothing was said, nothing failed. -/
theorem not_fails_nil : ¬ Fails polling p [] s type := by
  rintro (⟨-, c, c', e, rest, h⟩ | ⟨-, h⟩ | h)
  · cases h
  · cases h with
    | datalake h | freeIpa h | resources h => cases h
  · cases h with
    | lakes h | freeIpa h => exact not_pollFails_nil h

/-! ### Data lakes -/

section Lakes

variable {crns : List String} {lakes : List DatalakeSummary} {c c' : Duration}
  {x : Except CollaboratorError (List DatalakeSummary)} {dels wait : Talk Collaborators}
  {t : Option FailureType}

/-- The data lakes whose deletion was accepted are those that were said to be. -/
theorem Deleted.acceptedCrns_eq {forced : Bool} (hd : Deleted forced lakes crns dels) :
    acceptedCrns dels = crns := by
  induction hd with
  | nil => rfl
  | accepted _ _ _ ih => exact congrArg (_ :: ·) ih
  | tolerated _ _ _ _ _ ih => exact ih

/-- Where all data lakes were asked to be deleted in a run that is not forced, none was refused. -/
theorem Deleted.no_error {forced forced' : Bool} (hd : Deleted forced lakes crns dels)
    (hf : forced = false) {crn : String} {e : CollaboratorError} :
    .told c (.deleteDatalake crn forced') (.error e) ∉ dels := by
  intro he
  induction hd with
  | nil => cases he
  | accepted _ _ _ ih =>
    rw [List.mem_cons, List.mem_cons] at he
    rcases he with he | he | he
    · cases he
    · cases he
    · exact ih he
  | tolerated _ _ _ hforced =>
    rw [hf] at hforced
    cases hforced

/-- The last thing said is the failure. -/
theorem Halted.last {forced forced' : Bool} (hd : Halted forced lakes dels) {crn : String}
    {e : CollaboratorError} {before after : Talk Collaborators}
    (he : dels = before ++ .told c (.deleteDatalake crn forced') (.error e) :: after) :
    after = [] := by
  -- On the requests before the one that failed; each takes two lines.
  induction hd generalizing before with
  | refused =>
    rcases before with _ | ⟨_, _ | ⟨_, before⟩⟩
    · cases he
    · cases he
      rfl
    · simp at he
  | accepted _ _ _ ih =>
    rcases before with _ | ⟨_, _ | ⟨_, before⟩⟩
    · cases he
    · cases he
    · simp only [List.cons_append, List.cons.injEq] at he
      exact ih he.2.2

theorem Halted.error_mem {forced : Bool} (hd : Halted forced lakes dels) :
    ∃ c crn e, .told c (.deleteDatalake crn forced) (.error e) ∈ dels := by
  induction hd with
  | refused c c' e => exact ⟨c', _, e, .tail _ (.head _)⟩
  | accepted _ _ _ ih =>
    obtain ⟨c, crn, e, he⟩ := ih
    exact ⟨c, crn, e, .tail _ (.tail _ he)⟩

/-- What is said in the state where data lakes are deleted, once they are listed: requests, and what
    is said in the wait. -/
def listed (p : FlowParameters) (c c' : Duration)
    (x : Except CollaboratorError (List DatalakeSummary)) (dels wait : Talk Collaborators) :
    Talk Collaborators :=
  .asked c (.listDatalakes p.resourceCrn) :: .told c' (.listDatalakes p.resourceCrn) x ::
    (dels ++ wait)

theorem listed_nil : listed p c c' x dels [] = .asked c (.listDatalakes p.resourceCrn) ::
    .told c' (.listDatalakes p.resourceCrn) x :: dels := by
  rw [listed, List.append_nil]

theorem state_listed (hd : ∀ x ∈ dels, ∃ crn, x.call = .deleteDatalake crn p.forced)
    (hw : ∀ x ∈ wait, x.call = .listDatalakes p.resourceCrn) :
    ∀ y ∈ listed p c c' x dels wait, stateOf? y.call = some .datalakesDeleting := by
  unfold listed
  rw [List.forall_mem_cons, List.forall_mem_cons, List.forall_mem_append]
  refine ⟨rfl, rfl, fun y hy => ?_, fun y hy => ?_⟩
  · obtain ⟨crn, hcall⟩ := hd y hy
    rw [hcall]
    rfl
  · rw [hw y hy]
    rfl

theorem lakesPolled_listed (hd : ∀ x ∈ dels, ∃ crn, x.call = .deleteDatalake crn p.forced)
    (hw : ∀ x ∈ wait, x.call = .listDatalakes p.resourceCrn) :
    lakesPolled p (listed p c c' x dels wait) = wait := by
  have hdels : dels.filter (fun y => y.call = .listDatalakes p.resourceCrn) = [] := by
    refine List.filter_eq_nil_iff.mpr fun y hy => ?_
    obtain ⟨crn, hcall⟩ := hd y hy
    rw [hcall]
    exact of_decide_eq_false rfl
  have hwait : wait.filter (fun y => y.call = .listDatalakes p.resourceCrn) = wait :=
    List.filter_eq_self.mpr fun y hy => decide_eq_true (hw y hy)
  unfold lakesPolled listed
  rw [List.filter_cons_of_pos, List.filter_cons_of_pos, List.filter_append, hdels, hwait]
  · rfl
  · exact decide_eq_true rfl
  · exact decide_eq_true rfl

theorem acceptedCrns_listed (hw : ∀ x ∈ wait, x.call = .listDatalakes p.resourceCrn) :
    acceptedCrns (listed p c c' x dels wait) = acceptedCrns dels := by
  have hwait : acceptedCrns wait = [] := by
    refine List.filterMap_eq_nil_iff.mpr fun y hy => ?_
    have hcall := hw y hy
    cases y with
    | asked => rfl
    | told _ q _ =>
      obtain rfl : q = _ := hcall
      rfl
  show acceptedCrns (dels ++ wait) = _
  unfold acceptedCrns at hwait ⊢
  rw [List.filterMap_append, hwait, List.append_nil]

/-- Requests to delete data lakes are made in between. -/
theorem mem_dels_of_listed (hw : ∀ x ∈ wait, x.call = .listDatalakes p.resourceCrn)
    {y : Entry Collaborators} {crn : String} {forced : Bool}
    (hcall : y.call = .deleteDatalake crn forced) (hy : y ∈ listed p c c' x dels wait) :
    y ∈ dels := by
  unfold listed at hy
  rw [List.mem_cons, List.mem_cons, List.mem_append] at hy
  rcases hy with rfl | rfl | hy | hy
  · cases hcall
  · cases hcall
  · exact hy
  · rw [hw y hy] at hcall
    cases hcall

/-- Once data lakes are listed, the state fails by a request or by the wait. -/
theorem fails_listed (hd : ∀ x ∈ dels, ∃ crn, x.call = .deleteDatalake crn p.forced)
    (hw : ∀ x ∈ wait, x.call = .listDatalakes p.resourceCrn) :
    Fails polling p (listed p c c' (.ok lakes) dels wait) .datalakesDeleting type ↔
      (type = .deletion ∧ p.forced = false ∧
        ∃ c crn forced e, .told c (.deleteDatalake crn forced) (.error e) ∈ dels) ∨
      PollFails polling (.listDatalakes p.resourceCrn) (judgeListing (acceptedCrns dels)) wait
        type := by
  constructor
  · intro h
    cases h with
    | unlisted _ h =>
      obtain ⟨_, _, _, _, h⟩ := h
      cases h
    | refused hf h =>
      cases h with
      | datalake h => exact .inl ⟨rfl, hf, _, _, _, _, mem_dels_of_listed hw rfl h⟩
    | waited h =>
      cases h with
      | lakes h =>
        rw [lakesPolled_listed hd hw, acceptedCrns_listed hw] at h
        exact .inr h
  · rintro (⟨rfl, hf, _, _, _, _, h⟩ | h)
    · exact .refused hf (.datalake (.tail _ (.tail _ (List.mem_append_left _ h))))
    · exact .waited (.lakes (by rwa [lakesPolled_listed hd hw, acceptedCrns_listed hw]))

/-- Without a wait, it fails by a request. -/
theorem fails_unwaited (hd : ∀ x ∈ dels, ∃ crn, x.call = .deleteDatalake crn p.forced) :
    Fails polling p (.asked c (.listDatalakes p.resourceCrn) ::
        .told c' (.listDatalakes p.resourceCrn) (.ok lakes) :: dels) .datalakesDeleting type ↔
      type = .deletion ∧ p.forced = false ∧
        ∃ c crn forced e, .told c (.deleteDatalake crn forced) (.error e) ∈ dels := by
  rw [← listed_nil, fails_listed hd (List.forall_mem_nil _)]
  exact or_iff_left not_pollFails_nil

theorem lakesPolled_unwaited (hd : ∀ x ∈ dels, ∃ crn, x.call = .deleteDatalake crn p.forced) :
    lakesPolled p (.asked c (.listDatalakes p.resourceCrn) ::
      .told c' (.listDatalakes p.resourceCrn) x :: dels) = [] := by
  rw [← listed_nil, lakesPolled_listed hd (List.forall_mem_nil _)]

theorem LakesTo.said_eq (h : LakesTo polling p said t) : said = [] ∨ ∃ c c' x dels wait,
    said = listed p c c' x dels wait ∧
      (∀ y ∈ dels, ∃ crn, y.call = .deleteDatalake crn p.forced) ∧
      ∀ y ∈ wait, y.call = .listDatalakes p.resourceCrn := by
  cases h with
  | spared => exact .inl rfl
  | unlisted =>
    exact .inr ⟨_, _, _, [], [], listed_nil.symm, List.forall_mem_nil _, List.forall_mem_nil _⟩
  | refused _ _ _ hd =>
    exact .inr ⟨_, _, _, _, [], listed_nil.symm, hd.call_eq, List.forall_mem_nil _⟩
  | idle _ _ _ hd =>
    exact .inr ⟨_, _, _, _, [], listed_nil.symm, hd.call_eq, List.forall_mem_nil _⟩
  | awaited _ _ _ hd _ hw => exact .inr ⟨_, _, _, _, _, rfl, hd.call_eq, hw.call_eq⟩

theorem LakesTo.state (h : LakesTo polling p said t) :
    ∀ x ∈ said, stateOf? x.call = some .datalakesDeleting := by
  rcases h.said_eq with rfl | ⟨_, _, _, _, _, rfl, hd, hw⟩
  · exact List.forall_mem_nil _
  · exact state_listed hd hw

/-- The part about data lakes fails as what was said in its state tells. -/
theorem LakesTo.fails_iff (h : LakesTo polling p said t) :
    Fails polling p said .datalakesDeleting type ↔ t = some type := by
  cases h with
  | spared => exact ⟨fun h => absurd h not_fails_nil, nofun⟩
  | unlisted hc c c' e =>
    refine ⟨fun h => ?_, ?_⟩
    · cases h with
      | unlisted | refused => rfl
      | waited h =>
        cases h with
        | lakes h =>
          rw [lakesPolled_unwaited (List.forall_mem_nil _)] at h
          exact absurd h not_pollFails_nil
    · rintro ⟨⟩
      exact .unlisted hc ⟨c, c', e, [], rfl⟩
  | refused hc c c' hd =>
    rw [fails_unwaited hd.call_eq, Option.some_inj, eq_comm]
    refine and_iff_left_of_imp fun _ => ?_
    obtain ⟨c, crn, e, he⟩ := hd.error_mem
    exact ⟨hd.unforced, c, crn, _, e, he⟩
  | idle hc c c' hd =>
    rw [fails_unwaited hd.call_eq]
    refine ⟨?_, nofun⟩
    rintro ⟨-, hf, c, crn, forced, e, he⟩
    exact absurd he (hd.no_error hf)
  | awaited hc c c' hd _ hw ht =>
    refine (fails_listed hd.call_eq hw.call_eq).trans ?_
    rw [hd.acceptedCrns_eq, ← ht, failureOf_eq_some hw]
    -- Requests that failed were tolerated, so it is the wait that decides.
    refine or_iff_right ?_
    rintro ⟨-, hf, c, crn, forced, e, he⟩
    exact hd.no_error hf he

/-- Data lakes are waited for only if some deletion was accepted. -/
theorem LakesTo.acceptedCrns_ne_nil (h : LakesTo polling p said t) (hw : lakesPolled p said ≠ []) :
    acceptedCrns said ≠ [] := by
  cases h with
  | spared => exact absurd rfl hw
  | unlisted => exact absurd (lakesPolled_unwaited (List.forall_mem_nil _)) hw
  | refused _ _ _ hd => exact absurd (lakesPolled_unwaited hd.call_eq) hw
  | idle _ _ _ hd => exact absurd (lakesPolled_unwaited hd.call_eq) hw
  | awaited hc c c' hd hne hwait =>
    show acceptedCrns (listed p c c' (.ok _) _ _) ≠ []
    rwa [acceptedCrns_listed hwait.call_eq, hd.acceptedCrns_eq]

/-- In a run that is not forced, nothing is said after the first request that failed. -/
theorem LakesTo.halted (h : LakesTo polling p said t) (hf : p.forced = false) {crn : String}
    {forced : Bool} {e : CollaboratorError} {before after : Talk Collaborators}
    (he : said = before ++ .told c (.deleteDatalake crn forced) (.error e) :: after) :
    after = [] := by
  have hmem : .told c (.deleteDatalake crn forced) (.error e) ∈ said := by simp [he]
  cases h with
  | spared => cases hmem
  | unlisted => simp at hmem
  | refused hc c₁ c₂ hd =>
    rcases before with _ | ⟨_, _ | ⟨_, before⟩⟩
    · cases he
    · cases he
    · simp only [List.cons_append, List.cons.injEq] at he
      exact hd.last he.2.2
  | idle _ _ _ hd =>
    rw [← listed_nil] at hmem
    exact absurd (mem_dels_of_listed (List.forall_mem_nil _) rfl hmem) (hd.no_error hf)
  | awaited _ _ _ hd _ hw =>
    exact absurd (mem_dels_of_listed hw.call_eq rfl hmem) (hd.no_error hf)

end Lakes

/-! ### The identity service -/

section FreeIpa

variable {c c' : Duration} {x : Except CollaboratorError Unit} {wait : Talk Collaborators}
  {t : Option FailureType}

theorem freeIpaPolled_requested (hw : ∀ x ∈ wait, x.call = .describeFreeIpa p.resourceCrn) :
    freeIpaPolled p (.asked c (.deleteFreeIpa p.resourceCrn p.forced) ::
      .told c' (.deleteFreeIpa p.resourceCrn p.forced) x :: wait) = wait :=
  List.filter_eq_self.mpr fun y hy => decide_eq_true (hw y hy)

/-- Once its deletion is asked for, the state fails by that or by the wait. -/
theorem fails_requested (hw : ∀ x ∈ wait, x.call = .describeFreeIpa p.resourceCrn) :
    Fails polling p (.asked c (.deleteFreeIpa p.resourceCrn p.forced) ::
        .told c' (.deleteFreeIpa p.resourceCrn p.forced) x :: wait) .freeIpaDeleting type ↔
      (type = .deletion ∧ p.forced = false ∧ ∃ e, x = .error e ∧ ∀ m, e ≠ .notFound m) ∨
      PollFails polling (.describeFreeIpa p.resourceCrn) judgeDescription wait type := by
  constructor
  · intro h
    cases h with
    | refused hf h =>
      cases h with
      | freeIpa h hne =>
        rw [List.mem_cons, List.mem_cons] at h
        rcases h with h | h | h
        · cases h
        · cases h
          exact .inl ⟨rfl, hf, _, rfl, hne⟩
        · cases hw _ h
    | waited h =>
      cases h with
      | freeIpa h =>
        rw [freeIpaPolled_requested hw] at h
        exact .inr h
  · rintro (⟨rfl, hf, e, rfl, hne⟩ | h)
    · exact .refused hf (.freeIpa (.tail _ (.head _)) hne)
    · exact .waited (.freeIpa (by rwa [freeIpaPolled_requested hw]))

theorem FreeIpaTo.said_eq (h : FreeIpaTo polling p said t) : ∃ c c' x wait,
    said = .asked c (.deleteFreeIpa p.resourceCrn p.forced) ::
      .told c' (.deleteFreeIpa p.resourceCrn p.forced) x :: wait ∧
      (∀ y ∈ wait, y.call = .describeFreeIpa p.resourceCrn) ∧ (wait ≠ [] → x = .ok ()) := by
  cases h with
  | missing | tolerated | refused =>
    exact ⟨_, _, _, [], rfl, List.forall_mem_nil _, fun hne => absurd rfl hne⟩
  | awaited _ _ hw => exact ⟨_, _, _, _, rfl, hw.call_eq, fun _ => rfl⟩

theorem FreeIpaTo.state (h : FreeIpaTo polling p said t) :
    ∀ x ∈ said, stateOf? x.call = some .freeIpaDeleting := by
  obtain ⟨_, _, _, wait, rfl, hw, -⟩ := h.said_eq
  rw [List.forall_mem_cons, List.forall_mem_cons]
  refine ⟨rfl, rfl, fun y hy => ?_⟩
  rw [hw y hy]
  rfl

/-- The part about the identity service fails as what was said in its state tells. -/
theorem FreeIpaTo.fails_iff (h : FreeIpaTo polling p said t) :
    Fails polling p said .freeIpaDeleting type ↔ t = some type := by
  cases h with
  | missing c c' m =>
    rw [fails_requested (List.forall_mem_nil _), or_iff_left not_pollFails_nil]
    refine ⟨?_, nofun⟩
    rintro ⟨-, -, e, ⟨⟩, hne⟩
    exact absurd rfl (hne m)
  | tolerated c c' e hf =>
    rw [fails_requested (List.forall_mem_nil _), or_iff_left not_pollFails_nil, hf]
    exact ⟨nofun, nofun⟩
  | refused c c' e hne hf =>
    rw [fails_requested (List.forall_mem_nil _), or_iff_left not_pollFails_nil, Option.some_inj,
      eq_comm]
    exact and_iff_left_of_imp fun _ => ⟨hf, e, rfl, hne⟩
  | awaited c c' hw ht =>
    rw [fails_requested hw.call_eq, ← ht, failureOf_eq_some hw]
    exact or_iff_right nofun

/-- The identity service is waited for only if its deletion was accepted. -/
theorem FreeIpaTo.accepted (h : FreeIpaTo polling p said t) (hw : freeIpaPolled p said ≠ []) :
    ∃ c, .told c (.deleteFreeIpa p.resourceCrn p.forced) (.ok ()) ∈ said := by
  obtain ⟨c, c', x, wait, rfl, hcall, hok⟩ := h.said_eq
  rw [freeIpaPolled_requested hcall] at hw
  obtain rfl := hok hw
  exact ⟨c', .tail _ (.head _)⟩

end FreeIpa

/-! ### The other resources -/

section Resources

variable {t : Option FailureType}

theorem ResourcesTo.said_eq (h : ResourcesTo p said t) : ∃ c c' x,
    said = [.asked c (.deleteResources p.resourceCrn p.forced),
      .told c' (.deleteResources p.resourceCrn p.forced) x] ∧
      (t = some .deletion ∧ p.forced = false ∧ (∃ e, x = .error e) ∨
        t = none ∧ ∀ e, x = .error e → p.forced = true) := by
  cases h with
  | accepted => exact ⟨_, _, _, rfl, .inr ⟨rfl, nofun⟩⟩
  | tolerated _ _ _ hf => exact ⟨_, _, _, rfl, .inr ⟨rfl, fun _ _ => hf⟩⟩
  | refused _ _ e hf => exact ⟨_, _, _, rfl, .inl ⟨rfl, hf, e, rfl⟩⟩

theorem ResourcesTo.state (h : ResourcesTo p said t) :
    ∀ x ∈ said, stateOf? x.call = some .resourcesDeleting := by
  obtain ⟨_, _, _, rfl, -⟩ := h.said_eq
  rw [List.forall_mem_cons, List.forall_mem_singleton]
  exact ⟨rfl, rfl⟩

/-- The part about the other resources fails as what was said in its state tells. -/
theorem ResourcesTo.fails_iff (h : ResourcesTo p said t) :
    Fails polling p said .resourcesDeleting type ↔ t = some type := by
  obtain ⟨c, c', x, rfl, hx⟩ := h.said_eq
  constructor
  · intro h
    cases h with
    | refused hf h =>
      cases h with
      | resources h =>
        rw [List.mem_cons, List.mem_singleton] at h
        rcases h with h | h
        · cases h
        · cases h
          rcases hx with ⟨rfl, -⟩ | ⟨-, hforced⟩
          · rfl
          · rw [hforced _ rfl] at hf
            cases hf
    | waited h => cases h
  · rintro rfl
    rcases hx with ⟨ht, hf, e, rfl⟩ | ⟨ht, -⟩
    · cases ht
      exact .refused hf (.resources (.tail _ (.head _)))
    · cases ht

end Resources

/-! ### What is said in each state -/

section SaidIn

variable {s' : State} {l l' : Talk Collaborators}

@[simp] theorem saidIn_append (s : State) (l l' : Talk Collaborators) :
    saidIn s (l ++ l') = saidIn s l ++ saidIn s l' := List.filter_append ..

/-- What is all said in one state. -/
theorem saidIn_of (h : ∀ x ∈ l, stateOf? x.call = some s') (s : State) :
    saidIn s l = if s = s' then l else [] := by
  split
  · rename_i hs
    exact List.filter_eq_self.mpr fun x hx => decide_eq_true (hs ▸ h x hx)
  · rename_i hne
    refine List.filter_eq_nil_iff.mpr fun x hx => ?_
    rw [h x hx, decide_eq_true_iff, Option.some_inj]
    exact fun hs => hne hs.symm

end SaidIn

/-! ### The parts together -/

/-- What was said by a deletion that made its way to the end, or failed in some state with a failure
    of a category. -/
inductive Concluded (polling : Polling) (p : FlowParameters) :
    Talk Collaborators → Option (State × FailureType) → Prop where
  /-- It failed where data lakes are deleted. -/
  | lakes {talk : Talk Collaborators} {type : FailureType}
      (h : LakesTo polling p talk (some type)) :
      Concluded polling p talk (some (.datalakesDeleting, type))
  /-- It failed where the identity service is deleted. -/
  | freeIpa {l l' : Talk Collaborators} {type : FailureType} (h : LakesTo polling p l none)
      (h' : FreeIpaTo polling p l' (some type)) :
      Concluded polling p (l ++ l') (some (.freeIpaDeleting, type))
  /-- It came to where the other resources are deleted. -/
  | resources {l l' l'' : Talk Collaborators} {t : Option FailureType}
      (h : LakesTo polling p l none) (h' : FreeIpaTo polling p l' none)
      (h'' : ResourcesTo p l'' t) :
      Concluded polling p (l ++ l' ++ l'') (t.map (.resourcesDeleting, ·))

namespace Concluded

variable {talk : Talk Collaborators} {o : Option (State × FailureType)}

/-- How a deletion ends is told by what was said in each state. -/
theorem fails_iff (h : Concluded polling p talk o) (s : State) (type : FailureType) :
    Fails polling p (saidIn s talk) s type ↔ o = some (s, type) := by
  -- Of what was said, only the part of the state is left.
  cases h with
  | lakes h =>
    rw [saidIn_of h.state]
    split
    · rename_i hs
      subst hs
      simpa using h.fails_iff
    · rename_i hs
      simp [not_fails_nil, Ne.symm hs]
  | freeIpa h h' =>
    rw [saidIn_append, saidIn_of h.state, saidIn_of h'.state]
    cases s with
    | datalakesDeleting => simpa using h.fails_iff
    | freeIpaDeleting => simpa using h'.fails_iff
    | _ => simp [not_fails_nil]
  | resources h h' h'' =>
    rw [saidIn_append, saidIn_append, saidIn_of h.state, saidIn_of h'.state, saidIn_of h''.state]
    cases s with
    | datalakesDeleting => simpa using h.fails_iff
    | freeIpaDeleting => simpa using h'.fails_iff
    | resourcesDeleting => simpa using h''.fails_iff
    | _ => simp [not_fails_nil]

/-- What was said in the state where data lakes are deleted is what was said about them. -/
theorem lakesTo (h : Concluded polling p talk o) :
    ∃ t, LakesTo polling p (saidIn .datalakesDeleting talk) t := by
  cases h with
  | lakes h =>
    rw [saidIn_of h.state]
    exact ⟨_, h⟩
  | freeIpa h h' =>
    rw [saidIn_append, saidIn_of h.state, saidIn_of h'.state]
    exact ⟨none, by simpa using h⟩
  | resources h h' h'' =>
    rw [saidIn_append, saidIn_append, saidIn_of h.state, saidIn_of h'.state, saidIn_of h''.state]
    exact ⟨none, by simpa using h⟩

/-- Nothing was said where the identity service is deleted, or it was said about it. -/
theorem freeIpaTo (h : Concluded polling p talk o) : saidIn .freeIpaDeleting talk = [] ∨
    ∃ t, FreeIpaTo polling p (saidIn .freeIpaDeleting talk) t := by
  cases h with
  | lakes h =>
    rw [saidIn_of h.state]
    exact .inl rfl
  | freeIpa h h' =>
    rw [saidIn_append, saidIn_of h.state, saidIn_of h'.state]
    exact .inr ⟨_, h'⟩
  | resources h h' h'' =>
    rw [saidIn_append, saidIn_append, saidIn_of h.state, saidIn_of h'.state, saidIn_of h''.state]
    exact .inr ⟨none, by simpa using h'⟩

/-- In a run that is not forced, nothing is said after the first failure to delete a data lake. -/
theorem halted (h : Concluded polling p talk o) (hf : p.forced = false) {c : Duration}
    {crn : String} {forced : Bool} {e : CollaboratorError} {before after : Talk Collaborators}
    (he : talk = before ++ .told c (.deleteDatalake crn forced) (.error e) :: after) :
    after = [] := by
  have hmem : .told c (.deleteDatalake crn forced) (.error e) ∈ saidIn .datalakesDeleting talk :=
    List.mem_filter.mpr ⟨by simp [he], by rfl⟩
  -- So the deletion failed where data lakes are deleted.
  have ho := (h.fails_iff _ _).mp (.refused hf (.datalake hmem))
  cases h with
  | lakes h => exact h.halted hf he
  | freeIpa => cases ho
  | @resources _ _ _ t => cases t <;> cases ho

end Concluded

end CascadingDelete

end ResourceFlow
