import ResourceFlow.Flows.CascadingDelete
import ResourceFlow.Proofs.Program.Waits
/-! # What a deletion says

  A deletion has three parts: data lakes, the identity service, and the other
  resources. Each part says something to the collaborators and comes to a
  result; `CascadingDelete.LakesTo`, `FreeIpaTo` and `ResourcesTo` tie the one
  to the other. A part ends well, or with a failure of a category: a wait that
  timed out has its own, every other failure is one of deletion.

  Requests to delete something are tolerated in a forced run, so there they are
  never what a part fails by. Of several data lakes, some may be accepted; only
  those are waited for, and in a run that is not forced nothing is said after
  the first that is refused (`CascadingDelete.Halted`).
-/

namespace ResourceFlow

namespace CascadingDelete

open ResourceFlow.Action

variable {environment : String} {forced : Bool} {polling : Polling} {p : FlowParameters}
  {now : Duration} {h : Talk Collaborators}

/-! ### Verdicts -/

/-- What a listing means for the wait for data lakes. -/
def judgeListing (crns : List String) :
    Except CollaboratorError (List DatalakeSummary) → Except String (Attempt Unit)
  | .ok remaining =>
    .ok (if remaining.any fun d => crns.contains d.crn then .again else .finish ())
  | .error e => .error e.message

theorem attempt_datalakesWait (polling : Polling) (resource : ResourceId) (environment : String)
    (crns : List String) (k : Nat) :
    (datalakesWait polling resource environment crns).attempt k =
      .call (.listDatalakes environment) fun x => .done (judgeListing crns x) := by
  show Procedure.call _ _ = _
  congr
  funext x
  cases x <;> rfl

/-- Data lakes are gone when none of them is listed. -/
theorem judgeListing_eq_finish {crns : List String}
    {x : Except CollaboratorError (List DatalakeSummary)}
    (hx : judgeListing crns x = .ok (.finish ())) :
    ∃ remaining, x = .ok remaining ∧ ∀ lake ∈ remaining, lake.crn ∉ crns := by
  cases x with
  | error e => cases hx
  | ok remaining => exact ⟨remaining, rfl, by simpa [judgeListing] using hx⟩

/-- What a description means for the wait for the identity service. -/
def judgeDescription : Except CollaboratorError FreeIpaDescription → Except String (Attempt Unit)
  | .ok _ => .ok .again
  | .error (.notFound _) => .ok (.finish ())
  | .error e => .error e.message

theorem attempt_freeIpaWait (polling : Polling) (resource : ResourceId) (environment : String)
    (k : Nat) : (freeIpaWait polling resource environment).attempt k =
      .call (.describeFreeIpa environment) fun x => .done (judgeDescription x) := by
  show Procedure.call _ _ = _
  congr
  funext x
  rcases x with (_ | _ | _) | _ <;> rfl

/-- The identity service is gone when it is not found. -/
theorem judgeDescription_eq_finish {x : Except CollaboratorError FreeIpaDescription}
    (hx : judgeDescription x = .ok (.finish ())) : ∃ m, x = .error (.notFound m) := by
  rcases x with (_ | m | _) | _
  · cases hx
  · exact ⟨m, rfl⟩
  · cases hx
  · cases hx

/-! ### What is said -/

/-- Each of these data lakes was asked to be deleted, in order; the deletion of those named was
    accepted, and where it failed the run is forced. -/
inductive Deleted (forced : Bool) :
    List DatalakeSummary → List String → Talk Collaborators → Prop where
  /-- Nothing is left to ask for. -/
  | nil : Deleted forced [] [] []
  /-- The deletion of the first is accepted. -/
  | accepted {lake : DatalakeSummary} {lakes : List DatalakeSummary} {crns : List String}
      {talk : Talk Collaborators} (c c' : Duration) (h : Deleted forced lakes crns talk) :
      Deleted forced (lake :: lakes) (lake.crn :: crns)
        (.asked c (.deleteDatalake lake.crn forced) ::
          .told c' (.deleteDatalake lake.crn forced) (.ok ()) :: talk)
  /-- The deletion of the first failed. -/
  | tolerated {lake : DatalakeSummary} {lakes : List DatalakeSummary} {crns : List String}
      {talk : Talk Collaborators} (c c' : Duration) (e : CollaboratorError) (hf : forced = true)
      (h : Deleted forced lakes crns talk) :
      Deleted forced (lake :: lakes) crns
        (.asked c (.deleteDatalake lake.crn forced) ::
          .told c' (.deleteDatalake lake.crn forced) (.error e) :: talk)

theorem Deleted.call_eq {lakes : List DatalakeSummary} {crns : List String}
    {talk : Talk Collaborators} (hd : Deleted forced lakes crns talk) :
    ∀ x ∈ talk, ∃ crn, x.call = .deleteDatalake crn forced := by
  induction hd with
  | nil => exact List.forall_mem_nil _
  | accepted _ _ _ ih | tolerated _ _ _ _ _ ih =>
    rw [List.forall_mem_cons, List.forall_mem_cons]
    exact ⟨⟨_, rfl⟩, ⟨_, rfl⟩, ih⟩

/-- Data lakes were asked to be deleted, in order, up to the first whose deletion failed; the run is
    not forced. -/
inductive Halted (forced : Bool) : List DatalakeSummary → Talk Collaborators → Prop where
  /-- The deletion of the first failed. -/
  | refused {lake : DatalakeSummary} {lakes : List DatalakeSummary} (c c' : Duration)
      (e : CollaboratorError) (hf : forced = false) :
      Halted forced (lake :: lakes) [.asked c (.deleteDatalake lake.crn forced),
        .told c' (.deleteDatalake lake.crn forced) (.error e)]
  /-- The deletion of the first is accepted. -/
  | accepted {lake : DatalakeSummary} {lakes : List DatalakeSummary} {talk : Talk Collaborators}
      (c c' : Duration) (h : Halted forced lakes talk) :
      Halted forced (lake :: lakes) (.asked c (.deleteDatalake lake.crn forced) ::
        .told c' (.deleteDatalake lake.crn forced) (.ok ()) :: talk)

theorem Halted.unforced {lakes : List DatalakeSummary} {talk : Talk Collaborators}
    (hd : Halted forced lakes talk) : forced = false := by
  induction hd with
  | refused _ _ _ hf => exact hf
  | accepted _ _ _ ih => exact ih

theorem Halted.call_eq {lakes : List DatalakeSummary} {talk : Talk Collaborators}
    (hd : Halted forced lakes talk) : ∀ x ∈ talk, ∃ crn, x.call = .deleteDatalake crn forced := by
  induction hd with
  | refused =>
    rw [List.forall_mem_cons, List.forall_mem_singleton]
    exact ⟨⟨_, rfl⟩, ⟨_, rfl⟩⟩
  | accepted _ _ _ ih =>
    rw [List.forall_mem_cons, List.forall_mem_cons]
    exact ⟨⟨_, rfl⟩, ⟨_, rfl⟩, ih⟩

/-- The category of the failure in which a wait results, if it fails. -/
def failureOf : Except PollError Unit → Option FailureType
  | .ok _ => none
  | .error e => some ((ActionError.poll e).failureType .deletion)

/-- What was said about data lakes, and the category of the failure that follows, if any. -/
inductive LakesTo (polling : Polling) (p : FlowParameters) :
    Talk Collaborators → Option FailureType → Prop where
  /-- The deletion does not cascade. -/
  | spared (hc : p.cascading = false) : LakesTo polling p [] none
  /-- They could not be listed. -/
  | unlisted (hc : p.cascading = true) (c c' : Duration) (e : CollaboratorError) :
      LakesTo polling p [.asked c (.listDatalakes p.resourceCrn),
        .told c' (.listDatalakes p.resourceCrn) (.error e)] (some .deletion)
  /-- A deletion failed. -/
  | refused (hc : p.cascading = true) (c c' : Duration) {lakes : List DatalakeSummary}
      {said : Talk Collaborators} (hd : Halted p.forced lakes said) :
      LakesTo polling p (.asked c (.listDatalakes p.resourceCrn) ::
        .told c' (.listDatalakes p.resourceCrn) (.ok lakes) :: said) (some .deletion)
  /-- No deletion was accepted. -/
  | idle (hc : p.cascading = true) (c c' : Duration) {lakes : List DatalakeSummary}
      {said : Talk Collaborators} (hd : Deleted p.forced lakes [] said) :
      LakesTo polling p (.asked c (.listDatalakes p.resourceCrn) ::
        .told c' (.listDatalakes p.resourceCrn) (.ok lakes) :: said) none
  /-- Those whose deletion was accepted were waited for. -/
  | awaited (hc : p.cascading = true) (c c' : Duration) {lakes : List DatalakeSummary}
      {crns : List String} {said wait : Talk Collaborators} {o : Except PollError Unit}
      {type : Option FailureType} (hd : Deleted p.forced lakes crns said) (hne : crns ≠ [])
      (hw : Wait.Waited polling (I := Collaborators) (.listDatalakes p.resourceCrn)
        (judgeListing crns) wait o) (ht : failureOf o = type) :
      LakesTo polling p (.asked c (.listDatalakes p.resourceCrn) ::
        .told c' (.listDatalakes p.resourceCrn) (.ok lakes) :: (said ++ wait)) type

/-- What was said about the identity service, and the category of the failure that follows, if
    any. -/
inductive FreeIpaTo (polling : Polling) (p : FlowParameters) :
    Talk Collaborators → Option FailureType → Prop where
  /-- It was not found. -/
  | missing (c c' : Duration) (m : String) :
      FreeIpaTo polling p [.asked c (.deleteFreeIpa p.resourceCrn p.forced),
        .told c' (.deleteFreeIpa p.resourceCrn p.forced) (.error (.notFound m))] none
  /-- Its deletion failed in a forced run. -/
  | tolerated (c c' : Duration) (e : CollaboratorError) (hf : p.forced = true) :
      FreeIpaTo polling p [.asked c (.deleteFreeIpa p.resourceCrn p.forced),
        .told c' (.deleteFreeIpa p.resourceCrn p.forced) (.error e)] none
  /-- Its deletion failed. -/
  | refused (c c' : Duration) (e : CollaboratorError) (hne : ∀ m, e ≠ .notFound m)
      (hf : p.forced = false) :
      FreeIpaTo polling p [.asked c (.deleteFreeIpa p.resourceCrn p.forced),
        .told c' (.deleteFreeIpa p.resourceCrn p.forced) (.error e)] (some .deletion)
  /-- It was waited for. -/
  | awaited (c c' : Duration) {wait : Talk Collaborators} {o : Except PollError Unit}
      {type : Option FailureType}
      (hw : Wait.Waited polling (I := Collaborators) (.describeFreeIpa p.resourceCrn)
        judgeDescription wait o) (ht : failureOf o = type) :
      FreeIpaTo polling p (.asked c (.deleteFreeIpa p.resourceCrn p.forced) ::
        .told c' (.deleteFreeIpa p.resourceCrn p.forced) (.ok ()) :: wait) type

/-- What was said about the other resources, and the category of the failure that follows, if
    any. -/
inductive ResourcesTo (p : FlowParameters) : Talk Collaborators → Option FailureType → Prop where
  /-- Their deletion was accepted. -/
  | accepted (c c' : Duration) : ResourcesTo p [.asked c (.deleteResources p.resourceCrn p.forced),
      .told c' (.deleteResources p.resourceCrn p.forced) (.ok ())] none
  /-- Their deletion failed in a forced run. -/
  | tolerated (c c' : Duration) (e : CollaboratorError) (hf : p.forced = true) :
      ResourcesTo p [.asked c (.deleteResources p.resourceCrn p.forced),
        .told c' (.deleteResources p.resourceCrn p.forced) (.error e)] none
  /-- Their deletion failed. -/
  | refused (c c' : Duration) (e : CollaboratorError) (hf : p.forced = false) :
      ResourcesTo p [.asked c (.deleteResources p.resourceCrn p.forced),
        .told c' (.deleteResources p.resourceCrn p.forced) (.error e)] (some .deletion)

/-! ### Each part of a deletion says so -/

variable {R : Rules Collaborators}

/-- What a part of a deletion must come to after `h`: `P` holds of what was said since and of its
    failure, unless a cancellation was noticed. -/
def ComesTo (cancelled : Prop) (P : Talk Collaborators → Option FailureType → Prop)
    (h talk : Talk Collaborators) : Except ActionError Unit → Prop
  | .ok _ => ∃ said, talk = h ++ said ∧ P said none
  | .error e => (e.isCancellation = true → cancelled) ∧ (e.isCancellation = false →
      ∃ said, talk = h ++ said ∧ P said (some (e.failureType .deletion)))

theorem ComesTo.imp {cancelled : Prop} {P P' : Talk Collaborators → Option FailureType → Prop}
    {h h' talk : Talk Collaborators} {r : Except ActionError Unit}
    (hr : ComesTo cancelled P h talk r)
    (hP : ∀ said type, P said type → ∃ said', h ++ said = h' ++ said' ∧ P' said' type) :
    ComesTo cancelled P' h' talk r := by
  have hsaid {type : Option FailureType} :
      (∃ said, talk = h ++ said ∧ P said type) → ∃ said, talk = h' ++ said ∧ P' said type := by
    rintro ⟨said, rfl, hs⟩
    exact hP said type hs
  cases r with
  | ok _ => exact hsaid hr
  | error e => exact ⟨hr.1, fun hno => hsaid (hr.2 hno)⟩

theorem obeys_tolerate {e : CollaboratorError}
    {Q : Duration → Talk Collaborators → Except ActionError Unit → Prop}
    (hok : forced = true → Q now h (.ok ()))
    (herror : forced = false → Q now h (.error e.toActionError)) :
    Obeys R Q (tolerate forced e) now h := by
  unfold tolerate
  split
  · exact obeys_pure (hok ‹_›)
  · exact obeys_throw (herror (Bool.eq_false_iff.mpr ‹_›))

theorem obeys_deleteEach (hallow : ∀ crn h, R.allows h (.deleteDatalake crn forced))
    (lakes : List DatalakeSummary) :
    Obeys R (fun _ talk r => ∃ said, talk = h ++ said ∧ match r with
      | .ok crns => Deleted forced lakes crns said
      | .error e => (∃ error : CollaboratorError, e = error.toActionError) ∧
          Halted forced lakes said) (deleteEach forced lakes) now h := by
  -- On the data lakes still to ask for, after any talk.
  induction lakes generalizing now h with
  | nil => exact obeys_pure ⟨[], (List.append_nil h).symm, .nil⟩
  | cons lake lakes ih =>
    unfold deleteEach
    refine Obeys.bind (obeys_ask (hallow _ _) ?_)
    intro later x
    dsimp only
    cases x with
    | ok _ =>
      refine Obeys.bind (ih.mono ?_)
      rintro _ _ r ⟨said, rfl, hr⟩
      cases r with
      | error e => exact ⟨_, by simp, hr.1, .accepted now later hr.2⟩
      | ok crns => exact obeys_pure ⟨_, by simp, .accepted now later hr⟩
    | error e =>
      refine Obeys.bind (obeys_tolerate ?_ fun hf => ?_)
      · intro hf
        dsimp only
        refine ih.mono ?_
        rintro _ _ r ⟨said, rfl, hr⟩
        cases r with
        | error e' =>
          -- No deletion halts a forced run.
          rw [hr.2.unforced] at hf
          cases hf
        | ok crns => exact ⟨_, by simp, .tolerated now later e hf hr⟩
      · exact ⟨_, by simp, ⟨e, rfl⟩, .refused now later e hf⟩

/-- A wait whose attempts make one call and never give up ends as it is answered. -/
theorem obeys_polled {w : Wait Collaborators Unit} {q : Call}
    {judge : Except CollaboratorError q.Value → Except String (Attempt Unit)}
    (hattempt : ∀ k, w.attempt k = .call q fun x => .done (judge x))
    (hgive : ∀ x reason, judge x ≠ .ok (.giveUp reason)) (hallow : ∀ said, R.allows (h ++ said) q) :
    Obeys R (fun _ talk r => ComesTo (R.seen w.resource) (fun said type =>
      ∃ o, Wait.Waited w.polling (I := Collaborators) q judge said o ∧ failureOf o = type) h talk r)
      w.orFail now h := by
  refine obeys_wait (Wait.Attempts.begin h now) ((Wait.keeps_polled hattempt hallow).mono ?_)
  intro o later talk ho
  cases o with
  | ok _ =>
    obtain ⟨hc, -⟩ | ⟨said, rfl, he⟩ := ho
    · cases hc
    · exact ⟨said, rfl, _, he, rfl⟩
  | error e =>
    obtain ⟨hc, hseen⟩ | ⟨said, rfl, he⟩ := ho
    · cases hc
      refine ⟨fun _ => hseen, fun hno => ?_⟩
      cases hno
    · refine ⟨fun hc => ?_, fun _ => ⟨said, rfl, _, he, rfl⟩⟩
      -- None of the ways in which it fails is a cancellation.
      cases he with
      | gaveUp _ _ _ x hx => exact absurd hx (hgive _ _)
      | stopped | timedOut => cases hc

theorem obeys_deleteDatalakes (hcascading : p.cascading = true)
    (hlist : ∀ h, R.allows h (.listDatalakes p.resourceCrn))
    (hdelete : ∀ crn h, R.allows h (.deleteDatalake crn p.forced)) :
    Obeys R (fun _ talk r => ComesTo (R.seen p.resourceId) (LakesTo polling p) [] talk r)
      (deleteDatalakes polling p p.resourceCrn) now [] := by
  unfold deleteDatalakes
  refine Obeys.bind (obeys_orRaise (hlist _) ?_)
  intro later x
  cases x with
  | error e => exact ⟨nofun, fun _ => ⟨_, rfl, .unlisted hcascading now later e⟩⟩
  | ok lakes =>
    refine Obeys.bind ((obeys_deleteEach hdelete lakes).mono ?_)
    rintro now' _ r ⟨said, rfl, hdel⟩
    cases r with
    | error e =>
      obtain ⟨⟨error, rfl⟩, hhalted⟩ := hdel
      exact ⟨nofun, fun _ => ⟨_, rfl, .refused hcascading now later hhalted⟩⟩
    | ok crns =>
      cases crns with
      | nil => exact obeys_pure ⟨_, rfl, .idle hcascading now later hdel⟩
      | cons crn crns =>
        refine (obeys_polled (q := .listDatalakes p.resourceCrn)
          (attempt_datalakesWait _ _ _ (crn :: crns)) ?_ fun _ => hlist _).mono ?_
        · rintro (e | remaining) reason
          · exact nofun
          · intro hgive
            injection hgive with hgive
            split at hgive <;> cases hgive
        · rintro _ _ r hr
          refine hr.imp ?_
          rintro wait type ⟨o, hw, ht⟩
          exact ⟨_, rfl, .awaited hcascading now later hdel nofun hw ht⟩

theorem obeys_deleteFreeIpa (hdelete : R.allows h (.deleteFreeIpa p.resourceCrn p.forced))
    (hdescribe : ∀ h, R.allows h (.describeFreeIpa p.resourceCrn)) :
    Obeys R (fun _ talk r => ComesTo (R.seen p.resourceId) (FreeIpaTo polling p) h talk r)
      (deleteFreeIpa polling p p.resourceCrn) now h := by
  unfold deleteFreeIpa
  refine Obeys.bind (obeys_ask hdelete ?_)
  intro later x
  -- Errors are tolerated or not, unless the service is not found.
  have hfailed {e : CollaboratorError} (hne : ∀ m, e ≠ .notFound m) :
      Obeys R (fun _ talk r => ComesTo (R.seen p.resourceId) (FreeIpaTo polling p) h talk r)
        (tolerate p.forced e) later (h ++ [.asked now (.deleteFreeIpa p.resourceCrn p.forced)] ++
          [.told later (.deleteFreeIpa p.resourceCrn p.forced) (.error e)]) := by
    refine obeys_tolerate (fun hf => ?_) fun hf => ⟨nofun, fun _ => ?_⟩
    · exact ⟨_, List.append_assoc .., .tolerated now later e hf⟩
    · exact ⟨_, List.append_assoc .., .refused now later e hne hf⟩
  rcases x with (_ | m | _) | _
  · exact hfailed nofun
  · exact obeys_pure ⟨_, List.append_assoc .., .missing now later m⟩
  · exact hfailed nofun
  · refine (obeys_polled (q := .describeFreeIpa p.resourceCrn) (attempt_freeIpaWait _ _ _) ?_
      fun _ => hdescribe _).mono ?_
    · rintro ((_ | _ | _) | _) reason <;> exact nofun
    · rintro _ _ r hr
      refine hr.imp ?_
      rintro wait type ⟨o, hw, ht⟩
      exact ⟨_, by simp, .awaited now later hw ht⟩

theorem obeys_deleteResources (hdelete : R.allows h (.deleteResources p.resourceCrn p.forced)) :
    Obeys R (fun _ talk r => ComesTo (R.seen p.resourceId) (ResourcesTo p) h talk r)
      (deleteResources p p.resourceCrn) now h := by
  unfold deleteResources
  refine Obeys.bind (obeys_ask hdelete ?_)
  intro later x
  cases x with
  | ok _ => exact obeys_pure ⟨_, List.append_assoc .., .accepted now later⟩
  | error e =>
    refine obeys_tolerate (fun hf => ?_) fun hf => ⟨nofun, fun _ => ?_⟩
    · exact ⟨_, List.append_assoc .., .tolerated now later e hf⟩
    · exact ⟨_, List.append_assoc .., .refused now later e hf⟩

end CascadingDelete

end ResourceFlow
