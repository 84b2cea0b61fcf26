import ResourceFlow.Proofs.Flows.DeletionTalk
import ResourceFlow.Proofs.Flows.Termination
import ResourceFlow.Proofs.World.Account
/-! # The order of a deletion

  A deletion destroys things in an order: data lakes, then the identity
  service, then the other resources. What it says before it turns to the next
  of them is evidence that the one before is gone, or that the run is forced
  and its deletion failed: `LakesGone` and `FreeIpaGone`.

  A part of a deletion that ends well leaves this evidence (`LakesTo.gone`,
  `FreeIpaTo.gone`), and the account of a deletion (`CascadingDelete.account`)
  ties each state to it. For the calls of a run it follows in which order they
  are made, whatever is answered, and that a recorded cancel keeps a run from
  turning to the next step (`World.deletion_order`).
-/

namespace ResourceFlow

namespace CascadingDelete

open ResourceFlow.Action

variable {environment : String} {forced : Bool} {p : FlowParameters} {now : Duration}
  {h : Talk Collaborators}

/-! ### What is said -/

/-- The data lakes of the environment were listed and each was asked to be deleted; if any deletion
    was accepted, they were listed until none of those was listed any more. -/
def LakesGone (environment : String) (forced : Bool) (talk : Talk Collaborators) : Prop :=
  ∃ (c c' : Duration) (lakes : List DatalakeSummary) (crns : List String)
    (deletions wait : Talk Collaborators),
    talk = .asked c (.listDatalakes environment) ::
      .told c' (.listDatalakes environment) (.ok lakes) :: (deletions ++ wait) ∧
    Deleted forced lakes crns deletions ∧
    (∀ x ∈ wait, x.call = .listDatalakes environment) ∧
    (crns = [] → wait = []) ∧
    (crns ≠ [] → ∃ (before : Talk Collaborators) (c : Duration)
      (remaining : List DatalakeSummary),
      wait = before ++ [.told c (.listDatalakes environment) (.ok remaining)] ∧
      ∀ lake ∈ remaining, lake.crn ∉ crns)

/-- The identity service of the environment was asked to be deleted, and either it was not found, or
    that failed in a forced run, or it was described until it was not found. -/
inductive FreeIpaGone (environment : String) (forced : Bool) : Talk Collaborators → Prop where
  /-- It was not found. -/
  | missing (c c' : Duration) (m : String) :
      FreeIpaGone environment forced [.asked c (.deleteFreeIpa environment forced),
        .told c' (.deleteFreeIpa environment forced) (.error (.notFound m))]
  /-- Its deletion failed. -/
  | tolerated (c c' : Duration) (e : CollaboratorError) (hf : forced = true) :
      FreeIpaGone environment forced [.asked c (.deleteFreeIpa environment forced),
        .told c' (.deleteFreeIpa environment forced) (.error e)]
  /-- It was waited for. -/
  | awaited (c c' c'' : Duration) (m : String) {wait : Talk Collaborators}
      (hw : ∀ x ∈ wait, x.call = .describeFreeIpa environment) :
      FreeIpaGone environment forced (.asked c (.deleteFreeIpa environment forced) ::
        .told c' (.deleteFreeIpa environment forced) (.ok ()) ::
        (wait ++ [.told c'' (.describeFreeIpa environment) (.error (.notFound m))]))

/-- What is said before the identity service is asked to be deleted. -/
def BeforeFreeIpa (p : FlowParameters) (talk : Talk Collaborators) : Prop :=
  (p.cascading = true → LakesGone p.resourceCrn p.forced talk) ∧ (p.cascading = false → talk = [])

/-- What is said before the other resources are asked to be deleted. -/
def BeforeResources (p : FlowParameters) (talk : Talk Collaborators) : Prop :=
  ∃ before rest, talk = before ++ rest ∧ BeforeFreeIpa p before ∧
    FreeIpaGone p.resourceCrn p.forced rest

/-! ### What is said once a part is done -/

/-- When nothing is left to do for data lakes, they are gone. -/
theorem LakesTo.gone {polling : Polling} (ht : LakesTo polling p h none) : BeforeFreeIpa p h := by
  cases ht with
  | spared hc =>
    refine ⟨fun hc' => ?_, fun _ => rfl⟩
    rw [hc] at hc'
    cases hc'
  | idle hc c c' hd =>
    refine ⟨fun _ => ⟨c, c', _, [], _, [], by rw [List.append_nil], hd, List.forall_mem_nil _,
      fun _ => rfl, fun hne => absurd rfl hne⟩, fun hc' => ?_⟩
    rw [hc] at hc'
    cases hc'
  | @awaited hc c c' lakes crns said wait o _ hd hne hw ht =>
    refine ⟨fun _ => ⟨c, c', lakes, crns, said, wait, rfl, hd, hw.call_eq, fun hn => absurd hn hne,
      fun _ => ?_⟩, fun hc' => ?_⟩
    · -- The wait did not fail, so its last answer finished it.
      cases hw with
      | @finished before _ c₁ c₂ x _ hx =>
        obtain ⟨remaining, rfl, hgone⟩ := judgeListing_eq_finish hx
        exact ⟨before ++ [.asked c₁ (.listDatalakes p.resourceCrn)], c₂, remaining, by simp, hgone⟩
      | gaveUp | stopped | timedOut => cases ht
    · rw [hc] at hc'
      cases hc'

/-- When nothing is left to do for the identity service, it is gone. -/
theorem FreeIpaTo.gone {polling : Polling} (ht : FreeIpaTo polling p h none) :
    FreeIpaGone p.resourceCrn p.forced h := by
  cases ht with
  | missing c c' m => exact .missing c c' m
  | tolerated c c' e hf => exact .tolerated c c' e hf
  | awaited c c' hw ht =>
    cases hw with
    | @finished said hp c₁ c₂ x _ hx =>
      obtain ⟨m, rfl⟩ := judgeDescription_eq_finish hx
      have hcall : ∀ y ∈ said ++ [.asked c₁ (.describeFreeIpa p.resourceCrn)],
          y.call = .describeFreeIpa p.resourceCrn :=
        List.forall_mem_append.mpr ⟨hp.call_eq, List.forall_mem_singleton.mpr rfl⟩
      simpa using (FreeIpaGone.awaited c c' c₂ m hcall : FreeIpaGone _ p.forced _)
    | gaveUp | stopped | timedOut => cases ht

/-! ### The account -/

/-- What was said when a state is entered. -/
def Entered (p : FlowParameters) (talk : Talk Collaborators) : State → Prop
  | .init => False
  | .datalakesDeleting => talk = []
  | .freeIpaDeleting => BeforeFreeIpa p talk
  | .resourcesDeleting => BeforeResources p talk
  | .finished | .failed | .final => True

/-- In which state, and after which talk, each call is made. -/
def Allowed (i : Instance vocabulary) (talk : Talk Collaborators) : Call → Prop
  | .listDatalakes environment => i.state = .datalakesDeleting ∧ i.params.cascading = true ∧
      environment = i.params.resourceCrn
  | .deleteDatalake _ forced => i.state = .datalakesDeleting ∧ i.params.cascading = true ∧
      forced = i.params.forced
  | .deleteFreeIpa environment forced => i.state = .freeIpaDeleting ∧
      environment = i.params.resourceCrn ∧ forced = i.params.forced ∧ BeforeFreeIpa i.params talk
  | .describeFreeIpa environment => i.state = .freeIpaDeleting ∧
      environment = i.params.resourceCrn
  | .deleteResources environment forced => i.state = .resourcesDeleting ∧
      environment = i.params.resourceCrn ∧ forced = i.params.forced ∧
      BeforeResources i.params talk
  | _ => False

/-- An event is at hand that leads to a state, and what is said when it is entered has been said. -/
def Ready (i : Instance vocabulary) (event : vocabulary.Event) (talk : Talk Collaborators) : Prop :=
  event.resourceCrn = i.params.resourceCrn ∧
    ∃ s, transition i.state event.selector = some s ∧ Entered i.params talk s

section Resumes

variable {polling : Polling} {i : Instance vocabulary} {event : vocabulary.Event} {s s' : State}

theorem resumes_ok {selector : Selector} {talk : Talk Collaborators}
    (hcrn : event.resourceCrn = i.params.resourceCrn) (ht : transition s selector = some s')
    (hs : Entered i.params talk s') :
    (definition polling).Resumes s i.params event True
      (Ready ((definition polling).entered i s event) · talk)
      (.ok (some (event.followUp selector))) := by
  refine ⟨_, rfl, ?_⟩
  unfold Ready
  rw [Definition.params_entered, Definition.state_entered]
  exact ⟨hcrn, s', ht, hs⟩

theorem resumes_error {talk : Talk Collaborators} {error : ActionError}
    (hcrn : event.resourceCrn = i.params.resourceCrn) (ht : transition s .failed = some .failed) :
    (definition polling).Resumes s i.params event True
      (Ready ((definition polling).entered i s event) · talk) (.error error) := by
  refine ⟨fun _ => trivial, fun _ => ?_⟩
  unfold Ready
  rw [Definition.params_entered, Definition.state_entered]
  exact ⟨hcrn, .failed, ht, trivial⟩

/-- Work in a state that leads on to the next one when it is done, and fails otherwise. -/
theorem obeys_then {selector : Selector} {x : Action ActionError Unit}
    (hcrn : event.resourceCrn = i.params.resourceCrn) (ht : transition s selector = some s')
    (hfail : transition s .failed = some .failed)
    (hx : Obeys R (fun _ talk r => r = .ok () → Entered i.params talk s') x now h) :
    Obeys R (fun _ talk r => (definition polling).Resumes s i.params event True
      (Ready ((definition polling).entered i s event) · talk) r)
      (do x; return some (event.followUp selector)) now h := by
  refine Obeys.bind (hx.mono ?_)
  intro now talk r hr
  cases r with
  | error e => exact resumes_error hcrn hfail
  | ok _ => exact obeys_pure (resumes_ok hcrn ht (hr rfl))

end Resumes

/-- Entering a state from another one, the run does there what its account allows. -/
theorem obeys_execute (polling : Polling) {i : Instance vocabulary} {event : vocabulary.Event}
    {s : State} (hcrn : event.resourceCrn = i.params.resourceCrn) (hs : Entered i.params h s)
    (hter : isTerminal s = false) :
    Obeys ⟨fun _ => True, Allowed ((definition polling).entered i s event)⟩ (fun _ talk r =>
      (definition polling).Resumes s i.params event True
        (Ready ((definition polling).entered i s event) · talk) r)
      (execute polling s i.params event) now h := by
  have hstate := (definition polling).state_entered i s event
  have hparams := (definition polling).params_entered i s event
  cases s with
  | init => exact absurd hs id
  | final => cases hter
  | datalakesDeleting =>
    obtain rfl : h = [] := hs
    unfold execute
    cases hc : i.params.cascading with
    | false =>
      exact obeys_then (x := pure ()) hcrn rfl rfl
        (obeys_pure fun _ => (LakesTo.spared hc : LakesTo polling _ _ _).gone)
    | true =>
      rw [hcrn]
      refine obeys_then hcrn rfl rfl ((obeys_deleteDatalakes hc ?_ ?_).mono ?_)
      · intro talk
        exact ⟨hstate, by rw [hparams, hc], by rw [hparams]⟩
      · intro crn talk
        exact ⟨hstate, by rw [hparams, hc], by rw [hparams]⟩
      · rintro now _ r hr rfl
        obtain ⟨said, rfl, ht⟩ := hr
        exact ht.gone
  | freeIpaDeleting =>
    have hs : BeforeFreeIpa i.params h := hs
    unfold execute
    rw [hcrn]
    refine obeys_then hcrn rfl rfl ((obeys_deleteFreeIpa ?_ ?_).mono ?_)
    · exact ⟨hstate, by rw [hparams], by rw [hparams], by rwa [hparams]⟩
    · intro talk
      exact ⟨hstate, by rw [hparams]⟩
    · rintro now _ r hr rfl
      obtain ⟨said, rfl, ht⟩ := hr
      exact ⟨h, said, rfl, hs, ht.gone⟩
  | resourcesDeleting =>
    have hs : BeforeResources i.params h := hs
    unfold execute
    rw [hcrn]
    refine obeys_then hcrn rfl rfl ((obeys_deleteResources ?_).mono fun _ _ _ _ _ => trivial)
    exact ⟨hstate, by rw [hparams], by rw [hparams], by rwa [hparams]⟩
  | finished => exact obeys_pure (resumes_ok hcrn rfl trivial)
  | failed => exact obeys_pure (resumes_ok hcrn rfl trivial)

/-- The start event is at hand at the start. -/
theorem ready_start (q : StartRequest vocabulary) (f : FlowId) (flowType : String) :
    Ready (.new (q.params f flowType) .init) (q.event .start) [] := ⟨rfl, _, rfl, rfl⟩

/-- Deletions account for what they say. -/
def account (polling : Polling) : Account (definition polling) (.ofList []) where
  seen _ := True
  allows := Allowed
  ready := Ready
  closing _ _ := True
  going i event talk h := by
    obtain ⟨-, s, ht, -⟩ := h
    cases hs : i.state with
    | final =>
      rw [hs] at ht
      cases ht
    | _ => rfl
  handled i event talk hd now _ hh := by cases hh
  next i event talk h _ := by
    obtain ⟨-, s, ht, -⟩ := h
    exact Option.isSome_iff_exists.mpr ⟨s, ht⟩
  entered i event talk s now h _ ht hter := by
    obtain ⟨hcrn, s', ht', hs⟩ := h
    obtain rfl := Option.some.inj (ht'.symm.trans ht)
    exact obeys_execute polling hcrn hs hter
  closed i event talk s _ _ _ hter := by
    cases s with
    | final => exact ⟨trivial, none, rfl⟩
    | _ => cases hter

/-! ### The order -/

/-- After its deletion was asked for, the identity service was not found, or the run is forced and
    its deletion failed. -/
def FreeIpaSettled (environment : String) (forced : Bool) (talk : Talk Collaborators) : Prop :=
  (∃ c m, .told c (.deleteFreeIpa environment forced) (.error (.notFound m)) ∈ talk) ∨
    (∃ c m, .told c (.describeFreeIpa environment) (.error (.notFound m)) ∈ talk) ∨
    (forced = true ∧ ∃ c e, .told c (.deleteFreeIpa environment forced) (.error e) ∈ talk)

/-- What was said before a deletion makes a call, given the request that started it. It makes no
    other calls. -/
def InOrder (q : StartRequest vocabulary) (before : Talk Collaborators) : Call → Prop
  | .listDatalakes environment => q.cascading = true ∧ environment = q.resourceCrn
  | .deleteDatalake _ forced => q.cascading = true ∧ forced = q.forced
  | .deleteFreeIpa environment forced => environment = q.resourceCrn ∧ forced = q.forced ∧
      (∀ x ∈ before, ∀ environment' forced', x.call ≠ .deleteFreeIpa environment' forced') ∧
      (q.cascading = true → LakesGone q.resourceCrn q.forced before)
  | .describeFreeIpa environment => environment = q.resourceCrn
  | .deleteResources environment forced => environment = q.resourceCrn ∧ forced = q.forced ∧
      (∀ x ∈ before, ∀ environment' forced', x.call ≠ .deleteResources environment' forced') ∧
      ∃ earlier c later, before = earlier ++ .asked c (.deleteFreeIpa environment forced) :: later ∧
        FreeIpaSettled environment forced later
  | _ => False

/-- The state in which something is asked to be deleted. -/
def stepOf? : Call → Option State
  | .deleteDatalake .. => some .datalakesDeleting
  | .deleteFreeIpa .. => some .freeIpaDeleting
  | .deleteResources .. => some .resourcesDeleting
  | _ => none

/-- Before the identity service is asked to be deleted, only data lakes are talked about. -/
theorem BeforeFreeIpa.call_eq {talk : Talk Collaborators} (hb : BeforeFreeIpa p talk) :
    ∀ x ∈ talk, x.call = .listDatalakes p.resourceCrn ∨
      ∃ crn, x.call = .deleteDatalake crn p.forced := by
  cases hc : p.cascading with
  | false =>
    rw [hb.2 hc]
    exact List.forall_mem_nil _
  | true =>
    obtain ⟨c, c', lakes, crns, deletions, wait, rfl, hd, hw, -⟩ := hb.1 hc
    rw [List.forall_mem_cons, List.forall_mem_cons, List.forall_mem_append]
    exact ⟨.inl rfl, .inl rfl, fun x hx => .inr (hd.call_eq x hx), fun x hx => .inl (hw x hx)⟩

theorem FreeIpaGone.call_eq {talk : Talk Collaborators} (hg : FreeIpaGone environment forced talk) :
    ∀ x ∈ talk, x.call = .deleteFreeIpa environment forced ∨
      x.call = .describeFreeIpa environment := by
  cases hg with
  | missing | tolerated =>
    rw [List.forall_mem_cons, List.forall_mem_singleton]
    exact ⟨.inl rfl, .inl rfl⟩
  | awaited _ _ _ _ hw =>
    rw [List.forall_mem_cons, List.forall_mem_cons, List.forall_mem_append,
      List.forall_mem_singleton]
    exact ⟨.inl rfl, .inl rfl, fun x hx => .inr (hw x hx), .inr rfl⟩

theorem FreeIpaGone.settled {talk : Talk Collaborators} (hg : FreeIpaGone environment forced talk) :
    ∃ c later, talk = .asked c (.deleteFreeIpa environment forced) :: later ∧
      FreeIpaSettled environment forced later := by
  cases hg with
  | missing c c' m => exact ⟨c, _, rfl, .inl ⟨c', m, List.mem_singleton.mpr rfl⟩⟩
  | tolerated c c' e hf => exact ⟨c, _, rfl, .inr (.inr ⟨hf, c', e, List.mem_singleton.mpr rfl⟩)⟩
  | awaited c c' c'' m hw => exact ⟨c, _, rfl, .inr (.inl ⟨c'', m, by simp⟩)⟩

/-- Whatever call the account allows comes in order. -/
theorem inOrder_of_allowed {q : StartRequest vocabulary} {f : FlowId} {flowType : String}
    {i : Instance vocabulary} {talk : Talk Collaborators} {call : Call}
    (hp : i.params = q.params f flowType) (ha : Allowed i talk call) : InOrder q talk call := by
  have hcrn : i.params.resourceCrn = q.resourceCrn := by rw [hp]; rfl
  have hforced : i.params.forced = q.forced := by rw [hp]; rfl
  have hcascading : i.params.cascading = q.cascading := by rw [hp]; rfl
  cases call with
  | listDatalakes environment => exact ⟨hcascading ▸ ha.2.1, ha.2.2.trans hcrn⟩
  | deleteDatalake crn forced => exact ⟨hcascading ▸ ha.2.1, ha.2.2.trans hforced⟩
  | describeFreeIpa environment => exact ha.2.trans hcrn
  | deleteFreeIpa environment forced =>
    obtain ⟨-, rfl, rfl, hb⟩ := ha
    refine ⟨hcrn, hforced, ?_, fun hc => hcrn ▸ hforced ▸ hb.1 (hcascading.trans hc)⟩
    intro x hx environment' forced' hcall
    rcases hb.call_eq x hx with hl | ⟨crn, hl⟩ <;> rw [hl] at hcall <;> cases hcall
  | deleteResources environment forced =>
    obtain ⟨-, rfl, rfl, before, rest, rfl, hb, hg⟩ := ha
    refine ⟨hcrn, hforced, ?_, ?_⟩
    · intro x hx environment' forced' hcall
      rcases List.mem_append.mp hx with hx | hx
      · rcases hb.call_eq x hx with hl | ⟨crn, hl⟩ <;> rw [hl] at hcall <;> cases hcall
      · rcases hg.call_eq x hx with hl | hl <;> rw [hl] at hcall <;> cases hcall
    · obtain ⟨c, later, rfl, hsettled⟩ := hg.settled
      exact ⟨before, c, later, rfl, hsettled⟩
  | _ => exact absurd ha id

/-- Whatever is asked to be deleted, is asked in its state. -/
theorem state_of_allowed {i : Instance vocabulary} {talk : Talk Collaborators} {call : Call}
    (ha : Allowed i talk call) {s : State} (hs : stepOf? call = some s) : i.state = s := by
  cases call with
  | deleteDatalake | deleteFreeIpa | deleteResources =>
    cases hs
    exact ha.1
  | _ => cases hs

end CascadingDelete

namespace World

open CascadingDelete (InOrder stepOf?)

section Order

variable {engines : List (Definition CascadingDelete.vocabulary Collaborators ×
    List (Handler CascadingDelete.vocabulary Collaborators) × Nat)}
  {E : Execution CascadingDelete.vocabulary Collaborators} {e : EngineId} {polling : Polling}
  {retention n₀ serial : Nat} {q : StartRequest CascadingDelete.vocabulary}

/-- Whatever collaborators answer, whenever a cancel is asked for, and whatever the engines and the
    order of steps, a deletion that is started on a free lane and gets no event from outside makes
    its calls in order. And when a cancel of it is recorded, it is in some state, and whatever it
    asks to be deleted from then on belongs to that state. -/
theorem deletion_order (h₀ : E.world 0 = initial engines)
    (he : engines[e]? = some (CascadingDelete.definition polling, [], retention))
    (hl : E.label n₀ = .start e serial q) (hfree : (E.world n₀).lane? q.resourceId = none)
    (hno : ∀ n e' event, E.label n ≠ .dispatch e' (.opened serial) event) :
    (∀ n before c call after,
      E.talk e (.opened serial) n = before ++ .asked c call :: after → InOrder q before call) ∧
    ∀ m r, CancelRecorded (E.world m) (E.world (m + 1)) r (.opened serial) →
      ∃ i, (E.world m).instance? e (.opened serial) = some i ∧
        ∀ n before c call after s,
          E.talk e (.opened serial) n =
            E.talk e (.opened serial) m ++ before ++ .asked c call :: after →
          stepOf? call = some s → s = i.state := by
  have hready : (CascadingDelete.account polling).ready
      (.new (q.params (.opened serial) (CascadingDelete.definition polling).flowType)
        (CascadingDelete.definition polling).initial)
      (q.event (CascadingDelete.definition polling).start) [] := CascadingDelete.ready_start q _ _
  constructor
  · intro n before c call after htalk
    obtain ⟨-, i, -, -, -, hp, ha⟩ := Execution.allowed_of_talk h₀ he hready hl hfree hno
      (fun _ _ _ _ => trivial) htalk
    exact CascadingDelete.inOrder_of_allowed hp ha
  · intro m r hrec
    obtain ⟨i, hi, hlater⟩ := Execution.allowed_after_record h₀ he hready hl hfree hno
      (fun _ _ _ _ => trivial) hrec
    refine ⟨i, hi, ?_⟩
    intro n before c call after s htalk hs
    obtain ⟨j, hj, ha⟩ := hlater n before c call after htalk
    rw [← hj, CascadingDelete.state_of_allowed ha hs]

end Order

/-- Every deletion is accepted, and these data lakes are listed. -/
def listing (lakes : List DatalakeSummary) : Collaborators.Reply
  | .listDatalakes _ => .ok lakes
  | .deleteDatalake .. => .ok ()
  | .deleteFreeIpa .. => .ok ()
  | _ => .error (.notFound "gone")

/-- A deletion of an environment with its data lakes. -/
def cascadeRequest : StartRequest CascadingDelete.vocabulary where
  resourceId := 7
  resourceCrn := "environment"
  cascading := true
  payload := default

/-- A data lake is deleted and gone, then the identity service is asked to be deleted; before that
    is answered, a cancel is recorded. -/
def cascadeRun : List (Label CascadingDelete.vocabulary Collaborators) :=
  .start 0 0 cascadeRequest ::
    List.replicate 5 (.run 0 (listing [⟨"lake", "lake"⟩])) ++
    List.replicate 3 (.run 0 (listing [])) ++
    [.cancel 0 7, .run 1 (listing [])] ++ List.replicate 2 (.run 0 (listing []))

/-- The world after the deletion was cancelled. -/
def cascaded : World CascadingDelete.vocabulary Collaborators :=
  ((initial deletionEngines).follow cascadeRun).get rfl

/-- The deletion, after which only time passes. -/
def cascade : Execution CascadingDelete.vocabulary Collaborators :=
  .ofFollow (show (initial deletionEngines).follow cascadeRun = some cascaded from rfl)

/-- What is said until the data lake is gone. -/
def cascadeTalk : Talk Collaborators := [
  .asked 0 (.listDatalakes "environment"),
  .told 0 (.listDatalakes "environment") (.ok [⟨"lake", "lake"⟩]),
  .asked 0 (.deleteDatalake "lake" false),
  .told 0 (.deleteDatalake "lake" false) (.ok ()),
  .asked 0 (.listDatalakes "environment"),
  .told 0 (.listDatalakes "environment") (.ok [])]

/-- The identity service is asked to be deleted when the data lake is gone; with the cancel
    recorded, the other resources are never asked to be deleted. -/
theorem deletion_order_cascade :
    cascade.talk 0 (.opened 0) 9 =
      cascadeTalk ++ [.asked 0 (.deleteFreeIpa "environment" false)] ∧
    CascadingDelete.LakesGone "environment" false cascadeTalk ∧
    CancelRecorded (cascade.world 10) (cascade.world 11) 7 (.opened 0) ∧
    ∀ n before c after, cascade.talk 0 (.opened 0) n ≠
      cascade.talk 0 (.opened 0) 10 ++ before ++
        .asked c (.deleteResources "environment" false) :: after := by
  have htalk : cascade.talk 0 (.opened 0) 9 =
      cascadeTalk ++ [.asked 0 (.deleteFreeIpa "environment" false)] := rfl
  have hrec : CancelRecorded (cascade.world 10) (cascade.world 11) 7 (.opened 0) :=
    ⟨1, _, _, 0, rfl, rfl, rfl, rfl⟩
  have horder := deletion_order (E := cascade) (e := 0)
    (show cascade.world 0 = initial deletionEngines from rfl) rfl
    (show cascade.label 0 = .start 0 0 cascadeRequest from rfl) rfl
    (fun n e' event => Execution.undelivered_ofFollow _ rfl (.opened 0) n e' event)
  refine ⟨htalk, (horder.1 9 _ _ _ _ htalk).2.2.2 rfl, hrec, ?_⟩
  intro n before c after hn
  obtain ⟨i, hi, hlater⟩ := horder.2 10 7 hrec
  have hstate : ((cascade.world 10).instance? 0 (.opened 0)).map Instance.state =
      some .freeIpaDeleting := rfl
  rw [hi, Option.map_some, Option.some_inj] at hstate
  have hstep := hlater n before c _ after _ hn rfl
  rw [hstate] at hstep
  cases hstep

end World

end ResourceFlow
