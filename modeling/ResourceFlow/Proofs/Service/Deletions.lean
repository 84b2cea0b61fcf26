import ResourceFlow.Proofs.Service.DeletionInquiries
import ResourceFlow.Proofs.Service.Visits
/-! # Deletions are submitted only after all inquiries

  The deletion service submits the deletion of an environment only after each
  inquiry was answered with none, unless the deletion cascades. An error, of an
  inquiry or of the engine, leaves no flow behind; otherwise there is one flow,
  of this environment and with these options (`EnvironmentDeletion.delete_guarded`).

  Several environments are deleted in turn, up to the first error: those before
  it have their flows, which the service leaves alone from then on, and nothing
  is asked or opened for those after it
  (`EnvironmentDeletion.deleteMultiple_guarded`).

  Both follow from what is said (`delete_obeys`, `deleteMultiple_obeys`), as the
  service opens the flows that it is told to be open and does nothing else.
-/

namespace ResourceFlow

namespace EnvironmentDeletion

variable {V : Vocabulary} {I : Interface} {α : Type} {environment : EnvironmentView} {o : Options}

open Session

/-! ### What is opened, by what is said -/

theorem Cleared.opened {qs : List Call} {talk : Talk Requests} (h : Cleared environment qs talk) :
    opened talk = [] := by
  induction h with
  | nil => rfl
  | snoc h hx t t' ih =>
    rw [opened_append, ih]
    rfl

/-- An error leaves no flow behind, and otherwise there is one. -/
theorem Deleted.opened {talk : Talk Requests} {x : Except ServiceError FlowId}
    (h : Deleted environment o talk x) : opened talk =
      match x with
      | .ok flow => [(startRequest environment o, flow)]
      | .error _ => [] := by
  cases h with
  | objected hc hqs hcl hobj t t' =>
    rw [opened_append, hcl.opened]
    rfl
  | answered hcl t t' x =>
    rw [opened_append, hcl.opened]
    cases x <;> rfl

/-- Environments that were deleted in turn have one flow each. -/
theorem Turned.opened {environments : List EnvironmentView} {talk : Talk Requests}
    {flows : List FlowId} (h : Turned o environments talk flows) :
    flows.length = environments.length ∧
      opened talk = (environments.map (startRequest · o)).zip flows := by
  induction h with
  | nil => exact ⟨rfl, rfl⟩
  | snoc h hd ih =>
    refine ⟨by simp [ih.1], ?_⟩
    rw [opened_append, ih.2, hd.opened, List.map_append, List.zip_append (by simp [ih.1])]
    rfl

/-- Nothing but their inquiries and submissions was said. -/
theorem Turned.call_mem {environments : List EnvironmentView} {talk : Talk Requests}
    {flows : List FlowId} (h : Turned o environments talk flows) {x : Entry Requests}
    (hx : x ∈ talk) : ∃ environment ∈ environments,
      (o.cascading = false ∧ ∃ q ∈ inquiries environment, x.call = .collaborator q) ∨
        x.call = .submit (startRequest environment o) := by
  induction h with
  | nil => cases hx
  | @snoc environments environment talk talk' flows flow h hd ih =>
    rcases List.mem_append.mp hx with hx | hx
    · obtain ⟨environment', hmem, hcall⟩ := ih hx
      exact ⟨environment', List.mem_append_left _ hmem, hcall⟩
    · exact ⟨environment, List.mem_append_right _ List.mem_cons_self, hd.call_mem hx⟩

/-! ### What is opened -/

section Opens

variable {e : EngineId} {g : EnvironmentView → V.Payload} {p : Program Requests α}
  {S : Session I e g p} {n : Nat} {q : StartRequest CascadingDelete.vocabulary} {f : FlowId}

/-- What is opened was asked for. -/
theorem Session.Opens.asked (h : S.Opens n q f) :
    ∃ before t, S.talk n = before ++ [.asked t (.submit q)] := by
  obtain ⟨before, t, ht⟩ := S.asked_last n
  rw [h.1] at ht
  exact ⟨before, t, ht⟩

/-- What is opened is a flow with the parameters that were asked for. -/
theorem Session.Opens.running (h : S.Opens n q f) : ∃ eng,
    (S.visit n).world.engines[e]? = some eng ∧
      (S.visit (n + 1)).world.running? e f = some (q.params f eng.definition.flowType) := by
  obtain ⟨-, serial, eng, g', -, rfl, ho⟩ := h
  refine ⟨eng, ho.hasEngine, ?_⟩
  rw [ho.running?, if_pos ⟨rfl, rfl⟩]
  rfl

end Opens

/-- A flow that deletes an environment, with these options. -/
def parameters (environment : EnvironmentView) (o : Options) (f : FlowId) (flowType : String) :
    FlowParameters where
  flow := f
  flowType := flowType
  resourceId := environment.id
  resourceCrn := environment.crn
  userCrn := some o.userCrn
  cascading := o.cascading
  forced := o.forced

/-- Whether a call deletes something. -/
def deletes : Call → Bool
  | .deleteFreeIpa .. => true
  | .deleteResources .. => true
  | .deleteDatalake .. => true
  | _ => false

/-- No inquiry deletes anything. -/
theorem deletes_of_mem_inquiries {q : Call} (h : q ∈ inquiries environment) :
    deletes q = false := by
  unfold inquiries at h
  simp only [List.mem_cons, List.not_mem_nil, or_false] at h
  rcases h with rfl | rfl | rfl | rfl | rfl <;> rfl

/-! ### One environment -/

section One

variable {e : EngineId} {g : EnvironmentView → V.Payload}

/-- A call to delete an environment guards the deletion. -/
structure Guarded (S : Session I e g (delete environment o).run) : Prop where
  /-- Inquiries are made in order, each after those before it were answered with none, and none if
      the deletion cascades; the submission comes after all that are required were answered with
      none. Nothing else is asked. -/
  asks : ∀ n before t request after, S.talk n = before ++ .asked t request :: after →
    Asks environment o before request
  /-- It returns, if it is served. -/
  returns : S.Fair → ∃ n x, S.returned? n = some x
  /-- It returns the error of the first inquiry that was not answered with none, or whatever the
      engine answers to the submission. -/
  outcome : ∀ n x, S.returned? n = some x → Deleted environment o (S.talk n) x
  /-- The legacy data lakes are asked for exactly if no others are attached. -/
  legacy : ∀ n x, S.returned? n = some x →
    ((∃ t, .asked t (.collaborator (.legacyDatalakes environment)) ∈ S.talk n) ↔
      ∃ t, .told t (.collaborator (.attachedDatalakes environment)) (.ok []) ∈ S.talk n)
  /-- It deletes nothing itself. -/
  inquires : ∀ n t q, .asked t (.collaborator q) ∈ S.talk n →
    o.cascading = false ∧ q ∈ inquiries environment ∧ deletes q = false
  /-- What it opens is the deletion of the environment, after all that are required were answered
      with none, under a flow with the options as they are. -/
  opens : ∀ n request f, S.Opens n request f →
    request = startRequest environment o ∧
    (∃ before t, S.talk n = before ++ [.asked t (.submit request)] ∧
      Cleared environment (required environment o) before) ∧
    ∃ eng, (S.visit n).world.engines[e]? = some eng ∧
      (S.visit (n + 1)).world.running? e f =
        some (parameters environment o f eng.definition.flowType)
  /-- If it returns an error, it has opened no flow and changed nothing. -/
  refused : ∀ n err, S.returned? n = some (.error err) → S.Openings n []
  /-- If it returns a flow, it has opened this flow and changed nothing else. -/
  opened : ∀ n f, S.returned? n = some (.ok f) → S.Openings n [(startRequest environment o, f)]

/-- What is said obeys the rules. -/
theorem deleted_talk (S : Session I e g (delete environment o).run) (n : Nat) :
    (S.visit n).activity.Obeys ⟨fun _ => True, Asks environment o⟩
      (fun _ talk x => Deleted environment o talk x) (S.talk n) ∧
    Allowed ⟨fun _ => True, Asks environment o⟩ (S.talk n) := by
  refine S.obeys (fun _ => trivial) (fun now => ?_) n
  refine (delete_obeys [] (fun ha => ha) now).mono ?_
  rintro _ _ _ ⟨talk, rfl, hd⟩
  exact hd

theorem deleted_of_returned {S : Session I e g (delete environment o).run} {n : Nat}
    {x : Except ServiceError FlowId} (h : S.returned? n = some x) :
    Deleted environment o (S.talk n) x := by
  have hobeys := (deleted_talk S n).1
  rw [returned?_eq_some_iff.mp h] at hobeys
  obtain ⟨-, hd⟩ := hobeys
  exact hd

/-- Whatever is answered, and whatever happens at the engines meanwhile, a call to delete an
    environment guards the deletion. -/
theorem delete_guarded (S : Session I e g (delete environment o).run) : Guarded S where
  asks n := (deleted_talk S n).2
  returns hf := hf.returns
  outcome n x h := deleted_of_returned h
  legacy n x h := (deleted_of_returned h).legacy_iff
  inquires n t q h := by
    obtain ⟨before, after, heq⟩ := List.append_of_mem h
    have hasks := (deleted_talk S n).2 before t (.collaborator q) after heq
    cases hasks with
    | inquires hc hqs hcl =>
      have hmem : q ∈ inquiries environment := by
        rw [hqs]
        exact List.mem_append_right _ List.mem_cons_self
      exact ⟨hc, hmem, deletes_of_mem_inquiries hmem⟩
  opens n request f h := by
    obtain ⟨before, t, ht⟩ := h.asked
    have hasks := (deleted_talk S n).2 before t (.submit request) [] ht
    cases hasks with
    | submits hcl =>
      obtain ⟨eng, he, hr⟩ := h.running
      exact ⟨rfl, ⟨before, t, ht, hcl⟩, eng, he, hr⟩
  refused n err h := by
    have hopenings := S.openings n
    rw [(deleted_of_returned h).opened] at hopenings
    exact hopenings
  opened n f h := by
    have hopenings := S.openings n
    rw [(deleted_of_returned h).opened] at hopenings
    exact hopenings

/-- An environment that someone wants to be gone. -/
def unwanted : EnvironmentView := ⟨7, "environment", "crn", "account"⟩

/-- The payload of a deletion is the environment. -/
def payload (environment : EnvironmentView) : CascadingDelete.vocabulary.Payload := environment

/-- Nothing is attached to any environment. -/
def unattached : Requests.Reply
  | .collaborator (.childEnvironments _) => .ok []
  | .collaborator (.attachedDatahubs _) => .ok []
  | .collaborator (.connectedExperiences _) => .ok (0 : Nat)
  | .collaborator (.attachedDatalakes _) => .ok []
  | .collaborator (.legacyDatalakes _) => .ok []
  | .collaborator _ => .error default
  | .submit _ => .error (.dispatch "")

/-- Between the last answer and the submission, another engine begins to delete the same
    environment. -/
def overtakenRun : List (Occurrence CascadingDelete.vocabulary Collaborators) :=
  List.replicate 5 (.answered unattached) ++
    [.aside (.start 1 0 (startRequest unwanted ⟨"rival", true, true⟩)), .submitted 1]

/-- Such a call begins. -/
def overtakenBegin : Visit CascadingDelete.vocabulary Collaborators (Except ServiceError FlowId) :=
  .begin (World.initial World.deletionEngines) (delete unwanted ⟨"user", false, true⟩).run

/-- Such a session. -/
def overtaken : Session Collaborators 0 payload (delete unwanted ⟨"user", false, true⟩).run :=
  .ofFollow (show overtakenBegin.follow 0 payload overtakenRun =
    some ((overtakenBegin.follow 0 payload overtakenRun).get rfl) from rfl)

/-- The call returns the conflict, after all inquiries were answered with none, and has opened
    nothing. -/
theorem delete_guarded_overtaken : overtaken.Fair ∧
    overtaken.returned? 7 = some (.error (.flow (.conflict 7 (.opened 0) "environment-deletion"))) ∧
    overtaken.Openings 7 [] ∧
    Deleted unwanted ⟨"user", false, true⟩ (overtaken.talk 7)
      (.error (.flow (.conflict 7 (.opened 0) "environment-deletion"))) := by
  have h := delete_guarded overtaken
  have hreturned : overtaken.returned? 7 =
      some (.error (.flow (.conflict 7 (.opened 0) "environment-deletion"))) := rfl
  exact ⟨fair_ofFollow _ (x := .error (.flow (.conflict 7 (.opened 0) "environment-deletion"))) rfl,
    hreturned, h.refused 7 _ hreturned, h.outcome 7 _ hreturned⟩

end One

/-! ### Several environments -/

section Several

variable {e : EngineId} {g : EnvironmentView → V.Payload} {environments : List EnvironmentView}

/-- A call to delete environments in turn stops at the first that is refused. -/
structure GuardedEach (S : Session I e g (deleteMultiple o environments).run) : Prop where
  /-- All that is asked may be asked for one of the environments, after those before it have their
      flows. -/
  asks : ∀ n before t request after, S.talk n = before ++ .asked t request :: after →
    AsksEach o environments before request
  /-- It returns, if it is served. -/
  returns : S.Fair → ∃ n x, S.returned? n = some x
  /-- If it returns flows, there is one for each environment, in order, and it has opened these and
      changed nothing else. -/
  all : ∀ n flows, S.returned? n = some (.ok flows) →
    Turned o environments (S.talk n) flows ∧ flows.length = environments.length ∧
      S.Openings n ((environments.map (startRequest · o)).zip flows)
  /-- If it returns an error, that is what the deletion of one of the environments comes to. Those
      before it have one flow each, and it has opened these and changed nothing else; nothing was
      asked about those after it. -/
  stopped : ∀ n err, S.returned? n = some (.error err) →
    ∃ before environment after flows talk talk', environments = before ++ environment :: after ∧
      S.talk n = talk ++ talk' ∧ Turned o before talk flows ∧
      Deleted environment o talk' (.error err) ∧ flows.length = before.length ∧
      S.Openings n ((before.map (startRequest · o)).zip flows) ∧
      ∀ entry ∈ S.talk n, ∃ environment' ∈ before ++ [environment],
        (o.cascading = false ∧ ∃ q ∈ inquiries environment', entry.call = .collaborator q) ∨
          entry.call = .submit (startRequest environment' o)
  /-- What it opens is the deletion of one of the environments, under a flow with the options as
      they are. -/
  opens : ∀ n request f, S.Opens n request f → ∃ environment ∈ environments,
    request = startRequest environment o ∧
    ∃ eng, (S.visit n).world.engines[e]? = some eng ∧
      (S.visit (n + 1)).world.running? e f =
        some (parameters environment o f eng.definition.flowType)
  /-- It leaves the flows alone that were opened before, its own and others. -/
  leaves : ∀ n f, (S.occurrence n).own = true → (S.visit n).world.Opened f →
    World.Leaves (S.visit n).world (S.visit (n + 1)).world f

/-- What is said obeys the rules. -/
theorem deletedEach_talk (S : Session I e g (deleteMultiple o environments).run) (n : Nat) :
    (S.visit n).activity.Obeys ⟨fun _ => True, AsksEach o environments⟩
      (fun _ talk x => DeletedEach o environments talk x) (S.talk n) ∧
    Allowed ⟨fun _ => True, AsksEach o environments⟩ (S.talk n) := by
  refine S.obeys (fun _ => trivial) (fun now => ?_) n
  have hall : environments = [] ++ environments := rfl
  refine (deleteMultiple_obeys (fun ha => ha) hall .nil now).mono ?_
  intro _ _ x hd
  cases x <;> exact hd

theorem deletedEach_of_returned {S : Session I e g (deleteMultiple o environments).run} {n : Nat}
    {x : Except ServiceError (List FlowId)} (h : S.returned? n = some x) :
    DeletedEach o environments (S.talk n) x := by
  have hobeys := (deletedEach_talk S n).1
  rw [returned?_eq_some_iff.mp h] at hobeys
  obtain ⟨-, hd⟩ := hobeys
  exact hd

/-- Whatever is answered, and whatever happens at the engines meanwhile, a call to delete
    environments in turn stops at the first that is refused. -/
theorem deleteMultiple_guarded (S : Session I e g (deleteMultiple o environments).run) :
    GuardedEach S where
  asks n := (deletedEach_talk S n).2
  returns hf := hf.returns
  all n flows h := by
    have hopenings := S.openings n
    have hd := deletedEach_of_returned h
    generalize S.talk n = talk at hd hopenings ⊢
    cases hd with
    | all ht =>
      rw [ht.opened.2] at hopenings
      exact ⟨ht, ht.opened.1, hopenings⟩
  stopped n err h := by
    have hopenings := S.openings n
    have hd := deletedEach_of_returned h
    generalize S.talk n = talk at hd hopenings ⊢
    cases hd with
    | @stopped before after environment talk talk' flows _ he ht hd =>
      rw [opened_append, ht.opened.2, hd.opened, List.append_nil] at hopenings
      refine ⟨before, environment, after, flows, talk, talk', he, rfl, ht, hd, ht.opened.1,
        hopenings, fun entry hentry => ?_⟩
      rcases List.mem_append.mp hentry with hentry | hentry
      · obtain ⟨environment', hmem, hcall⟩ := ht.call_mem hentry
        exact ⟨environment', List.mem_append_left _ hmem, hcall⟩
      · exact ⟨environment, List.mem_append_right _ List.mem_cons_self, hd.call_mem hentry⟩
  opens n request f h := by
    obtain ⟨before, t, ht⟩ := h.asked
    have hasks := (deletedEach_talk S n).2 before t (.submit request) [] ht
    cases hasks with
    | @of before' after environment _ _ _ _ he _ _ ha =>
      have hmem : environment ∈ environments := by
        rw [he]
        exact List.mem_append_right _ List.mem_cons_self
      cases ha with
      | submits hcl =>
        obtain ⟨eng, heng, hr⟩ := h.running
        exact ⟨environment, hmem, rfl, eng, heng, hr⟩
  leaves n f ho hf := Session.leaves ho hf

/-- The deletion of one environment is asked for several times. -/
def repeatedBegin :
    Visit CascadingDelete.vocabulary Collaborators (Except ServiceError (List FlowId)) :=
  .begin (World.initial World.deletionEngines)
    (deleteMultiple ⟨"user", true, false⟩ [unwanted, unwanted, unwanted]).run

/-- Such a session. -/
def repeated : Session Collaborators 0 payload
    (deleteMultiple ⟨"user", true, false⟩ [unwanted, unwanted, unwanted]).run :=
  .ofFollow (show repeatedBegin.follow 0 payload [.submitted 0, .submitted 1] =
    some ((repeatedBegin.follow 0 payload [.submitted 0, .submitted 1]).get rfl) from rfl)

/-- The first has its flow, which is left alone when the second is refused; the third is not asked
    for. -/
theorem deleteMultiple_guarded_repeated : repeated.Fair ∧
    repeated.returned? 2 =
      some (.error (.flow (.conflict 7 (.opened 0) "environment-deletion"))) ∧
    (∃ before environment after flows, [unwanted, unwanted, unwanted] =
        before ++ environment :: after ∧ flows.length = before.length ∧
      repeated.Openings 2
        ((before.map (startRequest · ⟨"user", true, false⟩)).zip flows)) ∧
    World.Leaves (repeated.visit 1).world (repeated.visit 2).world (.opened 0) := by
  have h := deleteMultiple_guarded repeated
  have hreturned : repeated.returned? 2 =
      some (.error (.flow (.conflict 7 (.opened 0) "environment-deletion"))) := rfl
  obtain ⟨before, environment, after, flows, -, -, he, -, -, -, hlen, hopenings, -⟩ :=
    h.stopped 2 _ hreturned
  exact ⟨fair_ofFollow _ (x := .error (.flow (.conflict 7 (.opened 0) "environment-deletion"))) rfl,
    hreturned, ⟨before, environment, after, flows, he, hlen, hopenings⟩,
    h.leaves 1 (.opened 0) rfl ⟨0, rfl, by decide⟩⟩

end Several

end EnvironmentDeletion

end ResourceFlow
