import ResourceFlow.Proofs.Program.Talk
import ResourceFlow.Service.EnvironmentDeletion
/-! # What is said before a deletion is submitted

  The deletion service makes its inquiries one after the other. An inquiry is
  answered with none (`Clear`), or its answer is an objection (`Objects`), with
  the error that refuses the deletion. `Inquires` says that a program makes
  inquiries in this way; the validation of an environment makes all five of
  them (`validate_inquires`), the fifth only after the fourth was answered with
  none.

  `Asks` is what the service may ask after what was said so far, and
  `Deleted` what its call comes to: an objection, or whatever the engine
  answers to the submission (`delete_obeys`). For several environments,
  `DeletedEach` strings these together up to the first error
  (`deleteMultiple_obeys`, by induction on the environments).
-/

namespace ResourceFlow

namespace EnvironmentDeletion

variable {environment : EnvironmentView} {o : Options}

/-! ### Inquiries -/

/-- What is asked before a deletion that does not cascade, in order. -/
def inquiries (environment : EnvironmentView) : List Call :=
  [.childEnvironments environment, .attachedDatahubs environment,
    .connectedExperiences environment, .attachedDatalakes environment,
    .legacyDatalakes environment]

/-- The answer to an inquiry is none. -/
inductive Clear (environment : EnvironmentView) :
    (q : Call) → Except CollaboratorError q.Value → Prop where
  /-- No child environments. -/
  | children : Clear environment (.childEnvironments environment) (.ok [])
  /-- No data hubs. -/
  | datahubs : Clear environment (.attachedDatahubs environment) (.ok [])
  /-- No experiences. -/
  | experiences : Clear environment (.connectedExperiences environment) (.ok (0 : Nat))
  /-- No data lakes. -/
  | attached : Clear environment (.attachedDatalakes environment) (.ok [])
  /-- No legacy data lakes. -/
  | legacy : Clear environment (.legacyDatalakes environment) (.ok [])

/-- The answer to an inquiry refuses the deletion, with this error. -/
inductive Objects (environment : EnvironmentView) :
    (q : Call) → Except CollaboratorError q.Value → ServiceError → Prop where
  /-- The inquiry failed. -/
  | failed {q : Call} (hq : q ≠ .connectedExperiences environment) (e : CollaboratorError) :
      Objects environment q (.error e) (.collaborator e)
  /-- The experiences cannot be asked for. -/
  | unavailable (e : CollaboratorError) :
      Objects environment (.connectedExperiences environment) (.error e) (.unavailable
        ("Unable to access all experience to check whether the environment have any connected " ++
          "one(s)!"))
  /-- There are child environments. -/
  | children (name : String) (names : List String) :
      Objects environment (.childEnvironments environment) (.ok (name :: names))
        (refuse "Environment(s) must be deleted" (joined (name :: names)))
  /-- There are data hubs. -/
  | datahubs (name : String) (names : List String) :
      Objects environment (.attachedDatahubs environment) (.ok (name :: names))
        (refuse "Data Hub cluster(s) must be terminated" (joined (textSet (name :: names))))
  /-- There is one experience. -/
  | experience : Objects environment (.connectedExperiences environment) (.ok (1 : Nat))
      (.badRequest ("The given environment [" ++ environment.name ++
        "] has 1 connected experience. This must be terminated before Environment deletion."))
  /-- There are several experiences. -/
  | experiences (n : Nat) (hn : 2 ≤ n) :
      Objects environment (.connectedExperiences environment) (.ok n)
        (.badRequest ("The given environment [" ++ environment.name ++ "] has " ++ toString n ++
          " connected experiences. These must be terminated before Environment deletion."))
  /-- There are data lakes. -/
  | attached (name : String) (names : List String) :
      Objects environment (.attachedDatalakes environment) (.ok (name :: names))
        (refuse "Data Lake cluster(s) must be terminated" (joined (textSet (name :: names))))
  /-- There are legacy data lakes. -/
  | legacy (name : String) (names : List String) :
      Objects environment (.legacyDatalakes environment) (.ok (name :: names))
        (refuse "Data Lake cluster(s) must be terminated" (joined (textSet (name :: names))))

/-- Where none is there, nothing is objected. -/
theorem Clear.not_objects {q : Call} {x : Except CollaboratorError q.Value} {err : ServiceError}
    (h : Clear environment q x) : ¬ Objects environment q x err := by
  intro hobj
  cases h with
  | experiences =>
    cases hobj with
    | experiences _ hn => exact absurd hn (by decide)
  | _ => cases hobj

/-- The program makes inquiries in turn, up to the first objection. -/
def Inquires (environment : EnvironmentView) :
    List Call → Program Collaborators (Except ServiceError Unit) → Prop
  | [], p => p = .done (.ok ())
  | q :: qs, p => ∃ next, p = .call q next ∧ ∀ x,
      (∃ err, Objects environment q x err ∧ next x = .done (.error err)) ∨
        (Clear environment q x ∧ Inquires environment qs (next x))

/-- The inquiries of a program come before those of what follows it, if an objection ends both. -/
theorem Inquires.bind {qs qs' : List Call} {p : Program Collaborators (Except ServiceError Unit)}
    {f : Except ServiceError Unit → Program Collaborators (Except ServiceError Unit)}
    (hp : Inquires environment qs p) (hgo : Inquires environment qs' (f (.ok ())))
    (hstop : ∀ err, f (.error err) = .done (.error err)) :
    Inquires environment (qs ++ qs') (p.bind f) := by
  -- On the inquiries of the program.
  induction qs generalizing p with
  | nil =>
    obtain rfl : p = .done (.ok ()) := hp
    exact hgo
  | cons q qs ih =>
    obtain ⟨next, rfl, hnext⟩ := hp
    refine ⟨_, rfl, fun x => ?_⟩
    rcases hnext x with ⟨err, hobj, hend⟩ | ⟨hclear, hrest⟩
    · refine .inl ⟨err, hobj, ?_⟩
      rw [hend]
      exact hstop err
    · exact .inr ⟨hclear, ih hrest⟩

/-- The inquiries of one part of the validation come before those of the next. -/
theorem Inquires.append {qs qs' : List Call} {x y : Action ServiceError Unit}
    (hx : Inquires environment qs x.run) (hy : Inquires environment qs' y.run) :
    Inquires environment (qs ++ qs') (do x; y : Action ServiceError Unit).run :=
  Inquires.bind hx hy fun _ => rfl

theorem checkChildren_inquires (environment : EnvironmentView) :
    Inquires environment [.childEnvironments environment] (checkChildren environment).run := by
  refine ⟨_, rfl, fun x => ?_⟩
  rcases x with e | (_ | ⟨name, names⟩)
  · exact .inl ⟨_, .failed (by simp) e, rfl⟩
  · exact .inr ⟨.children, rfl⟩
  · exact .inl ⟨_, .children name names, rfl⟩

theorem checkDatahubs_inquires (environment : EnvironmentView) :
    Inquires environment [.attachedDatahubs environment] (checkDatahubs environment).run := by
  refine ⟨_, rfl, fun x => ?_⟩
  rcases x with e | (_ | ⟨name, names⟩)
  · exact .inl ⟨_, .failed (by simp) e, rfl⟩
  · exact .inr ⟨.datahubs, rfl⟩
  · exact .inl ⟨_, .datahubs name names, rfl⟩

theorem checkExperiences_inquires (environment : EnvironmentView) :
    Inquires environment [.connectedExperiences environment]
      (checkExperiences environment).run := by
  refine ⟨_, rfl, fun x => ?_⟩
  rcases x with e | (_ | _ | n)
  · exact .inl ⟨_, .unavailable e, rfl⟩
  · exact .inr ⟨.experiences, rfl⟩
  · exact .inl ⟨_, .experience, rfl⟩
  · exact .inl ⟨_, .experiences (n + 2) (Nat.le_add_left 2 n), rfl⟩

/-- The legacy data lakes are asked for only after the others were answered with none. -/
theorem checkDatalakes_inquires (environment : EnvironmentView) :
    Inquires environment [.attachedDatalakes environment, .legacyDatalakes environment]
      (checkDatalakes environment).run := by
  refine ⟨_, rfl, fun x => ?_⟩
  rcases x with e | (_ | ⟨name, names⟩)
  · exact .inl ⟨_, .failed (by simp) e, rfl⟩
  · refine .inr ⟨.attached, _, rfl, fun y => ?_⟩
    rcases y with e | (_ | ⟨name, names⟩)
    · exact .inl ⟨_, .failed (by simp) e, rfl⟩
    · exact .inr ⟨.legacy, rfl⟩
    · exact .inl ⟨_, .legacy name names, rfl⟩
  · exact .inl ⟨_, .attached name names, rfl⟩

/-- The validation makes all inquiries, up to the first objection. -/
theorem validate_inquires (environment : EnvironmentView) :
    Inquires environment (inquiries environment) (validate environment).run :=
  (checkChildren_inquires environment).append
    ((checkDatahubs_inquires environment).append
      ((checkExperiences_inquires environment).append (checkDatalakes_inquires environment)))

/-! ### What is said -/

/-- An inquiry and its answer. -/
def inquired (t t' : Duration) (q : Call) (x : Except CollaboratorError q.Value) : Talk Requests :=
  [.asked t (.collaborator q), .told t' (.collaborator q) x]

/-- A submission and its answer. -/
def submitted (t t' : Duration) (request : StartRequest CascadingDelete.vocabulary)
    (x : Except FlowError FlowId) : Talk Requests :=
  [.asked t (.submit request), .told t' (.submit request) x]

theorem mem_inquired {t t' : Duration} {q : Call} {a : Except CollaboratorError q.Value}
    {x : Entry Requests} : x ∈ inquired t t' q a ↔
      x = .asked t (.collaborator q) ∨ x = .told t' (.collaborator q) a := by
  simp [inquired]

theorem mem_submitted {t t' : Duration} {request : StartRequest CascadingDelete.vocabulary}
    {a : Except FlowError FlowId} {x : Entry Requests} : x ∈ submitted t t' request a ↔
      x = .asked t (.submit request) ∨ x = .told t' (.submit request) a := by
  simp [submitted]

/-- Inquiries were made in turn, and all were answered with none. -/
inductive Cleared (environment : EnvironmentView) : List Call → Talk Requests → Prop where
  /-- No inquiry was made. -/
  | nil : Cleared environment [] []
  /-- One more inquiry was answered with none. -/
  | snoc {qs : List Call} {talk : Talk Requests} {q : Call} {x : Except CollaboratorError q.Value}
      (h : Cleared environment qs talk) (hx : Clear environment q x) (t t' : Duration) :
      Cleared environment (qs ++ [q]) (talk ++ inquired t t' q x)

/-- The inquiries that must be answered with none before a deletion is submitted. -/
def required (environment : EnvironmentView) (o : Options) : List Call :=
  if o.cascading then [] else inquiries environment

/-- What may be asked after what was said so far: the next inquiry, unless the deletion cascades,
    and the submission after all that are required. -/
inductive Asks (environment : EnvironmentView) (o : Options) (talk : Talk Requests) :
    Request → Prop where
  /-- An inquiry, after those before it were answered with none. -/
  | inquires {before after : List Call} {q : Call} (hc : o.cascading = false)
      (hqs : inquiries environment = before ++ q :: after) (h : Cleared environment before talk) :
      Asks environment o talk (.collaborator q)
  /-- The submission. -/
  | submits (h : Cleared environment (required environment o) talk) :
      Asks environment o talk (.submit (startRequest environment o))

/-- What the deletion of an environment comes to, with all that was said. -/
inductive Deleted (environment : EnvironmentView) (o : Options) :
    Talk Requests → Except ServiceError FlowId → Prop where
  /-- The first inquiry that was not answered with none refuses it. -/
  | objected {before after : List Call} {q : Call} {talk : Talk Requests}
      {x : Except CollaboratorError q.Value} {err : ServiceError} (hc : o.cascading = false)
      (hqs : inquiries environment = before ++ q :: after) (h : Cleared environment before talk)
      (hx : Objects environment q x err) (t t' : Duration) :
      Deleted environment o (talk ++ inquired t t' q x) (.error err)
  /-- The engine answers to the submission. -/
  | answered {talk : Talk Requests} (h : Cleared environment (required environment o) talk)
      (t t' : Duration) (x : Except FlowError FlowId) :
      Deleted environment o (talk ++ submitted t t' (startRequest environment o) x)
        (x.mapError .flow)

/-- Environments were deleted in turn, each under a flow. -/
inductive Turned (o : Options) : List EnvironmentView → Talk Requests → List FlowId → Prop where
  /-- None so far. -/
  | nil : Turned o [] [] []
  /-- One more. -/
  | snoc {environments : List EnvironmentView} {environment : EnvironmentView}
      {talk talk' : Talk Requests} {flows : List FlowId} {flow : FlowId}
      (h : Turned o environments talk flows) (hd : Deleted environment o talk' (.ok flow)) :
      Turned o (environments ++ [environment]) (talk ++ talk') (flows ++ [flow])

/-- What may be asked when environments are deleted in turn: what may be asked for one of them,
    after those before it. -/
inductive AsksEach (o : Options) (environments : List EnvironmentView) (talk : Talk Requests) :
    Request → Prop where
  /-- For this environment. -/
  | of {before after : List EnvironmentView} {environment : EnvironmentView}
      {talk₁ talk₂ : Talk Requests} {flows : List FlowId} {request : Request}
      (he : environments = before ++ environment :: after) (h : Turned o before talk₁ flows)
      (ht : talk = talk₁ ++ talk₂) (ha : Asks environment o talk₂ request) :
      AsksEach o environments talk request

/-- What the deletion of environments in turn comes to. -/
inductive DeletedEach (o : Options) (environments : List EnvironmentView) :
    Talk Requests → Except ServiceError (List FlowId) → Prop where
  /-- Each has its flow. -/
  | all {talk : Talk Requests} {flows : List FlowId} (h : Turned o environments talk flows) :
      DeletedEach o environments talk (.ok flows)
  /-- One of them is refused. -/
  | stopped {before after : List EnvironmentView} {environment : EnvironmentView}
      {talk talk' : Talk Requests} {flows : List FlowId} {err : ServiceError}
      (he : environments = before ++ environment :: after) (h : Turned o before talk flows)
      (hd : Deleted environment o talk' (.error err)) :
      DeletedEach o environments (talk ++ talk') (.error err)

/-! ### What was said of an environment -/

/-- The legacy data lakes come last, right after the others. -/
theorem inquiries_split {before after : List Call} {q : Call}
    (h : inquiries environment = before ++ q :: after) :
    (.attachedDatalakes environment ∈ before ↔ q = .legacyDatalakes environment) ∧
      .legacyDatalakes environment ∉ before := by
  unfold inquiries at h
  rcases before with _ | ⟨_, _ | ⟨_, _ | ⟨_, _ | ⟨_, _ | ⟨_, before⟩⟩⟩⟩⟩
  case cons.cons.cons.cons.cons => simp at h
  all_goals
    cases h
    simp

/-- Each of the inquiries was made, and answered with none. -/
theorem Cleared.said {qs : List Call} {talk : Talk Requests} (h : Cleared environment qs talk)
    {q : Call} (hq : q ∈ qs) : ∃ t t' x, Clear environment q x ∧
      .asked t (.collaborator q) ∈ talk ∧ .told t' (.collaborator q) x ∈ talk := by
  induction h with
  | nil => cases hq
  | snoc h hx t t' ih =>
    rcases List.mem_append.mp hq with hq | hq
    · obtain ⟨t, t', x, hclear, hasked, htold⟩ := ih hq
      exact ⟨t, t', x, hclear, List.mem_append_left _ hasked, List.mem_append_left _ htold⟩
    · obtain rfl := List.mem_singleton.mp hq
      exact ⟨t, t', _, hx, by simp [inquired], by simp [inquired]⟩

/-- Nothing but these inquiries was said. -/
theorem Cleared.call_mem {qs : List Call} {talk : Talk Requests} (h : Cleared environment qs talk)
    {x : Entry Requests} (hx : x ∈ talk) : ∃ q ∈ qs, x.call = .collaborator q := by
  induction h with
  | nil => cases hx
  | @snoc qs talk q a h ha t t' ih =>
    rcases List.mem_append.mp hx with hx | hx
    · obtain ⟨q', hq', hcall⟩ := ih hx
      exact ⟨q', List.mem_append_left _ hq', hcall⟩
    · refine ⟨q, List.mem_append_right _ (List.mem_singleton_self q), ?_⟩
      rcases mem_inquired.mp hx with rfl | rfl <;> rfl

/-- Nothing but its inquiries, unless it cascades, and its submission was said. -/
theorem Deleted.call_mem {talk : Talk Requests} {r : Except ServiceError FlowId}
    (h : Deleted environment o talk r) {x : Entry Requests} (hx : x ∈ talk) :
    (o.cascading = false ∧ ∃ q ∈ inquiries environment, x.call = .collaborator q) ∨
      x.call = .submit (startRequest environment o) := by
  cases h with
  | @objected before after q talk a err hc hqs hcl hobj t t' =>
    refine .inl ⟨hc, ?_⟩
    rw [hqs]
    rcases List.mem_append.mp hx with hx | hx
    · obtain ⟨q', hq', hcall⟩ := hcl.call_mem hx
      exact ⟨q', List.mem_append_left _ hq', hcall⟩
    · refine ⟨q, List.mem_append_right _ List.mem_cons_self, ?_⟩
      rcases mem_inquired.mp hx with rfl | rfl <;> rfl
  | @answered talk hcl t t' a =>
    rcases List.mem_append.mp hx with hx | hx
    · obtain ⟨q, hq, hcall⟩ := hcl.call_mem hx
      cases hc : o.cascading with
      | true =>
        rw [required, hc] at hq
        cases hq
      | false =>
        rw [required, hc] at hq
        exact .inl ⟨rfl, q, hq, hcall⟩
    · refine .inr ?_
      rcases mem_submitted.mp hx with rfl | rfl <;> rfl

/-- The data lakes that only the legacy interface knows are asked for exactly if no others are
    attached. -/
theorem Deleted.legacy_iff {talk : Talk Requests} {x : Except ServiceError FlowId}
    (h : Deleted environment o talk x) :
    (∃ t, .asked t (.collaborator (.legacyDatalakes environment)) ∈ talk) ↔
      ∃ t, .told t (.collaborator (.attachedDatalakes environment)) (.ok []) ∈ talk := by
  -- Where the others were asked for and answered with none, that is what was told.
  have htold : ∀ {qs : List Call} {talk : Talk Requests}, Cleared environment qs talk →
      .attachedDatalakes environment ∈ qs →
      ∃ t, .told t (.collaborator (.attachedDatalakes environment)) (.ok []) ∈ talk := by
    intro qs talk hcl hmem
    obtain ⟨-, t', x, hclear, -, hx⟩ := hcl.said hmem
    cases hclear
    exact ⟨t', hx⟩
  cases h with
  | @objected before after q talk a err hc hqs hcl hobj t t' =>
    obtain ⟨hlast, hno⟩ := inquiries_split hqs
    constructor
    · rintro ⟨s, hs⟩
      rcases List.mem_append.mp hs with hs | hs
      · obtain ⟨q', hq', hcall⟩ := hcl.call_mem hs
        cases hcall
        exact absurd hq' hno
      · rcases mem_inquired.mp hs with hs | hs <;> cases hs
        obtain ⟨s', hs'⟩ := htold hcl (hlast.mpr rfl)
        exact ⟨s', List.mem_append_left _ hs'⟩
    · rintro ⟨s, hs⟩
      rcases List.mem_append.mp hs with hs | hs
      · obtain ⟨q', hq', hcall⟩ := hcl.call_mem hs
        cases hcall
        obtain rfl := hlast.mp hq'
        exact ⟨t, List.mem_append_right _ (mem_inquired.mpr (.inl rfl))⟩
      · -- An objection is no answer with none.
        rcases mem_inquired.mp hs with hs | hs <;> cases hs
        exact absurd hobj Clear.attached.not_objects
  | @answered talk hcl t t' x =>
    cases hc : o.cascading with
    | true =>
      -- Nothing is asked for.
      have hno : ∀ y ∈ talk ++ submitted t t' (startRequest environment o) x,
          ∀ q, y.call ≠ .collaborator q := by
        intro y hy q hcall
        rcases (Deleted.answered hcl t t' x).call_mem hy with ⟨hf, -⟩ | hs
        · rw [hc] at hf
          cases hf
        · cases hs.symm.trans hcall
      exact iff_of_false (fun ⟨s, hs⟩ => hno _ hs _ rfl) (fun ⟨s, hs⟩ => hno _ hs _ rfl)
    | false =>
      rw [required, hc, if_neg nofun] at hcl
      obtain ⟨s, -, -, -, hs, -⟩ :=
        hcl.said (q := .legacyDatalakes environment) (by simp [inquiries])
      obtain ⟨s', hs'⟩ := htold hcl (by simp [inquiries])
      exact iff_of_true ⟨s, List.mem_append_left _ hs⟩ ⟨s', List.mem_append_left _ hs'⟩

/-! ### The service says so -/

/-- A program that makes inquiries says so. -/
theorem Inquires.obeys {R : Rules Requests}
    {Q : Duration → Talk Requests → Except ServiceError Unit → Prop} (base : Talk Requests)
    (hallow : ∀ {before q after talk}, inquiries environment = before ++ q :: after →
      Cleared environment before talk → R.allows (base ++ talk) (.collaborator q))
    (hstop : ∀ {before q after talk x err} t t', inquiries environment = before ++ q :: after →
      Cleared environment before talk → Objects environment q x err →
      Q t' (base ++ (talk ++ inquired t t' q x)) (.error err))
    (hgo : ∀ {talk} now, Cleared environment (inquiries environment) talk →
      Q now (base ++ talk) (.ok ()))
    {before qs : List Call} {p : Program Collaborators (Except ServiceError Unit)}
    (hp : Inquires environment qs p) (hqs : inquiries environment = before ++ qs)
    {talk : Talk Requests} (hcl : Cleared environment before talk) (now : Duration) :
    (calls.program p).Obeys R Q now (base ++ talk) := by
  -- On the inquiries that are left.
  induction qs generalizing before p talk now with
  | nil =>
    obtain rfl : p = .done (.ok ()) := hp
    rw [List.append_nil] at hqs
    subst hqs
    exact hgo now hcl
  | cons q qs ih =>
    obtain ⟨next, rfl, hnext⟩ := hp
    refine ⟨hallow hqs hcl, fun later x => ?_⟩
    have hsaid : base ++ talk ++ [.asked now (.collaborator q)] ++
        [.told later (.collaborator q) x] = base ++ (talk ++ inquired now later q x) := by
      simp only [inquired, List.append_assoc, List.cons_append, List.nil_append]
    show (calls.program (next x)).Obeys R Q later (base ++ talk ++ [.asked now (.collaborator q)] ++
      [.told later (.collaborator q) x])
    rw [hsaid]
    rcases hnext x with ⟨err, hobj, hend⟩ | ⟨hclear, hrest⟩
    · rw [hend]
      exact hstop now later hqs hcl hobj
    · exact ih hrest (by rw [hqs, List.append_assoc]; rfl) (hcl.snoc hclear now later) later

/-- The submission of a deletion. -/
def submission (environment : EnvironmentView) (o : Options) :
    Program Requests (Except ServiceError FlowId) :=
  .call (.submit (startRequest environment o)) fun x => .done (x.mapError .flow)

/-- The deletion of an environment is its validation, unless it cascades, and its submission. -/
theorem delete_run (environment : EnvironmentView) (o : Options) :
    (delete environment o).run =
      (if o.cascading then .done (.ok ()) else calls.program (validate environment).run) >>=
        fun r => match r with
          | .ok () => submission environment o
          | .error err => .done (.error err) := by
  unfold delete
  cases o.cascading with
  | true => rfl
  | false =>
    refine congrArg (Program.bind (calls.program (validate environment).run)) (funext fun r => ?_)
    cases r <;> rfl

/-- The deletion of an environment asks and comes to what it should, after whatever was said
    before. -/
theorem delete_obeys {R : Rules Requests} (base : Talk Requests)
    (hallow : ∀ {talk request}, Asks environment o talk request →
      R.allows (base ++ talk) request) (now : Duration) :
    (delete environment o).run.Obeys R
      (fun _ talk x => ∃ talk', talk = base ++ talk' ∧ Deleted environment o talk' x) now base := by
  rw [delete_run]
  refine Program.Obeys.bind ?_
  -- After all that is required, the submission is made and answered.
  have hsubmit : ∀ {talk} (now : Duration), Cleared environment (required environment o) talk →
      (submission environment o).Obeys R (fun _ talk x => ∃ talk', talk = base ++ talk' ∧
        Deleted environment o talk' x) now (base ++ talk) := by
    intro talk now hcl
    refine ⟨hallow (.submits hcl), fun later x => ?_⟩
    exact ⟨_, by simp only [submitted, List.append_assoc, List.cons_append, List.nil_append],
      .answered hcl now later x⟩
  cases hc : o.cascading with
  | true =>
    have hnone : Cleared environment (required environment o) [] := by
      rw [required, hc]
      exact .nil
    have hnow := hsubmit now hnone
    rw [List.append_nil] at hnow
    exact hnow
  | false =>
    have hall : required environment o = inquiries environment := by rw [required, hc]; rfl
    have hnow := (validate_inquires environment).obeys base (R := R) (Q := fun now talk r =>
      (match r with
        | .ok () => submission environment o
        | .error err => .done (.error err) : Program Requests (Except ServiceError FlowId)).Obeys R
          (fun _ talk x => ∃ talk', talk = base ++ talk' ∧ Deleted environment o talk' x) now talk)
      (fun hqs hcl => hallow (.inquires hc hqs hcl))
      (fun t t' hqs hcl hobj => ⟨_, rfl, .objected hc hqs hcl hobj t t'⟩)
      (fun now hcl => hsubmit now (hall ▸ hcl)) rfl .nil now
    rw [List.append_nil] at hnow
    exact hnow

/-- The deletion of environments in turn asks and comes to what it should. -/
theorem deleteMultiple_obeys {R : Rules Requests} {environments : List EnvironmentView}
    (hallow : ∀ {talk request}, AsksEach o environments talk request → R.allows talk request)
    {before rest : List EnvironmentView} (he : environments = before ++ rest)
    {base : Talk Requests} {flows : List FlowId} (h : Turned o before base flows)
    (now : Duration) :
    (deleteMultiple o rest).run.Obeys R (fun _ talk x => DeletedEach o environments talk
      (x.map (flows ++ ·))) now base := by
  -- On the environments that are left.
  induction rest generalizing before base flows now with
  | nil =>
    rw [List.append_nil] at he
    subst he
    show DeletedEach o environments base (.ok (flows ++ []))
    rw [List.append_nil]
    exact .all h
  | cons environment rest ih =>
    have hone : (delete environment o).run.Obeys R _ now base :=
      delete_obeys base (fun ha => hallow (.of he h rfl ha)) now
    refine Program.Obeys.bind (p := (delete environment o).run) (hone.mono ?_)
    rintro later _ x ⟨talk', rfl, hd⟩
    cases x with
    | error err => exact .stopped he h hd
    | ok flow =>
      have hleft : environments = before ++ [environment] ++ rest := by
        rw [he, List.append_assoc]
        rfl
      have hrest := ih hleft (h.snoc hd) later
      refine Program.Obeys.bind (p := (deleteMultiple o rest).run) (hrest.mono ?_)
      intro _ talk x hx
      cases x with
      | error err => exact hx
      | ok flows' =>
        have hx : DeletedEach o environments talk (.ok (flows ++ [flow] ++ flows')) := hx
        rw [List.append_assoc] at hx
        exact hx

end EnvironmentDeletion

end ResourceFlow
