import ResourceFlow.Proofs.Program.Talk
import ResourceFlow.Proofs.World.Refusals
import ResourceFlow.Proofs.World.Started
import ResourceFlow.Service.EnvironmentDeletion
/-! # A call of the deletion service beside the engines

  A caller of the deletion service is served while the engines run: a `Visit`
  is the world of the engines and the program of the service in progress.
  Between the steps of the service anything can happen in the world. When the
  service submits a flow, the engine opens it on a free lane, or answers with
  the conflict (`World.Submission`).

  A `Session` is an endless sequence of such steps for one call.
  `Session.Openings` accounts for all that the service itself does to the
  world, in order: it opens flows, and otherwise leaves the engines, the
  registry and the tasks as they are. What it opened is what it was told to be
  open (`Session.openings`), what it says obeys its rules (`Session.obeys`),
  and it comes to an end if it is served (`Session.Fair.returns`).
-/

namespace ResourceFlow

variable {V W : Vocabulary} {I : Interface} {α : Type}

/-- A start request with another payload. -/
def StartRequest.map (g : V.Payload → W.Payload) (q : StartRequest V) : StartRequest W where
  resourceId := q.resourceId
  resourceCrn := q.resourceCrn
  userCrn := q.userCrn
  cascading := q.cascading
  forced := q.forced
  payload := g q.payload

namespace World

variable {w w' : World V I} {e : EngineId} {serial : Nat} {q : StartRequest V}

/-! ### Submissions -/

/-- Submits a flow: it is opened at once, or the caller is told why not. -/
def submit (w : World V I) (e : EngineId) (serial : Nat) (q : StartRequest V) :
    Option (World V I × Except FlowError FlowId) := do
  let w' ← w.start e serial q
  match (w'.tasks.getLast?).map Task.work with
  | some (.process _ flow _) => some (w', .ok flow)
  | some (.refused err) => some (w', .error err)
  | _ => none

/-- What a submission does, and what is answered. -/
inductive Submission (w : World V I) (e : EngineId) (serial : Nat) (q : StartRequest V) :
    World V I → Except FlowError FlowId → Prop where
  /-- The flow is opened. -/
  | opened {w' : World V I} {eng : Engine V I} {g : Registry}
      (h : OpenStep w e serial q w' eng g) : Submission w e serial q w' (.ok (.opened serial))
  /-- The lane is occupied. -/
  | refused {lane : Lane} (h : w.lane? q.resourceId = some lane) :
      Submission w e serial q
        (w.addTask e (.refused (.conflict q.resourceId lane.flow lane.flowType)))
        (.error (.conflict q.resourceId lane.flow lane.flowType))

/-- A flow is opened exactly on a free lane. -/
theorem submission_of_submit {x : Except FlowError FlowId}
    (h : w.submit e serial q = some (w', x)) : Submission w e serial q w' x := by
  unfold submit at h
  obtain ⟨w₁, hs, h⟩ := Option.bind_eq_some_iff.mp h
  have hstart := hs
  unfold start at hstart
  obtain ⟨d, hd, hstart⟩ := Option.bind_eq_some_iff.mp hstart
  obtain ⟨eng, he, rfl⟩ := desk?_eq_some hd
  have hfresh : w.nextFlow ≤ serial := by
    refine Nat.le_of_not_lt fun hlt => ?_
    rw [if_pos hlt] at hstart
    cases hstart
  cases hl : w.lane? q.resourceId with
  | some lane =>
    have hw := (show w.start e serial q = _ from step_of_occupied he hfresh hl).symm.trans hs
    obtain rfl := Option.some.inj hw
    simp only [addTask, List.getLast?_append, List.getLast?_singleton, Option.some_or,
      Option.map_some, Option.some.injEq, Prod.mk.injEq] at h
    obtain ⟨rfl, rfl⟩ := h
    exact .refused hl
  | none =>
    obtain ⟨eng', g, ho⟩ := openStep_of_free hs hl
    have hlast : w₁.tasks.getLast? = some ⟨e, .process (.started q.resourceId) (.opened serial)
        (.arriving (q.event eng'.definition.start))⟩ := by
      rw [ho.result]
      exact List.getLast?_concat
    rw [hlast] at h
    obtain ⟨rfl, rfl⟩ : w₁ = w' ∧ Except.ok (.opened serial) = x := by simpa using h
    exact .opened ho

/-- Nothing in the world is changed by a step, apart from tasks that are added. -/
structure Spared (w w' : World V I) : Prop where
  /-- The time. -/
  now : w'.now = w.now
  /-- Lanes and records. -/
  registry : w'.registry = w.registry
  /-- Definitions, instances and audit records. -/
  engines : w'.engines = w.engines
  /-- The flows that have been opened. -/
  nextFlow : w'.nextFlow = w.nextFlow
  /-- The tasks that were there. -/
  tasks : ∀ (t : TaskId) (k : Task V I), w.tasks[t]? = some k → w'.tasks[t]? = some k

theorem Spared.refl (w : World V I) : Spared w w where
  now := rfl
  registry := rfl
  engines := rfl
  nextFlow := rfl
  tasks _ _ hk := hk

theorem spared_addTask (w : World V I) (e : EngineId) (work : Work V I) :
    Spared w (w.addTask e work) where
  now := rfl
  registry := rfl
  engines := rfl
  nextFlow := rfl
  tasks _ _ hk := tasks_addTask.mpr (.inl hk)

/-- A flow is left alone by a step, and so are all lanes that are occupied, all audit records and
    all tasks. -/
structure Leaves (w w' : World V I) (f : FlowId) : Prop where
  /-- Its instance. -/
  instances : ∀ e : EngineId, w'.instance? e f = w.instance? e f
  /-- The lanes, and what is recorded of their resources. -/
  lanes : ∀ r lane, w.lane? r = some lane → w'.lane? r = some lane ∧ w'.status? r = w.status? r
  /-- The audit records. -/
  trails : ∀ e : EngineId, (w'.engines[e]?).map Engine.trail = (w.engines[e]?).map Engine.trail
  /-- The tasks. -/
  tasks : ∀ (t : TaskId) (k : Task V I), w.tasks[t]? = some k → w'.tasks[t]? = some k

theorem Spared.leaves (h : Spared w w') (f : FlowId) : Leaves w w' f where
  instances e := by rw [instance?, instance?, h.engines]
  lanes r lane hl := by
    rw [lane?, status?, status?, h.registry]
    exact ⟨hl, rfl⟩
  trails e := by rw [h.engines]
  tasks := h.tasks

/-- Opening a flow leaves those alone that had been opened. -/
theorem OpenStep.leaves {eng : Engine V I} {g : Registry} (h : OpenStep w e serial q w' eng g)
    {f : FlowId} (hf : w.Opened f) : Leaves w w' f where
  instances e' := by
    rw [h.instance?, if_neg]
    exact fun hself => h.ne_of_opened hf hself.2
  lanes r lane hl := by
    obtain ⟨hr, hl'⟩ := h.lane?_of_some hl
    exact ⟨hl', by rw [h.status?, if_neg hr]⟩
  trails e' := by
    rw [h.engines]
    split
    · rename_i he
      rw [he, h.hasEngine]
      rfl
    · rfl
  tasks t k hk := h.tasks.mpr (.inl hk)

/-- What can be seen in the world. -/
def moment (w : World V I) : Moment where
  now := w.now
  cancelled := w.registry.isCancelled

end World

namespace EnvironmentDeletion

/-! ### Visits -/

/-- A call of the service in progress, and the world of the engines. -/
structure Visit (V : Vocabulary) (I : Interface) (α : Type) where
  /-- The world. -/
  world : World V I
  /-- Where the service stands. -/
  activity : Activity Requests α

/-- What can happen next. -/
inductive Occurrence (V : Vocabulary) (I : Interface) where
  /-- Something happens in the world. -/
  | aside (l : Label V I)
  /-- The service goes on, with answers of the collaborators. -/
  | answered (reply : Requests.Reply)
  /-- The engine takes up what the service submits; a flow gets this serial number. -/
  | submitted (serial : Nat)

/-- Whether it is a step of the service. -/
def Occurrence.own : Occurrence V I → Bool
  | .aside _ => false
  | .answered _ => true
  | .submitted _ => true

/-- The engine's answer to a submission. -/
def answering (x : Except FlowError FlowId) : Requests.Reply
  | .collaborator _ => .error default
  | .submit _ => x

namespace Visit

section Step

variable (e : EngineId) (g : EnvironmentView → V.Payload)

/-- What an occurrence does to the world, and what the service is told; none if it cannot
    happen. -/
def outcome? (v : Visit V I α) : Occurrence V I → Option (World V I × Option Requests.Reply)
  | .aside l => (v.world.step l).map fun w => (w, none)
  | .answered reply =>
    match v.activity.need with
    | .answer (.submit _) => none
    | _ => some (v.world, some reply)
  | .submitted serial =>
    match v.activity.need with
    | .answer (.submit q) =>
      (v.world.submit e serial (q.map g)).map fun (w, x) => (w, some (answering x))
    | _ => none

/-- The service goes on with what it is told. -/
def goOn (v : Visit V I α) (w : World V I) : Option Requests.Reply → Visit V I α
  | none => { world := w, activity := v.activity }
  | some reply => { world := w, activity := v.activity.step w.moment reply }

/-- What happens on an occurrence; none if it cannot happen. -/
def step (v : Visit V I α) (x : Occurrence V I) : Option (Visit V I α) :=
  (v.outcome? e g x).map fun (w, reply) => v.goOn w reply

/-- What is said by an occurrence. -/
def said (v : Visit V I α) (x : Occurrence V I) : Talk Requests :=
  match v.outcome? e g x with
  | some (w, some reply) => v.activity.need.told w.now reply ++
      (v.activity.step w.moment reply).need.asked w.now
  | _ => []

/-- What can happen to a visit. -/
inductive Change (v : Visit V I α) : Occurrence V I → Visit V I α → Talk Requests → Prop where
  /-- Something happens in the world. -/
  | aside {l : Label V I} {w : World V I} (h : v.world.step l = some w) :
      Change v (.aside l) { v with world := w } []
  /-- The service goes on in a world that stays the same. -/
  | answered (reply : Requests.Reply) (h : ∀ q, v.activity.need ≠ .answer (.submit q)) :
      Change v (.answered reply) { v with activity := v.activity.step v.world.moment reply }
        (v.activity.need.told v.world.now reply ++
          (v.activity.step v.world.moment reply).need.asked v.world.now)
  /-- The service is told what became of its submission. -/
  | submitted {q : StartRequest CascadingDelete.vocabulary} {serial : Nat} {w : World V I}
      {x : Except FlowError FlowId} (hq : v.activity.need = .answer (.submit q))
      (h : World.Submission v.world e serial (q.map g) w x) :
      Change v (.submitted serial) ⟨w, v.activity.step w.moment (answering x)⟩
        ([.told w.now (.submit q) x] ++
          (v.activity.step w.moment (answering x)).need.asked w.now)

end Step

variable {e : EngineId} {g : EnvironmentView → V.Payload} {v v' : Visit V I α}

/-- Nothing else can happen. -/
theorem change_of_step {x : Occurrence V I} (h : v.step e g x = some v') :
    v.Change e g x v' (v.said e g x) := by
  obtain ⟨⟨w, reply⟩, ho, rfl⟩ := Option.map_eq_some_iff.mp h
  unfold said
  rw [ho]
  cases x with
  | aside l =>
    obtain ⟨w', hs, hw⟩ := Option.map_eq_some_iff.mp ho
    cases hw
    exact .aside hs
  | answered reply' =>
    unfold outcome? at ho
    dsimp only at ho
    split at ho
    · cases ho
    · rename_i hneed
      cases ho
      exact .answered reply' hneed
  | submitted serial =>
    unfold outcome? at ho
    dsimp only at ho
    split at ho
    · rename_i q hq
      obtain ⟨⟨w', x⟩, hs, hw⟩ := Option.map_eq_some_iff.mp ho
      cases hw
      have htold : v.activity.need.told w'.now (answering x) =
          [.told w'.now (.submit q) x] := by
        rw [hq]
        rfl
      dsimp only
      rw [htold]
      exact .submitted hq (World.submission_of_submit hs)
    · cases ho

end Visit

/-! ### Sessions -/

/-- One call of the service, a program, in an endless sequence of steps. -/
structure Session (I : Interface) (e : EngineId) (g : EnvironmentView → V.Payload)
    (p : Program Requests α) where
  /-- Where things stand, in turn. -/
  visit : Nat → Visit V I α
  /-- What happens between one and the next. -/
  occurrence : Nat → Occurrence V I
  /-- The service begins with the program. -/
  begins : (visit 0).activity = p.run (visit 0).world.moment
  /-- Each step leads to where things stand next. -/
  step : ∀ n, (visit n).step e g (occurrence n) = some (visit (n + 1))

namespace Session

variable {e : EngineId} {g : EnvironmentView → V.Payload} {p : Program Requests α}
  {S : Session I e g p}

/-- What was said by step `n`. -/
def talk (S : Session I e g p) : Nat → Talk Requests
  | 0 => (S.visit 0).activity.need.asked (S.visit 0).world.now
  | n + 1 => S.talk n ++ (S.visit n).said e g (S.occurrence n)

theorem talk_succ (S : Session I e g p) (n : Nat) :
    S.talk (n + 1) = S.talk n ++ (S.visit n).said e g (S.occurrence n) := rfl

/-- What the service returned by step `n`, if it has. -/
def returned? (S : Session I e g p) (n : Nat) : Option α :=
  match (S.visit n).activity with
  | .ended x => some x
  | _ => none

theorem returned?_eq_some_iff {n : Nat} {x : α} :
    S.returned? n = some x ↔ (S.visit n).activity = .ended x := by
  unfold returned?
  cases (S.visit n).activity <;> simp

theorem change (S : Session I e g p) (n : Nat) :
    (S.visit n).Change e g (S.occurrence n) (S.visit (n + 1))
      ((S.visit n).said e g (S.occurrence n)) :=
  Visit.change_of_step (S.step n)

/-! ### What is said -/

/-- All that is asked is allowed by what was said before. -/
def Allowed (R : Rules Requests) (talk : Talk Requests) : Prop :=
  ∀ before t q after, talk = before ++ .asked t q :: after → R.allows before q

theorem Allowed.snoc {R : Rules Requests} {talk : Talk Requests} {x : Entry Requests}
    (h : Allowed R talk) (hx : ∀ t q, x = .asked t q → R.allows talk q) :
    Allowed R (talk ++ [x]) := by
  intro before t q after heq
  rcases List.eq_nil_or_concat after with rfl | ⟨after, y, rfl⟩
  · obtain ⟨rfl, hlast⟩ := List.append_inj' heq rfl
    exact hx t q (List.singleton_inj.mp hlast)
  · rw [List.concat_eq_append, ← List.cons_append, ← List.append_assoc] at heq
    exact h before t q after (List.append_inj' heq rfl).1

theorem Allowed.asked {R : Rules Requests} {talk : Talk Requests} {need : Need Requests}
    (h : Allowed R talk) (hneed : ∀ q, need = .answer q → R.allows talk q) (now : Duration) :
    Allowed R (talk ++ need.asked now) := by
  cases need with
  | answer q =>
    refine h.snoc fun t q' heq => ?_
    cases heq
    exact hneed q rfl
  | nothing => simpa [Need.asked] using h
  | time due => simpa [Need.asked] using h

theorem Allowed.told {R : Rules Requests} {talk : Talk Requests} (h : Allowed R talk)
    (need : Need Requests) (now : Duration) (reply : Requests.Reply) :
    Allowed R (talk ++ need.told now reply) := by
  cases need with
  | answer q => exact h.snoc nofun
  | nothing => simpa [Need.told] using h
  | time due => simpa [Need.told] using h

/-- The service obeys its rules all the time, and all that it asks is allowed. -/
theorem obeys {R : Rules Requests} {Q : Duration → Talk Requests → α → Prop}
    (S : Session I e g p) (hseen : ∀ r, R.seen r) (hp : ∀ now, p.Obeys R Q now []) (n : Nat) :
    (S.visit n).activity.Obeys R Q (S.talk n) ∧ Allowed R (S.talk n) := by
  -- One step of the service, told this, in a world at this time.
  have hstep : ∀ {a : Activity Requests α} {talk : Talk Requests} (m : Moment)
      (reply : Requests.Reply), a.Obeys R Q talk ∧ Allowed R talk →
      (a.step m reply).Obeys R Q
        (talk ++ (a.need.told m.now reply ++ (a.step m reply).need.asked m.now)) ∧
      Allowed R (talk ++ (a.need.told m.now reply ++ (a.step m reply).need.asked m.now)) := by
    intro a talk m reply ⟨ha, hallowed⟩
    have hfollows := ha.step m (fun r _ => hseen r) reply
    rw [← List.append_assoc]
    exact ⟨hfollows.obeys, (hallowed.told a.need m.now reply).asked hfollows.allowed m.now⟩
  induction n with
  | zero =>
    have hfollows := (hp (S.visit 0).world.now).run (S.visit 0).world.moment (fun r _ => hseen r)
    unfold talk
    rw [S.begins]
    have hnil : Allowed R [] := fun before t q after heq => by cases before <;> cases heq
    exact ⟨hfollows.obeys, hnil.asked hfollows.allowed _⟩
  | succ n ih =>
    have hc := S.change n
    rw [talk_succ]
    generalize (S.visit n).said e g (S.occurrence n) = said at hc ⊢
    generalize S.occurrence n = x at hc
    generalize S.visit (n + 1) = v' at hc ⊢
    cases hc with
    | aside h => simpa using ih
    | answered reply h => exact hstep (S.visit n).world.moment reply ih
    | @submitted q serial w x hq h =>
      have := hstep w.moment (answering x) ih
      rw [hq] at this
      exact this

/-- What the service needs was asked last. -/
theorem asked_last (S : Session I e g p) (n : Nat) :
    ∃ before t, S.talk n = before ++ (S.visit n).activity.need.asked t := by
  induction n with
  | zero => exact ⟨[], _, rfl⟩
  | succ n ih =>
    have hc := S.change n
    rw [talk_succ]
    generalize (S.visit n).said e g (S.occurrence n) = said at hc ⊢
    generalize S.occurrence n = x at hc
    generalize S.visit (n + 1) = v' at hc ⊢
    cases hc with
    | aside =>
      rw [List.append_nil]
      exact ih
    | answered reply h => exact ⟨_, _, (List.append_assoc ..).symm⟩
    | submitted hq h => exact ⟨_, _, (List.append_assoc ..).symm⟩

/-! ### What the service does -/

/-- In step `n` the service opens a flow. -/
def Opens (S : Session I e g p) (n : Nat) (q : StartRequest CascadingDelete.vocabulary)
    (f : FlowId) : Prop :=
  (S.visit n).activity.need = .answer (.submit q) ∧
    ∃ serial eng g', S.occurrence n = .submitted serial ∧ f = .opened serial ∧
      World.OpenStep (S.visit n).world e serial (q.map g) (S.visit (n + 1)).world eng g'

/-- All that the service did to the world before step `n`: the flows that it opened, in order, and
    nothing else. -/
inductive Openings (S : Session I e g p) :
    Nat → List (StartRequest CascadingDelete.vocabulary × FlowId) → Prop where
  /-- Nothing so far. -/
  | nil : Openings S 0 []
  /-- Something happened in the world. -/
  | aside {n : Nat} {flows : List (StartRequest CascadingDelete.vocabulary × FlowId)}
      (h : Openings S n flows) (ho : (S.occurrence n).own = false) : Openings S (n + 1) flows
  /-- A step of the service changed nothing. -/
  | spared {n : Nat} {flows : List (StartRequest CascadingDelete.vocabulary × FlowId)}
      (h : Openings S n flows) (ho : (S.occurrence n).own = true)
      (hs : World.Spared (S.visit n).world (S.visit (n + 1)).world) : Openings S (n + 1) flows
  /-- A step of the service opened one more flow. -/
  | opens {n : Nat} {flows : List (StartRequest CascadingDelete.vocabulary × FlowId)}
      {q : StartRequest CascadingDelete.vocabulary} {f : FlowId} (h : Openings S n flows)
      (ho : S.Opens n q f) : Openings S (n + 1) (flows ++ [(q, f)])

/-- The flow that the service is told to be open. -/
def opened? : Entry Requests → Option (StartRequest CascadingDelete.vocabulary × FlowId)
  | .told _ (.submit q) x =>
    match (x : Except FlowError FlowId) with
    | .ok f => some (q, f)
    | .error _ => none
  | _ => none

/-- The flows that the service was told to be open, in order. -/
def opened (talk : Talk Requests) : List (StartRequest CascadingDelete.vocabulary × FlowId) :=
  talk.filterMap opened?

@[simp] theorem opened_append (talk talk' : Talk Requests) :
    opened (talk ++ talk') = opened talk ++ opened talk' :=
  List.filterMap_append

@[simp] theorem opened_asked (need : Need Requests) (now : Duration) :
    opened (need.asked now) = [] := by
  cases need <;> rfl

/-- No flow is opened by what else is told. -/
theorem opened_told {need : Need Requests} (h : ∀ q, need ≠ .answer (.submit q)) (now : Duration)
    (reply : Requests.Reply) : opened (need.told now reply) = [] := by
  match need with
  | .nothing => rfl
  | .time _ => rfl
  | .answer (.collaborator _) => rfl
  | .answer (.submit q) => exact absurd rfl (h q)

/-- The service opened what it was told to be open, and did nothing else. -/
theorem openings (S : Session I e g p) (n : Nat) : S.Openings n (opened (S.talk n)) := by
  induction n with
  | zero =>
    unfold talk
    rw [opened_asked]
    exact .nil
  | succ n ih =>
    have hc := S.change n
    rw [talk_succ, opened_append]
    generalize hsaid : (S.visit n).said e g (S.occurrence n) = said at hc ⊢
    generalize hx : S.occurrence n = x at hc
    generalize hv : S.visit (n + 1) = v' at hc
    cases hc with
    | aside h =>
      rw [show opened [] = [] from rfl, List.append_nil]
      exact ih.aside (by rw [hx]; rfl)
    | answered reply h =>
      rw [opened_append, opened_told h, opened_asked, List.append_nil, List.append_nil]
      refine ih.spared (by rw [hx]; rfl) ?_
      rw [hv]
      exact .refl _
    | @submitted q serial w x hq h =>
      rw [opened_append, opened_asked, List.append_nil]
      cases h with
      | @opened _ eng g' ho =>
        refine ih.opens ⟨hq, serial, eng, g', hx, rfl, ?_⟩
        rw [hv]
        exact ho
      | refused hl =>
        rw [show opened [.told _ (.submit q) (.error _)] = [] from rfl, List.append_nil]
        refine ih.spared (by rw [hx]; rfl) ?_
        rw [hv]
        exact World.spared_addTask _ _ _

/-- The service leaves all flows alone that have been opened. -/
theorem leaves {n : Nat} (ho : (S.occurrence n).own = true) {f : FlowId}
    (hf : (S.visit n).world.Opened f) :
    World.Leaves (S.visit n).world (S.visit (n + 1)).world f := by
  have hc := S.change n
  generalize (S.visit n).said e g (S.occurrence n) = said at hc
  generalize S.occurrence n = x at hc ho
  generalize S.visit (n + 1) = v' at hc ⊢
  cases hc with
  | aside => cases ho
  | answered => exact (World.Spared.refl _).leaves f
  | submitted hq h =>
    cases h with
    | opened hopen => exact hopen.leaves hf
    | refused => exact (World.spared_addTask _ _ _).leaves f

/-! ### Being served -/

/-- The service is served, and time goes on. -/
structure Fair (S : Session I e g p) : Prop where
  /-- If it is not over from some time on, it takes a step. -/
  serves : ∀ n, (∀ m, n ≤ m → S.returned? m = none) → ∃ m, n ≤ m ∧ (S.occurrence m).own = true
  /-- Every time comes. -/
  time : ∀ d, ∃ n, d ≤ (S.visit n).world.now

/-- A step of the world leaves the service where it stands. -/
theorem activity_of_aside {n : Nat} (h : (S.occurrence n).own = false) :
    (S.visit (n + 1)).activity = (S.visit n).activity := by
  have hc := S.change n
  generalize (S.visit n).said e g (S.occurrence n) = said at hc
  generalize hx : S.occurrence n = x at hc h
  generalize S.visit (n + 1) = v' at hc ⊢
  cases hc with
  | aside => rfl
  | answered => cases h
  | submitted => cases h

/-- The next step of the service is taken from where it stands. -/
theorem own_step {n m : Nat} (hm : n ≤ m) (h : (S.occurrence m).own = true) :
    ∃ k, n ≤ k ∧ (S.occurrence k).own = true ∧
      (S.visit k).activity = (S.visit n).activity := by
  induction hd : m - n generalizing n with
  | zero =>
    obtain rfl : n = m := by omega
    exact ⟨n, Nat.le_refl n, h, rfl⟩
  | succ d ih =>
    cases hn : (S.occurrence n).own with
    | true => exact ⟨n, Nat.le_refl n, hn, rfl⟩
    | false =>
      obtain ⟨k, hk, ho, ha⟩ := ih (n := n + 1) (by omega) (by omega)
      exact ⟨k, Nat.le_of_succ_le hk, ho, ha.trans (activity_of_aside hn)⟩

/-- A step of the service is a step of its program. -/
theorem step_of_own {n : Nat} (h : (S.occurrence n).own = true) :
    (S.visit (n + 1)).world.now = (S.visit n).world.now ∧ ∃ c reply,
      (S.visit (n + 1)).activity = (S.visit n).activity.step ⟨(S.visit n).world.now, c⟩ reply := by
  have hc := S.change n
  generalize (S.visit n).said e g (S.occurrence n) = said at hc
  generalize S.occurrence n = x at hc h
  generalize S.visit (n + 1) = v' at hc ⊢
  cases hc with
  | aside => cases h
  | answered reply => exact ⟨rfl, _, reply, rfl⟩
  | submitted hq hs =>
    -- A submission takes no time.
    cases hs with
    | opened ho =>
      have hnow := congrArg World.now ho.result
      exact ⟨hnow, _, _, by rw [← hnow]; rfl⟩
    | refused hl => exact ⟨rfl, _, _, rfl⟩

/-- The time does not go back. -/
theorem now_mono (S : Session I e g p) (n m : Nat) (h : n ≤ m) :
    (S.visit n).world.now ≤ (S.visit m).world.now := by
  induction h with
  | refl => exact Nat.le_refl _
  | @step m _ ih =>
    refine Nat.le_trans ih ?_
    cases ho : (S.occurrence m).own with
    | true => exact Nat.le_of_eq (step_of_own ho).1.symm
    | false =>
      have hc := S.change m
      generalize (S.visit m).said e g (S.occurrence m) = said at hc
      generalize S.occurrence m = x at hc ho
      generalize S.visit (m + 1) = v' at hc ⊢
      cases hc with
      | aside h => exact World.now_le_of_change (World.change_of_step h)
      | answered => cases ho
      | submitted => cases ho

/-- A service that is served is a program that is carried on. -/
theorem Fair.carried (hf : S.Fair) :
    Activity.Carried (fun n => (S.visit n).world.now) (fun n a => (S.visit n).activity = a) where
  mono := S.now_mono
  unbounded := hf.time
  step n a ha hne := by
    -- If it took no step, it would stand there forever.
    obtain ⟨m, hm, ho⟩ : ∃ m, n ≤ m ∧ (S.occurrence m).own = true := by
      refine Classical.byContradiction fun hno => ?_
      have hstays : ∀ m, n ≤ m → (S.visit m).activity = a := by
        intro m hm
        induction hm with
        | refl => exact ha
        | @step m hm ih =>
          cases ho : (S.occurrence m).own with
          | true => exact absurd ⟨m, hm, ho⟩ hno
          | false => exact (activity_of_aside ho).trans ih
      refine hno (hf.serves n fun m hm => ?_)
      rw [Option.eq_none_iff_forall_ne_some]
      intro x hx
      exact hne x ((hstays m hm).symm.trans (returned?_eq_some_iff.mp hx))
    obtain ⟨k, hk, hown, hka⟩ := own_step hm ho
    obtain ⟨-, c, reply, hstep⟩ := step_of_own hown
    exact ⟨k, hk, c, reply, by rw [hstep, hka, ha]⟩

/-- A call that is served returns. -/
theorem Fair.returns (hf : S.Fair) : ∃ n x, S.returned? n = some x := by
  obtain ⟨n, x, -, hx⟩ := hf.carried.eventually_ended (n := 0) rfl
  exact ⟨n, x, returned?_eq_some_iff.mpr hx⟩

end Session

/-! ### Finite sessions -/

namespace Visit

/-- A call begins in a world. -/
def begin (w : World V I) (p : Program Requests α) : Visit V I α where
  world := w
  activity := p.run w.moment

variable (e : EngineId) (g : EnvironmentView → V.Payload)

/-- What several occurrences lead to, one after the other. -/
def follow (v : Visit V I α) : List (Occurrence V I) → Option (Visit V I α)
  | [] => some v
  | x :: rest => (v.step e g x).bind fun v' => v'.follow rest

/-- Where things stand after each of several occurrences, after which only time passes. -/
def play (v : Visit V I α) : List (Occurrence V I) → Nat → Visit V I α
  | _, 0 => v
  | [], n + 1 => { v with world := { v.world with now := v.world.now + (n + 1) } }
  | x :: rest, n + 1 =>
    match v.step e g x with
    | some v' => v'.play rest n
    | none => v

variable {e g} {v v' : Visit V I α} {xs : List (Occurrence V I)}

theorem play_step (h : v.follow e g xs = some v') (n : Nat) :
    (v.play e g xs n).step e g (xs.getD n (.aside (.elapse 1))) = some (v.play e g xs (n + 1)) := by
  induction xs generalizing v n with
  | nil => cases n <;> rfl
  | cons x rest ih =>
    obtain ⟨v₁, hs, hf⟩ := Option.bind_eq_some_iff.mp h
    cases n with
    | zero =>
      show v.step e g x = some (v.play e g (x :: rest) 1)
      simp only [play, hs]
    | succ n =>
      simp only [play, hs]
      exact ih hf n

/-- After the occurrences only the time changes. -/
theorem play_after (h : v.follow e g xs = some v') (k : Nat) : v.play e g xs (xs.length + k) =
    { v' with world := { v'.world with now := v'.world.now + k } } := by
  induction xs generalizing v with
  | nil =>
    cases h
    cases k <;> simp [play]
  | cons x rest ih =>
    obtain ⟨v₁, hs, hf⟩ := Option.bind_eq_some_iff.mp h
    rw [List.length_cons, Nat.add_right_comm]
    simp only [play, hs]
    exact ih hf

end Visit

namespace Session

variable {e : EngineId} {g : EnvironmentView → V.Payload} {p : Program Requests α} {w : World V I}
  {v : Visit V I α} {xs : List (Occurrence V I)}

/-- A call in a world, with these occurrences, after which only time passes. -/
def ofFollow (h : (Visit.begin w p).follow e g xs = some v) : Session I e g p where
  visit := (Visit.begin w p).play e g xs
  occurrence n := xs.getD n (.aside (.elapse 1))
  begins := by cases xs <;> rfl
  step := Visit.play_step h

/-- It is served if it is over after these occurrences. -/
theorem fair_ofFollow (h : (Visit.begin w p).follow e g xs = some v) {x : α}
    (hover : v.activity = .ended x) : (ofFollow h).Fair where
  serves n hn := by
    have hnone := hn (xs.length + n) (Nat.le_add_left ..)
    have hended : ((ofFollow h).visit (xs.length + n)).activity = .ended x := by
      show ((Visit.begin w p).play e g xs (xs.length + n)).activity = _
      rw [Visit.play_after h]
      exact hover
    rw [returned?_eq_some_iff.mpr hended] at hnone
    cases hnone
  time d := by
    refine ⟨xs.length + d, ?_⟩
    show d ≤ ((Visit.begin w p).play e g xs (xs.length + d)).world.now
    rw [Visit.play_after h]
    exact Nat.le_add_left ..

end Session

end EnvironmentDeletion

end ResourceFlow
