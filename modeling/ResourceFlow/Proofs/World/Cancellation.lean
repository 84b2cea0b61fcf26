import ResourceFlow.Proofs.Program.Attempts
import ResourceFlow.Proofs.World.Retention
/-! # What a recorded cancel stops

  A cancel is recorded in one step: the resource is marked while the flow
  occupies its lane. From then on, as long as the flow runs, the mark stays:
  only the flow's own end drops it, and no other flow can take the lane. So
  whatever a task of the flow comes back from, the next thing it looks at is
  the mark.

  `World.Marked` is the invariant. The main result is
  `World.cancel_recorded`: the flow begins no further action and no handler,
  no wait on the resource begins a further attempt for it, and it ends
  cancelled, unless it was inside the action of a terminal state already.
-/

namespace ResourceFlow

variable {V : Vocabulary} {I : Interface}

/-! ### What a task does -/

/-- An action or a handler at work for a flow: the parameters and the event with which it was
    called, and the handler or the state whose action it is. -/
structure Job (V : Vocabulary) (I : Interface) where
  flow : FlowId
  params : FlowParameters
  event : V.Event
  task : Handler V I ⊕ V.State

/-- The action or handler that a task is inside of. -/
def Work.job? : Work V I → Option (Job V I)
  | .process _ flow (.handling _ p event h _) => some ⟨flow, p, event, .inl h⟩
  | .process _ flow (.acting _ p event s _) => some ⟨flow, p, event, .inr s⟩
  | _ => none

/-- The flow whose events a task processes. -/
def Work.flow? : Work V I → Option FlowId
  | .process _ flow _ => some flow
  | _ => none

/-- The attempts that begin in a step of a task. -/
def Desk.begun (d : Desk V I) (now : Duration) (reply : I.Reply) : Work V I → List AttemptId
  | .process _ _ (.ready _ p event) =>
    match d.take p event now with
    | (d, .handle h) => ((h.accept (some p.flow) event).logged (d.moment now)).2
    | (d, .act s) => ((d.engine.definition.execute s p event).logged (d.moment now)).2
    | (_, .over _) => []
  | .process _ _ (.handling _ _ _ _ a) => (a.logged (d.moment now) reply).2
  | .process _ _ (.acting _ _ _ _ a) => (a.logged (d.moment now) reply).2
  | _ => []

/-- An action or a handler begins only if no cancel is recorded. -/
theorem Desk.Move.job? {d d' : Desk V I} {t : TaskId} {now : Duration} {reply : I.Reply}
    {w w' : Work V I} (h : Move d t now reply w d' w') {x : Job V I} (hx : w'.job? = some x) :
    w.job? = some x ∨ ∃ o lock p event, w = .process o x.flow (.ready lock p event) ∧
      d.registry.isCancelled p.resourceId = false := by
  cases h with
  | hand hc _ _ =>
    cases hx
    exact .inr ⟨_, _, _, _, rfl, hc⟩
  | enter hc _ _ _ =>
    cases hx
    exact .inr ⟨_, _, _, _, rfl, hc⟩
  | handle _ | act _ =>
    cases hx
    exact .inl rfl
  | _ => cases hx

namespace World

/-! ### The invariant -/

/-- The flow does not run, or it runs on the resource and a cancel is recorded. -/
structure Marked (w : World V I) (r : ResourceId) (f : FlowId) : Prop where
  orderly : Orderly w
  opened : w.Opened f
  mark : ∀ e p, w.running? e f = some p → p.resourceId = r ∧ w.status? r = some .cancelled

namespace Marked

variable {w w' : World V I} {r : ResourceId} {f : FlowId}

/-- Whoever processes events of the flow finds the mark. -/
theorem isCancelled (h : Marked w r f) {t : TaskId} {a : Task V I} {l : LockId}
    {p : FlowParameters} (ha : w.tasks[t]? = some a) (hp : a.work.inHand? = some (l, p))
    (hf : p.flow = f) : p.resourceId = r ∧ w.registry.isCancelled r = true := by
  obtain ⟨hrun, -⟩ := h.orderly.atWork t a l p ha hp
  obtain ⟨hr, hs⟩ := h.mark _ p (hf ▸ hrun)
  refine ⟨hr, ?_⟩
  have hs : w.registry.status? r = some .cancelled := hs
  simp [Registry.isCancelled, hs]

/-- The flow that a task processes events of is the flow that it has in hand. -/
theorem inHand_flow (h : Marked w r f) {t : TaskId} {a : Task V I} {l : LockId}
    {p : FlowParameters} (ha : w.tasks[t]? = some a) (hp : a.work.inHand? = some (l, p))
    (hf : a.work.flow? = some f) : p.flow = f := by
  obtain ⟨-, hst⟩ := h.orderly.atWork t a l p ha hp
  obtain ⟨o, g, stage, hw, hst'⟩ := Work.stake?_of_inHand? hp
  rw [hst] at hst'
  cases hst'
  rw [hw] at hf
  exact Option.some.inj hf

theorem opens {e : EngineId} {serial : Nat} {q : StartRequest V} {eng : Engine V I} {g : Registry}
    (h : Marked w r f) (ho : OpenStep w e serial q w' eng g) : Marked w' r f where
  orderly := h.orderly.opens ho
  opened := ho.opened_of_opened h.opened
  mark e' p hp := by
    have hne := ho.ne_of_opened h.opened
    rw [ho.running?, if_neg (fun hc => hne hc.2)] at hp
    obtain ⟨hr, hs⟩ := h.mark e' p hp
    refine ⟨hr, ?_⟩
    -- The lane of the resource is occupied, so the new flow has another resource.
    obtain ⟨lane, hl, -⟩ := h.orderly.occupies e' f p hp
    rw [ho.status?, if_neg (hr ▸ (ho.lane?_of_some hl).1)]
    exact hs

section Run

variable {t : TaskId} {reply : I.Reply} {task : Task V I} {eng : Engine V I} {d' : Desk V I}
  {work' : Work V I}

theorem run (h : Marked w r f) (hr : RunStep w t reply w' task eng d' work') :
    Marked w' r f where
  orderly := h.orderly.run hr
  opened := (hr.opened f).mpr h.opened
  mark e p hp := by
    rcases h.orderly.effect hr with hq | ⟨q, s, hq, -, -, he⟩
    · rw [hr.running?_of_quiet hq] at hp
      obtain ⟨hres, hs⟩ := h.mark e p hp
      refine ⟨hres, (hr.status? r).trans ?_⟩
      rcases hq.status r with hs' | ⟨hs', -⟩
      · exact hs'.trans hs
      · exact hs'
    · rw [h.orderly.running?_quits hr hq he] at hp
      split at hp
      · cases hp
      · -- Another flow ends, and the record of another resource is dropped.
        rename_i hne
        obtain ⟨hres, hs⟩ := h.mark e p hp
        refine ⟨hres, ?_⟩
        rw [hr.status?_of_quits hq, if_neg (hres ▸ h.orderly.not_freed hp hne)]
        exact hs

end Run

theorem addTask (h : Marked w r f) (e : EngineId) {work : Work V I} (hs : work.stake? = none)
    (hi : work.inHand? = none) : Marked (w.addTask e work) r f :=
  ⟨h.orderly.addTask e hs hi, h.opened, h.mark⟩

theorem change {l : Label V I} (h : Marked w r f) (hc : Change w l w') : Marked w' r f := by
  cases hc with
  | opens ho => exact h.opens ho
  | refuses _ => exact h.addTask _ rfl rfl
  | delivers => exact h.addTask _ rfl rfl
  | cancels => exact h.addTask _ rfl rfl
  | runs hr => exact h.run hr
  | elapses => exact ⟨h.orderly.change .elapses, h.opened, h.mark⟩

theorem reachable (h : Marked w r f) (hr : Reachable w w') : Marked w' r f := by
  induction hr with
  | refl => exact h
  | step l _ hs ih => exact ih.change (change_of_step hs)

theorem roomy (h : Marked w r f) : Marked w.roomy r f where
  orderly := h.orderly.roomy
  opened := h.opened
  mark e p hp := h.mark e p (running?_roomy w e f ▸ hp)

/-! ### What does not begin any more -/

/-- Whatever a task of the flow is inside of after a step, it was inside of before. -/
theorem no_new_job (h : Marked w r f) {l : Label V I} (hc : Change w l w') {t : TaskId}
    {b : Task V I} {x : Job V I} (hb : w'.tasks[t]? = some b) (hx : b.work.job? = some x)
    (hf : x.flow = f) : ∃ a, w.tasks[t]? = some a ∧ a.engine = b.engine ∧
      a.work.job? = some x := by
  -- Tasks that were only just added are inside of nothing.
  have hadd : ∀ (e : EngineId) (work : Work V I), work.job? = none →
      (w.addTask e work).tasks[t]? = some b → w.tasks[t]? = some b := by
    intro e work hnone hb
    rcases tasks_addTask.mp hb with hb | ⟨-, rfl⟩
    · exact hb
    · rw [hnone] at hx
      cases hx
  cases hc with
  | opens ho =>
    rcases ho.tasks.mp hb with hb | ⟨-, rfl⟩
    · exact ⟨b, hb, rfl, hx⟩
    · cases hx
  | refuses _ => exact ⟨b, hadd _ _ rfl hb, rfl, hx⟩
  | delivers => exact ⟨b, hadd _ _ rfl hb, rfl, hx⟩
  | cancels => exact ⟨b, hadd _ _ rfl hb, rfl, hx⟩
  | elapses => exact ⟨b, hb, rfl, hx⟩
  | @runs u reply _ task eng d' work' hr =>
    rw [hr.tasks] at hb
    split at hb
    · rename_i hu
      subst hu
      cases hb
      rcases hr.move.job? hx with hx | ⟨o, l, p, event, hw, hcan⟩
      · exact ⟨task, hr.hasTask, rfl, hx⟩
      · -- The task was about to take an event, and finds the mark.
        have hp : task.work.inHand? = some (l, p) := by rw [hw]; rfl
        have hflow : task.work.flow? = some f := by rw [hw, ← hf]; rfl
        obtain ⟨hres, hmark⟩ :=
          h.isCancelled hr.hasTask hp (h.inHand_flow hr.hasTask hp hflow)
        rw [hres] at hcan
        rw [hcan] at hmark
        cases hmark
    · exact ⟨b, hb, rfl, hx⟩

/-- No task of the flow begins an attempt of a wait on the resource. -/
theorem no_attempt (h : Marked w r f) {t : TaskId} {a : Task V I}
    (ha : w.tasks[t]? = some a) (hf : a.work.flow? = some f) {d : Desk V I}
    (hd : w.desk? a.engine = some d) (reply : I.Reply) (n : Nat) :
    (r, n) ∉ d.begun w.now reply a.work := by
  obtain ⟨eng, -, rfl⟩ := desk?_eq_some hd
  have hmark : ∀ l p, a.work.inHand? = some (l, p) →
      p.resourceId = r ∧ w.registry.isCancelled r = true :=
    fun l p hp => h.isCancelled ha hp (h.inHand_flow ha hp hf)
  cases hw : a.work with
  | cancel r stage => exact List.not_mem_nil
  | refused e => exact List.not_mem_nil
  | process o g stage =>
    -- Only an event that is taken and work that goes on can begin an attempt.
    rw [hw] at hmark
    cases stage with
    | arriving event => exact List.not_mem_nil
    | queued l event => exact List.not_mem_nil
    | ready l p event =>
      obtain ⟨rfl, hcan⟩ := hmark l p rfl
      simp only [Desk.begun, Desk.take, hcan, if_true]
      exact List.not_mem_nil
    | handling l p event hand act =>
      exact Activity.not_begun_of_cancelled (hmark l p rfl).2 act reply n
    | acting l p event s act =>
      exact Activity.not_begun_of_cancelled (hmark l p rfl).2 act reply n
    | _ => exact List.not_mem_nil

end Marked

/-! ### How the flow ends -/

/-- A task of the flow is inside the action of a terminal state. -/
def Finishing (w : World V I) (f : FlowId) : Prop :=
  ∃ (t : TaskId) (a : Task V I) (eng : Engine V I) (p : FlowParameters) (event : V.Event)
    (s : V.State), w.tasks[t]? = some a ∧ w.engines[a.engine]? = some eng ∧
      a.work.job? = some ⟨f, p, event, .inr s⟩ ∧ eng.definition.isTerminal s = true

/-- A cancel is recorded, and nothing but the cancel can end the flow. -/
structure Doomed (w : World V I) (r : ResourceId) (f : FlowId) : Prop where
  marked : Marked w r f
  calm : ¬ w.Finishing f
  status : ∀ e i, w.instance? e f = some i → i.status = .running ∨ i.status = .cancelled

namespace Doomed

variable {w w' : World V I} {r : ResourceId} {f : FlowId}

theorem calm_of_change (h : Doomed w r f) {l : Label V I} (hc : Change w l w') :
    ¬ w'.Finishing f := by
  -- The action would have to begin in this step, and none begins any more.
  rintro ⟨t, b, eng', p, event, s, hb, he', hx, hs⟩
  obtain ⟨a, ha, hab, hx'⟩ := h.marked.no_new_job hc hb hx rfl
  rw [← hab] at he'
  obtain ⟨eng, he, hdef, -⟩ := engine_of_change hc he'
  exact h.calm ⟨t, a, eng, p, event, s, ha, he, hx', hdef ▸ hs⟩

/-- Whoever ends the flow ends it as cancelled. -/
theorem cancelled_of_ends (h : Doomed w r f) {t : TaskId} {reply : I.Reply} {task : Task V I}
    {eng : Engine V I} {d' : Desk V I} {work' : Work V I}
    (hr : RunStep w t reply w' task eng d' work') {p : FlowParameters} {s : FlowStatus}
    (hf : f = p.flow) (he : Desk.Ends ⟨w.registry, eng⟩ t task.work p s) : s = .cancelled := by
  rcases he with ⟨l, hp, hs | ⟨o, g, event, hw, hcan⟩ | ⟨o, g, event, st, a, hw, hter⟩⟩ |
    ⟨r', l, g, i, hw, hs, -⟩
  · exact hs
  · -- An event without transition: the task would have found the mark before.
    obtain ⟨hres, hmark⟩ := h.marked.isCancelled hr.hasTask hp hf.symm
    have hcan : w.registry.isCancelled p.resourceId = false := hcan
    rw [hres, hmark] at hcan
    cases hcan
  · -- The action of a terminal state: the flow was not inside of one, and never will be.
    obtain ⟨-, hst⟩ := h.marked.orderly.atWork t task l p hr.hasTask hp
    rw [hw] at hst
    obtain rfl : g = p.flow := congrArg Prod.snd (Option.some.inj hst)
    have hjob : task.work.job? = some ⟨f, p, event, .inr st⟩ := by
      rw [hw, hf]
      rfl
    exact absurd ⟨t, task, eng, p, event, st, hr.hasTask, hr.hasEngine, hjob, hter⟩ h.calm
  · exact hs

/-- The flow ends cancelled, if it ends. -/
theorem status_of_change (h : Doomed w r f) {l : Label V I} (hc : Change w l w') {e : EngineId}
    {i' : Instance V} (hi' : w'.instance? e f = some i') :
    i'.status = .running ∨ i'.status = .cancelled := by
  cases hc with
  | refuses _ => exact h.status e i' hi'
  | delivers => exact h.status e i' hi'
  | cancels => exact h.status e i' hi'
  | elapses => exact h.status e i' hi'
  | opens ho =>
    rw [ho.instance?, if_neg (fun hc => ho.ne_of_opened h.marked.opened hc.2)] at hi'
    exact h.status e i' hi'
  | @runs t reply _ task eng d' work' hr =>
    rw [hr.instance?] at hi'
    split at hi'
    · rename_i hee
      subst hee
      rcases h.marked.orderly.effect hr with hq | ⟨p, s, hq, -, hends, -⟩
      · obtain ⟨i, hi, -, hs⟩ := hq.kept f i' hi'
        rw [hs]
        exact h.status _ i ((hr.instance?_self f).trans hi)
      · obtain ⟨i, hi, -, hs | ⟨hf, hs⟩⟩ := hq.kept f i' hi'
        · rw [hs]
          exact h.status _ i ((hr.instance?_self f).trans hi)
        · right
          rw [hs]
          exact h.cancelled_of_ends hr hf hends
    · exact h.status e i' hi'

theorem change (h : Doomed w r f) {l : Label V I} (hc : Change w l w') : Doomed w' r f :=
  ⟨h.marked.change hc, h.calm_of_change hc, fun _ _ => h.status_of_change hc⟩

theorem reachable (h : Doomed w r f) (hr : Reachable w w') : Doomed w' r f := by
  induction hr with
  | refl => exact h
  | step l _ hs ih => exact ih.change (change_of_step hs)

theorem roomy (h : Doomed w r f) : Doomed w.roomy r f where
  marked := h.marked.roomy
  calm := by
    rintro ⟨t, a, eng, p, event, s, ha, he, hx, hs⟩
    obtain ⟨eng₀, he₀, rfl⟩ := engines_roomy he
    exact h.calm ⟨t, a, eng₀, p, event, s, ha, he₀, hx, hs⟩
  status e i hi := h.status e i (instance?_roomy w e f ▸ hi)

end Doomed

/-! ### From the record on -/

/-- In this step a cancel of the flow that occupies the lane is recorded. -/
def CancelRecorded (w w' : World V I) (r : ResourceId) (f : FlowId) : Prop :=
  ∃ (t : TaskId) (a b : Task V I) (lock : LockId), w.tasks[t]? = some a ∧
    a.work = .cancel r .arriving ∧ w'.tasks[t]? = some b ∧ b.work = .cancel r (.queued lock f)

/-- The task that records a cancel marks the lane of a flow that runs. -/
theorem CancelRecorded.runStep {w w' : World V I} {r : ResourceId} {f : FlowId} {l : Label V I}
    (hc : Change w l w') (h : CancelRecorded w w' r f) :
    ∃ t reply task eng d' lane, RunStep w t reply w' task eng d' (.cancel r (.queued lane.lock f)) ∧
      w.lane? r = some lane ∧ lane.flow = f ∧
      d' = ⟨(w.registry.markCancelled r).askLock lane.lock t, eng⟩ := by
  obtain ⟨t, a, b, lock, ha, haw, hb, hbw⟩ := h
  -- A task that is there before the step and no step of its own is as before.
  have hsame : w'.tasks[t]? = some a → False := by
    intro ha'
    rw [ha'] at hb
    cases hb
    rw [haw] at hbw
    cases hbw
  cases hc with
  | refuses _ => exact absurd (tasks_addTask.mpr (.inl ha)) hsame
  | delivers => exact absurd (tasks_addTask.mpr (.inl ha)) hsame
  | cancels => exact absurd (tasks_addTask.mpr (.inl ha)) hsame
  | elapses => exact absurd ha hsame
  | opens ho => exact absurd (ho.tasks.mpr (.inl ha)) hsame
  | @runs u reply _ task eng d' work' hr =>
    by_cases hu : t = u
    · subst hu
      have hta : task = a := Option.some.inj (hr.hasTask.symm.trans ha)
      subst hta
      rw [hr.tasks, if_pos rfl] at hb
      cases hb
      have hbw : work' = .cancel r (.queued lock f) := hbw
      have hm := hr.move
      rw [haw, hbw] at hm
      cases hm with
      | request hl ho => exact ⟨t, reply, task, eng, _, _, hbw ▸ hr, hl, rfl, rfl⟩
    · rw [hr.tasks, if_neg hu] at hb
      exact absurd (hr.tasks t ▸ (if_neg hu).trans ha) hsame

/-- When a cancel is recorded, the flow runs on the resource, which is recorded as cancelled. -/
theorem CancelRecorded.running {w w' : World V I} {r : ResourceId} {f : FlowId} {l : Label V I}
    (h : Orderly w) (hc : Change w l w') (hrec : CancelRecorded w w' r f) :
    Orderly w' ∧ w'.status? r = some .cancelled ∧
      ∃ e p, w'.running? e f = some p ∧ p.resourceId = r := by
  obtain ⟨t, reply, task, eng, d', lane, hr, hl, rfl, rfl⟩ := hrec.runStep hc
  have ho : Orderly w' := h.run hr
  have hl' : w'.lane? r = some lane := (hr.lane? r).trans hl
  have hs' : w'.status? r = some .cancelled := by
    rw [hr.status?, Registry.status?_askLock, Registry.status?_markCancelled, if_pos rfl]
  exact ⟨ho, hs', ho.occupant r lane hl'⟩

theorem Marked.of_recorded {w w' : World V I} {r : ResourceId} {f : FlowId} {l : Label V I}
    (h : Orderly w) (hc : Change w l w') (hrec : CancelRecorded w w' r f) : Marked w' r f := by
  obtain ⟨ho, hs, e, p, hp, hres⟩ := hrec.running h hc
  refine ⟨ho, (ho.running_keyed hp).2, ?_⟩
  intro e' p' hp'
  -- The flow runs at one engine, with one set of parameters.
  obtain ⟨i, hi, -, hpar⟩ := running?_eq_some_iff.mp hp
  have hpp : i.params = p' := (ho.running_single hi hp').2
  rw [← hpp, hpar]
  exact ⟨hres, hs⟩

/-- When the cancel is recorded, the flow runs. -/
theorem running_of_recorded {w w' : World V I} {r : ResourceId} {f : FlowId} {l : Label V I}
    (h : Orderly w) (hc : Change w l w') (hrec : CancelRecorded w w' r f) {e : EngineId}
    {i : Instance V} (hi : w'.instance? e f = some i) : i.status = .running := by
  obtain ⟨ho, -, e', p, hp, -⟩ := hrec.running h hc
  obtain ⟨i', hi', hs, -⟩ := running?_eq_some_iff.mp hp
  have he := ho.single e e' _ i i' hi hi'
  subst he
  rw [hi] at hi'
  cases hi'
  exact hs

/-- From the step that records a cancel of a flow on, whatever the engines and the order of steps:

    - the tasks of the flow begin no further action and no further handler: what they are inside
      of after a step, they were inside of before;
    - they begin no further attempt of a wait on the resource;
    - the flow does not end finished or failed, also where it is forgotten at once, unless it was
      inside the action of a terminal state when the cancel was recorded. -/
theorem cancel_recorded (engines : List (Definition V I × List (Handler V I) × Nat))
    {w₀ w₁ w : World V I} {l₀ : Label V I} {r : ResourceId} {f : FlowId}
    (h₀ : (initial engines).Reachable w₀) (hs : w₀.step l₀ = some w₁)
    (hrec : CancelRecorded w₀ w₁ r f) (h : w₁.Reachable w) :
    (∀ (l : Label V I) (w' : World V I) (t : TaskId) (b : Task V I) (x : Job V I),
      w.step l = some w' → w'.tasks[t]? = some b → b.work.job? = some x → x.flow = f →
      ∃ a, w.tasks[t]? = some a ∧ a.work.job? = some x) ∧
    (∀ (t : TaskId) (a : Task V I) (d : Desk V I) (reply : I.Reply) (n : Nat),
      w.tasks[t]? = some a → a.work.flow? = some f → w.desk? a.engine = some d →
      (r, n) ∉ d.begun w.now reply a.work) ∧
    (¬ w₁.Finishing f → ∀ (l : Label V I) (w' : World V I) (e : EngineId) (i : Instance V),
      w.step l = some w' ∨ w.roomy.step l = some w' → w'.instance? e f = some i →
      i.status = .running ∨ i.status = .cancelled) := by
  have ho := (Orderly.initial engines).reachable h₀
  have hc := change_of_step hs
  have hmark := Marked.of_recorded ho hc hrec
  refine ⟨?_, ?_, ?_⟩
  · intro l w' t b x hs' hb hx hf
    obtain ⟨a, ha, -, hx'⟩ := (hmark.reachable h).no_new_job (change_of_step hs') hb hx hf
    exact ⟨a, ha, hx'⟩
  · intro t a d reply n ha hf hd
    exact (hmark.reachable h).no_attempt ha hf hd reply n
  · intro hcalm l w' e i hs' hi
    have hdoom : Doomed w₁ r f :=
      ⟨hmark, hcalm, fun e i hi => .inl (running_of_recorded ho hc hrec hi)⟩
    rcases hs' with hs' | hs'
    · exact (hdoom.reachable h).status_of_change (change_of_step hs') hi
    · exact (hdoom.reachable h).roomy.status_of_change (change_of_step hs') hi

/-- A deletion holds its lock and is about to take its start event, and is to be cancelled. -/
def deletionToCancel : World CascadingDelete.vocabulary Collaborators :=
  ((initial deletionEngines).follow [
    .start 0 0 { resourceId := 7, resourceCrn := "environment", payload := default },
    .run 0 fun _ => .error default, .run 0 fun _ => .error default, .cancel 0 7]).get rfl

/-- The deletion with the cancel recorded. -/
def deletionCancelled : World CascadingDelete.vocabulary Collaborators :=
  (deletionToCancel.step (.run 1 fun _ => .error default)).get rfl

/-- When the deletion goes on after the cancel was recorded, it ends cancelled. -/
theorem cancel_recorded_deletion :
    (initial deletionEngines).Reachable deletionToCancel ∧
    CancelRecorded deletionToCancel deletionCancelled 7 (.opened 0) ∧
    ¬ deletionCancelled.Finishing (.opened 0) ∧
    ∃ w' i, deletionCancelled.step (.run 0 fun _ => .error default) = some w' ∧
      w'.instance? 0 (.opened 0) = some i ∧ i.status = .cancelled := by
  have h₀ : (initial deletionEngines).Reachable deletionToCancel :=
    reachable_of_follow (Option.some_get _).symm
  have hrec : CancelRecorded deletionToCancel deletionCancelled 7 (.opened 0) :=
    ⟨1, _, _, 0, rfl, rfl, rfl, rfl⟩
  have hcalm : ¬ deletionCancelled.Finishing (.opened 0) := by
    rintro ⟨t, a, eng, p, event, s, ha, -, hx, -⟩
    have hidle : ∀ a ∈ deletionCancelled.tasks, a.work.job?.isSome = false := by decide
    have hbusy := hidle a (List.mem_of_getElem? ha)
    rw [hx] at hbusy
    cases hbusy
  have hs : deletionToCancel.step (.run 1 fun _ => .error default) = some deletionCancelled := rfl
  refine ⟨h₀, hrec, hcalm, _, _, rfl, rfl, ?_⟩
  rcases (cancel_recorded deletionEngines h₀ hs hrec .refl).2.2 hcalm
    (.run 0 fun _ => .error default) _ 0 _ (.inl rfl) rfl with h | h
  · cases h
  · exact h

end World

end ResourceFlow
