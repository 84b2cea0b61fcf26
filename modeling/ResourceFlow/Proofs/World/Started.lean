import ResourceFlow.Proofs.World.Termination
/-! # From the start of a flow to its end

  A flow that is started on a free lane, at an engine whose definition and
  handlers have a plan, is under way after that step, and in a fair execution
  it ends, if no event is delivered to it (`World.Execution.ends_of_start`).
  How it ends follows from its plan (`World.InProgress.verdict`): cancelled,
  or at the end, as failed or as finished.
-/

namespace ResourceFlow

variable {V : Vocabulary} {I : Interface}

theorem Registry.enroll_of_free {g : Registry} {r : ResourceId} (hl : g.lanes.lane? r = none)
    (f : FlowId) (flowType : String) : ∃ g', g.enroll r f flowType = .ok g' := by
  unfold enroll claim Lanes.claim
  rw [hl]
  exact ⟨_, rfl⟩

namespace World

/-! ### Opening a flow on a free lane -/

/-- A flow that is started on a free lane is opened. -/
theorem openStep_of_free {w w' : World V I} {e : EngineId} {serial : Nat} {q : StartRequest V}
    (hs : w.start e serial q = some w') (hl : w.lane? q.resourceId = none) :
    ∃ eng g, OpenStep w e serial q w' eng g := by
  unfold start at hs
  obtain ⟨d, hd, hs⟩ := Option.bind_eq_some_iff.mp hs
  obtain ⟨eng, he, rfl⟩ := desk?_eq_some hd
  split at hs
  · cases hs
  · rename_i hlt
    obtain ⟨g, hg⟩ := Registry.enroll_of_free hl (.opened serial) eng.definition.flowType
    unfold Desk.start at hs
    simp only [StartRequest.params, hg, Option.some.injEq] at hs
    exact ⟨eng, g, he, Nat.le_of_not_lt hlt, Registry.enrolled_of_enroll hg, hs.symm⟩

/-- Whoever processes events of a flow does so after it was opened. -/
def Heard (w : World V I) (f : FlowId) : Prop :=
  ∀ (t : TaskId) (k : Task V I), w.tasks[t]? = some k → k.work.flow? = some f → w.Opened f

theorem Heard.change {w w' : World V I} {l : Label V I} {f : FlowId} (hh : Heard w f)
    (hc : Change w l w') (hno : ∀ e' event, l ≠ .dispatch e' f event) : Heard w' f := by
  -- A new task is no concern of the flow, unless it delivers an event to it.
  have hadd : ∀ (e : EngineId) (work : Work V I), work.flow? ≠ some f →
      Heard (w.addTask e work) f := by
    intro e work hw t k hk hf
    rcases tasks_addTask.mp hk with hk | ⟨-, rfl⟩
    · exact hh t k hk hf
    · exact absurd hf hw
  cases hc with
  | refuses _ => exact hadd _ _ nofun
  | cancels => exact hadd _ _ nofun
  | @delivers e g event =>
    refine hadd _ _ ?_
    intro hg
    cases hg
    exact hno e event rfl
  | elapses => exact hh
  | opens ho =>
    intro t k hk hf
    rcases ho.tasks.mp hk with hk | ⟨-, rfl⟩
    · exact ho.opened_of_opened (hh t k hk hf)
    · -- The new task is there for the flow that was just opened.
      cases hf
      exact ho.opened_self
  | @runs u reply _ task eng d' work' hr =>
    intro t k hk hf
    rw [hr.opened]
    rw [hr.tasks] at hk
    split at hk
    · cases hk
      have hf : work'.flow? = some f := hf
      rw [hr.move.flow?_eq] at hf
      exact hh u task hr.hasTask hf
    · exact hh t k hk hf

variable {d : Definition V I} {h : Dispatcher V I}

/-- A flow that was just opened is under way. -/
theorem OpenStep.inProgress {w w' : World V I} {e : EngineId} {serial : Nat} {q : StartRequest V}
    {eng : Engine V I} {g : Registry} (ho : OpenStep w e serial q w' eng g) (hw : Orderly w)
    (hh : Heard w (.opened serial)) (P : Plan d h) (hd : eng.definition = d)
    (hdisp : eng.dispatcher = h) (hstart : P.awaits d.initial (q.event d.start)) :
    InProgress P w' e (.opened serial) w.tasks.length (.started q.resourceId)
      (q.params (.opened serial) d.flowType)
      (Instance.new (q.params (.opened serial) d.flowType) d.initial)
      (.arriving (q.event d.start)) := by
  subst hd hdisp
  -- Nobody has heard of the flow before.
  have hnew : ¬ w.Opened (.opened serial) := fun hop => ho.ne_of_opened hop rfl
  refine ⟨hw.opens ho, ?_, rfl, ho.tasks.mpr (.inr ⟨rfl, rfl⟩), ?_, ?_⟩
  · refine ⟨_, (ho.engines e).trans (if_pos rfl), rfl, rfl, ?_, rfl, rfl, .new P _, hstart⟩
    rw [Engine.instance?_add]
    exact if_pos rfl
  · intro u k hk hf
    rcases ho.tasks.mp hk with hk | ⟨hu, -⟩
    · exact absurd (hh u k hk hf) hnew
    · exact hu
  · intro u k r l hk hc
    rcases ho.tasks.mp hk with hk | ⟨-, rfl⟩
    · -- Whoever waits to cancel a flow does so after it was opened.
      exact absurd (hw.stakes u k l _ hk (by rw [hc]; rfl)).2.1 hnew
    · cases hc

/-! ### How a flow under way ends -/

namespace InProgress

variable {P : Plan d h} {w : World V I} {e : EngineId} {f : FlowId} {t : TaskId} {o : Origin}
  {p : FlowParameters} {i : Instance V} {stage : Processing V I} {l : Label V I} {s : FlowStatus}

/-- The flow ends cancelled, or in a terminal state with the status that its failure calls for. -/
theorem verdict (hp : InProgress P w e f t o p i stage) (hend : w.Ending l f i s) :
    s = .cancelled ∨
      (d.isTerminal i.state = true ∧ s = if i.failure.isSome then .failed else .finished) := by
  obtain ⟨u, reply, k, eng, -, hk, he, hd⟩ := hend
  obtain ⟨eng', he', hc⟩ := hp.onCourse
  -- Only the action of a terminal state ends a flow in any other way than as cancelled.
  cases hw : k.work with
  | cancel r stage' =>
    rw [hw] at hd
    cases hd
    exact .inl rfl
  | refused err =>
    rw [hw] at hd
    cases hd
  | process o' g stage' =>
    rw [hw] at hd
    cases hd with
    | halt _ => exact .inl rfl
    | handler _ => exact .inl rfl
    | action _ => exact .inl rfl
    | completed _ hs =>
      -- The task is the flow's own, so it is where the plan has it.
      have hu := hp.alone u k hk (by rw [hw]; rfl)
      rw [hu, hp.task] at hk
      cases hk
      cases hw
      rw [he'] at he
      cases he
      obtain ⟨-, hst, -⟩ := hc.stands
      refine .inr ⟨?_, rfl⟩
      rw [← hst, ← hc.definition]
      exact hs

end InProgress

/-! ### From start to end -/

namespace Execution

variable {E : Execution V I} {f : FlowId}

/-- The flow ends in step `n`, at engine `e`, and `i` is its instance then, also where the engine
    forgets it at once. -/
structure EndsIn (E : Execution V I) (e : EngineId) (f : FlowId) (n : Nat) (i : Instance V) :
    Prop where
  /-- Before the step it runs. -/
  runs : (E.world n).running? e f = some i.params
  /-- After the step it does not run. -/
  gone : ∀ e', (E.world (n + 1)).running? e' f = none
  /-- If the engine remembers it, then so. -/
  kept : ∀ i', (E.world (n + 1)).instance? e f = some i' → i' = i
  /-- Where there is room, the engine remembers it. -/
  roomy : ∃ w₁, (E.world n).roomy.step (E.label n) = some w₁ ∧ w₁.instance? e f = some i

/-- A step of a task that ends a flow. -/
theorem endsIn_of_runStep {n : Nat} {u : TaskId} {reply : I.Reply} {k : Task V I} {eng : Engine V I}
    {d' : Desk V I} {work' : Work V I} {i : Instance V} {s : FlowStatus}
    (hl : E.label n = .run u reply)
    (hr : RunStep (E.world n) u reply (E.world (n + 1)) k eng d' work') (ho : Orderly (E.world n))
    (hi : (E.world n).instance? k.engine f = some i) (hrun : i.status = .running)
    (hd : Desk.Ending ⟨(E.world n).registry, eng⟩ u f i k.work s) :
    E.EndsIn k.engine f n (i.finish s (E.world n).now) where
  runs := by
    rw [Instance.params_finish]
    exact running?_eq_some_iff.mpr ⟨i, hi, hrun, rfl⟩
  gone := hr.gone ho hi hrun hd
  kept i' hi' := by
    rcases hr.final ho hi hrun hd with hfin | ⟨hfin, -⟩
    · exact Option.some.inj (hi'.symm.trans hfin)
    · rw [hfin] at hi'
      cases hi'
  roomy := by
    have hs := E.step n
    rw [hl] at hs ⊢
    exact hr.final_roomy ho hs hi hrun hd

theorem endsIn_of_ending {P : Plan d h} {e : EngineId} {t : TaskId} {o : Origin}
    {p : FlowParameters} {n : Nat} {i : Instance V} {stage : Processing V I} {s : FlowStatus}
    (hp : InProgress P (E.world n) e f t o p i stage)
    (hend : (E.world n).Ending (E.label n) f i s) :
    E.EndsIn e f n (i.finish s (E.world n).now) := by
  obtain ⟨u, reply, k, eng, d', work', hl, hr, rfl, hd⟩ :=
    hp.runStep_of_ending hend (E.change n)
  exact endsIn_of_runStep hl hr hp.orderly hp.hasInstance hp.running hd

/-- A flow that does not run after a finite run has ended in it. -/
theorem EndsIn.lt_length {w w' : World V I} {ls : List (Label V I)} {hfollow : w.follow ls = some w'}
    {e : EngineId} {n : Nat} {i : Instance V} (h : (ofFollow hfollow).EndsIn e f n i)
    (hover : w'.running? e f = none) : n < ls.length := by
  refine Nat.lt_of_not_le fun hlate => ?_
  obtain ⟨k, rfl⟩ := Nat.exists_eq_add_of_le hlate
  have hruns := h.runs
  rw [show (ofFollow hfollow).world (ls.length + k) = _ from play_after hfollow k] at hruns
  -- Only time has passed since the run.
  cases hover.symm.trans hruns

theorem opened_later {n m : Nat} (hf : (E.world n).Opened f) (hm : n ≤ m) :
    (E.world m).Opened f := by
  induction hm with
  | refl => exact hf
  | @step m _ ih => exact opened_of_change (E.change m) ih

theorem ended_later {n m : Nat} (he : Ended (E.world n) f) (hm : n ≤ m) :
    Ended (E.world m) f := by
  induction hm with
  | refl => exact he
  | @step m _ ih => exact ih.change (E.change m)

/-- A flow under way is under way or has ended at every later step. -/
theorem inProgress_or_ended (hno : ∀ n e' event, E.label n ≠ .dispatch e' f event) {P : Plan d h}
    {e : EngineId} {t : TaskId} {o : Origin} {p : FlowParameters} {n m : Nat} (hm : n ≤ m)
    {i : Instance V} {stage : Processing V I}
    (hp : InProgress P (E.world n) e f t o p i stage) :
    (∃ i' stage', InProgress P (E.world m) e f t o p i' stage') ∨ Ended (E.world m) f := by
  induction hm with
  | refl => exact .inl ⟨i, stage, hp⟩
  | @step m _ ih =>
    rcases ih with ⟨i', stage', hp'⟩ | he
    · rcases hp'.change (E.change m) (hno m) with ⟨s, hs⟩ | ⟨i'', stage'', hp'', -⟩
      · exact .inr (hp'.ended hs (E.change m))
      · exact .inl ⟨i'', stage'', hp''⟩
    · exact .inr (he.change (E.change m))

section Start

variable {engines : List (Definition V I × List (Handler V I) × Nat)}
  {hs : List (Handler V I)} {retention : Nat} {e : EngineId} {n₀ serial : Nat}
  {q : StartRequest V}

theorem orderly (h₀ : E.world 0 = initial engines) (n : Nat) : Orderly (E.world n) :=
  (h₀ ▸ Orderly.initial engines).reachable (E.reachable n)

theorem heard (h₀ : E.world 0 = initial engines)
    (hno : ∀ n e' event, E.label n ≠ .dispatch e' f event) (n : Nat) : Heard (E.world n) f := by
  induction n with
  | zero =>
    intro t k hk
    rw [h₀] at hk
    cases hk
  | succ n ih => exact ih.change (E.change n) (hno n)

/-- After it was started on a free lane, a flow is under way. -/
theorem inProgress_of_start (h₀ : E.world 0 = initial engines)
    (he : engines[e]? = some (d, hs, retention)) (P : Plan d (.ofList hs))
    (hstart : P.awaits d.initial (q.event d.start))
    (hl : E.label n₀ = .start e serial q) (hfree : (E.world n₀).lane? q.resourceId = none)
    (hno : ∀ n e' event, E.label n ≠ .dispatch e' (.opened serial) event) :
    ∃ t o i stage, InProgress P (E.world (n₀ + 1)) e (.opened serial) t o
      (q.params (.opened serial) d.flowType) i stage := by
  have hstep := E.step n₀
  rw [hl] at hstep
  obtain ⟨eng, g, ho⟩ := openStep_of_free hstep hfree
  obtain ⟨hd, hh⟩ := engine_of_reachable (h₀ ▸ E.reachable n₀) he ho.hasEngine
  exact ⟨_, _, _, _, ho.inProgress (orderly h₀ n₀) (heard h₀ hno n₀) P hd hh hstart⟩

/-- Before it was started, no task processed events of the flow. -/
theorem unheard_before_start (h₀ : E.world 0 = initial engines)
    (hl : E.label n₀ = .start e serial q) (hfree : (E.world n₀).lane? q.resourceId = none)
    (hno : ∀ n e' event, E.label n ≠ .dispatch e' (.opened serial) event) {m : Nat}
    (hm : m ≤ n₀) {t : TaskId} {k : Task V I} (hk : (E.world m).tasks[t]? = some k) :
    k.work.flow? ≠ some (.opened serial) := by
  intro hf
  have hstep := E.step n₀
  rw [hl] at hstep
  obtain ⟨eng, g, ho⟩ := openStep_of_free hstep hfree
  exact ho.ne_of_opened (opened_later (heard h₀ hno m t k hk hf) hm) rfl

/-- A flow that is started on a free lane, at an engine whose definition and handlers have a plan
    and with a start event that the plan awaits, ends in some step of a fair execution, if no event
    is delivered to it. -/
theorem ends_of_start (h₀ : E.world 0 = initial engines) (hf : E.Fair)
    (he : engines[e]? = some (d, hs, retention)) (P : Plan d (.ofList hs))
    (hstart : P.awaits d.initial (q.event d.start))
    (hl : E.label n₀ = .start e serial q) (hfree : (E.world n₀).lane? q.resourceId = none)
    (hno : ∀ n e' event, E.label n ≠ .dispatch e' (.opened serial) event) :
    ∃ n i, n₀ < n ∧ E.EndsIn e (.opened serial) n i ∧ d.Concluded i ∧
      (E.world (n + 1)).lane? q.resourceId = none ∧
      (E.world (n + 1)).status? q.resourceId = none ∧
      ∀ m, n < m → Ended (E.world m) (.opened serial) := by
  -- Opened, the flow is under way, and some later step ends it.
  obtain ⟨t, o, i₀, stage₀, hp₀⟩ := inProgress_of_start h₀ he P hstart hl hfree hno
  obtain ⟨n, i, stage, s, hn, hp, hend⟩ :=
    comes_to_end hf (fun n => (orderly h₀ n).queues) hno hp₀
  -- What the step leaves: a finished instance, a free lane, and nothing on record.
  obtain ⟨eng, -, hc⟩ := hp.onCourse
  have hconcluded := hc.chronicle.concluded hc.running (hp.verdict hend) (E.world n).now
  obtain ⟨hlane, hstatus⟩ := hp.freed hend (E.change n)
  have hended : Ended (E.world (n + 1)) (.opened serial) := hp.ended hend (E.change n)
  exact ⟨n, _, hn, endsIn_of_ending hp hend, hconcluded, hlane, hstatus,
    fun m hm => ended_later hended hm⟩

/-- Whoever processed events of the flow is told how it ended, or why it did not process them. -/
theorem settled_of_start (h₀ : E.world 0 = initial engines)
    (he : engines[e]? = some (d, hs, retention)) (P : Plan d (.ofList hs))
    (hstart : P.awaits d.initial (q.event d.start))
    (hl : E.label n₀ = .start e serial q) (hfree : (E.world n₀).lane? q.resourceId = none)
    (hno : ∀ n e' event, E.label n ≠ .dispatch e' (.opened serial) event) {m : Nat}
    {t : TaskId} {k : Task V I} {o : Origin} {outcome : Outcome V}
    (hk : (E.world m).tasks[t]? = some k)
    (hw : k.work = .process o (.opened serial) (.over outcome)) : Outcome.Settled outcome := by
  rcases Nat.lt_or_ge n₀ m with hm | hm
  · obtain ⟨t₀, o₀, i₀, stage₀, hp₀⟩ := inProgress_of_start h₀ he P hstart hl hfree hno
    rcases inProgress_or_ended hno hm hp₀ with ⟨i, stage, hp⟩ | hended
    · -- While the flow is under way, its task is not over.
      have ht := hp.alone t k hk (by rw [hw]; rfl)
      rw [ht, hp.task] at hk
      cases hk
      cases hw
      obtain ⟨eng, -, hc⟩ := hp.onCourse
      exact absurd hc.stands id
    · exact hended.settled t k o outcome hk hw
  · -- Before the start nobody processed events of the flow.
    exact absurd (by rw [hw]; rfl) (unheard_before_start h₀ hl hfree hno hm hk)

end Start

end Execution

end World

end ResourceFlow
