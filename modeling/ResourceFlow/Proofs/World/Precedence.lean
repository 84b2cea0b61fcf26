import ResourceFlow.Proofs.World.Results
/-! # Which event comes first

  A flow takes its first event from whoever asked first for its lane: a lock is
  passed on in the order in which it was asked for. That is the start event, if
  the task with which the flow was opened asks before all others. Nothing sees
  to it: the id of a flow is known before that task has taken a step, and an
  event that is delivered meanwhile may be the first one to be taken, in the
  state in which every run begins.

  `World.Execution.Leading` is the invariant: as long as no event of the flow has been
  taken, nobody has asked for its lane, or whoever asked first holds the lock
  and has still the event that it brought. The main result is
  `World.first_come`.
-/

namespace ResourceFlow

variable {V : Vocabulary} {I : Interface}

/-- The task has asked for the lock of flow `f` and has taken nothing yet: it brings this event, or
    it cancels the flow. -/
inductive Work.Leads (f : FlowId) (lock : LockId) : Option V.Event → Work V I → Prop where
  /-- It waits for the lock. -/
  | queued {o : Origin} {x : V.Event} : Leads f lock (some x) (.process o f (.queued lock x))
  /-- It is about to take the event. -/
  | ready {o : Origin} {p : FlowParameters} {x : V.Event} :
      Leads f lock (some x) (.process o f (.ready lock p x))
  /-- It waits to cancel the flow. -/
  | cancel {r : ResourceId} : Leads f lock none (.cancel r (.queued lock f))

theorem Work.Leads.stake? {f : FlowId} {lock : LockId} {x : Option V.Event} {w : Work V I}
    (h : w.Leads f lock x) : w.stake? = some (lock, f) := by
  cases h <;> rfl

/-- Whoever asks for a lock brings an event of the flow or cancels it, and the engine knows the
    flow. -/
theorem Desk.Move.leads_of_asks {d d' : Desk V I} {t : TaskId} {now : Duration} {reply : I.Reply}
    {w w' : Work V I} (h : Move d t now reply w d' w') {f : FlowId} {lock : LockId}
    (hs : w.stake? = none) (hs' : w'.stake? = some (lock, f)) :
    (∃ i, d.engine.instance? f = some i) ∧ ∃ x, w'.Leads f lock x ∧ ∀ y ∈ x, w.Brings f y := by
  cases h with
  | queue hi hr hl hf =>
    cases hs'
    exact ⟨⟨_, hi⟩, _, .queued, fun y hy => by cases hy; exact .arriving⟩
  | request hl ho =>
    cases hs'
    exact ⟨Option.isSome_iff_exists.mp ho, _, .cancel, fun y hy => by cases hy⟩
  | hand | enter | handle | handled | handlerFailed | act | acted | actionFailed | admitted =>
    cases hs
  | _ => cases hs'

namespace World

namespace Execution

variable {E : Execution V I} {engines : List (Definition V I × List (Handler V I) × Nat)}
  {d : Definition V I} {hs : List (Handler V I)} {retention n n₀ m serial : Nat}
  {q : StartRequest V} {t u : TaskId} {e : EngineId} {f : FlowId}

/-- In step `m` task `t` asks for the lane of flow `f`. -/
def Asks (E : Execution V I) (f : FlowId) (t : TaskId) (m : Nat) : Prop :=
  ∃ reply k k' lock, E.label m = .run t reply ∧
    (E.world m).tasks[t]? = some k ∧ k.work.stake? = none ∧
    (E.world (m + 1)).tasks[t]? = some k' ∧ k'.work.stake? = some (lock, f)

/-- In step `m` task `t` asks for the lane of flow `f`, and nobody asked before. -/
structure AsksFirst (E : Execution V I) (f : FlowId) (t : TaskId) (m : Nat) : Prop where
  /-- It asks. -/
  asks : E.Asks f t m
  /-- Nobody asked before. -/
  first : ∀ u k, E.Asks f u k → m ≤ k

/-- One task is the first to ask. -/
theorem AsksFirst.unique (h : E.AsksFirst f t n) (h' : E.AsksFirst f u m) : t = u ∧ n = m := by
  obtain rfl : n = m := Nat.le_antisymm (h.first _ _ h'.asks) (h'.first _ _ h.asks)
  obtain ⟨_, _, _, _, hl, -⟩ := h.asks
  obtain ⟨_, _, _, _, hl', -⟩ := h'.asks
  rw [hl] at hl'
  injection hl' with htu
  exact ⟨htu, rfl⟩

/-- Only lanes of flows that have been opened are asked for. -/
theorem Asks.opened (h : E.Asks f t m) (h₀ : E.world 0 = initial engines) :
    (E.world (m + 1)).Opened f := by
  obtain ⟨_, _, k', lock, -, -, -, hk', hs'⟩ := h
  exact ((orderly h₀ (m + 1)).stakes t k' lock f hk' hs').2.1

/-- After `n` steps, in which no event of flow `f` was taken: nobody has asked for its lane, or
    whoever asked first holds the lock and has taken nothing. -/
inductive Leading (E : Execution V I) (e : EngineId) (f : FlowId) (n : Nat) : Prop where
  /-- Nobody has asked. -/
  | nobody (hno : ∀ (t : TaskId) (m : Nat), E.Asks f t m → n ≤ m)
      (hidle : ∀ (t : TaskId) (k : Task V I) (lock : LockId), (E.world n).tasks[t]? = some k →
        k.work.stake? ≠ some (lock, f))
  /-- Task `t` asked first, and holds the lock. -/
  | task {t : TaskId} {m : Nat} {k : Task V I} {lock : LockId} {x : Option V.Event} (hm : m < n)
      (hfirst : E.AsksFirst f t m) (hk : (E.world n).tasks[t]? = some k) (hke : k.engine = e)
      (hw : k.work.Leads f lock x) (hh : ((E.world n).registry.lanes.lock lock).holder = some t)
      (hx : ∀ y ∈ x, ∃ m' o, m' < m ∧ E.Begins m' t e o f y)

/-- After it was opened nobody has asked for the lane of a flow. -/
theorem leading_of_opens {eng : Engine V I} {g : Registry} (h₀ : E.world 0 = initial engines)
    (hl : E.label n₀ = .start e serial q)
    (ho : OpenStep (E.world n₀) e serial q (E.world (n₀ + 1)) eng g) :
    E.Leading e (.opened serial) (n₀ + 1) := by
  have hnew : ¬ (E.world n₀).Opened (.opened serial) := fun hop => ho.ne_of_opened hop rfl
  refine .nobody ?_ ?_
  · intro t m ha
    refine Nat.lt_of_not_le fun hm => ?_
    rcases Nat.lt_or_eq_of_le hm with hlt | rfl
    · exact hnew (opened_later (ha.opened h₀) hlt)
    · obtain ⟨_, _, _, _, hl', -⟩ := ha
      rw [hl] at hl'
      cases hl'
  · intro t k lock hk hst
    rcases ho.tasks.mp hk with hk | ⟨-, rfl⟩
    · exact hnew ((orderly h₀ n₀).stakes t k lock _ hk hst).2.1
    · cases hst

/-- Where nobody has asked, whoever asks now is the first and gets the lock. -/
theorem leading_of_asks (h₀ : E.world 0 = initial engines)
    (hrun : (E.world n).running? e f ≠ none) (hno : ∀ t m, E.Asks f t m → n ≤ m)
    (hidle : ∀ (t : TaskId) (k : Task V I) (lock : LockId), (E.world n).tasks[t]? = some k →
      k.work.stake? ≠ some (lock, f)) (ha : E.Asks f t n) : E.Leading e f (n + 1) := by
  have h := orderly h₀ n
  obtain ⟨reply, k, k', lock, hl, hk, hs, hk', hs'⟩ := id ha
  have hc := E.change n
  rw [hl] at hc
  cases hc with
  | @runs _ _ _ task eng d' work' hr =>
    obtain rfl := Option.some.inj (hr.hasTask.symm.trans hk)
    rw [hr.tasks, if_pos rfl] at hk'
    obtain rfl := Option.some.inj hk'
    have hs' : work'.stake? = some (lock, f) := hs'
    obtain ⟨⟨i, hi⟩, x, hw, hx⟩ := hr.move.leads_of_asks hs hs'
    -- The engine of the task knows the flow, so it is the one at which the flow runs.
    obtain ⟨p, hp⟩ := Option.ne_none_iff_exists'.mp hrun
    obtain ⟨hke, -⟩ := h.running_single ((hr.instance?_self f).trans hi) hp
    refine .task (Nat.lt_succ_self n) ⟨ha, hno⟩ ((hr.tasks t).trans (if_pos rfl)) hke.symm hw ?_ ?_
    · cases h.queues.lockMove hr with
      | keeps hst _ _ =>
        rw [hst, hs] at hs'
        cases hs'
      | passes _ _ hst _ =>
        rw [hst] at hs'
        cases hs'
      | @asks r lane hlane _ hst _ hlock =>
        rw [hst] at hs'
        cases hs'
        -- Whoever held the lock would have asked for it on behalf of the flow.
        have hfree : (((E.world n).registry.lanes.lock lane.lock).holder) = none := by
          refine Option.eq_none_iff_forall_ne_some.mpr fun u hu => ?_
          obtain ⟨j, g, hj, hst⟩ := (h.queues.party _ u).mp (Lock.mem_parties_of_holder hu)
          have hg := ((h.stakes u j _ g hj hst).2.2 r lane hlane).mpr rfl
          exact hidle u j _ hj (hg ▸ hst)
        rw [hr.registry, hlock, if_pos rfl, Lock.ask, hfree]
    · intro y hy
      obtain ⟨m, o, hm, hb⟩ := begun_of_brings h₀ hr.hasTask (hx y hy)
      exact ⟨m, o, hm, hke.symm ▸ hb⟩

/-- Where nobody has asked and nobody asks now, nobody has asked afterwards. -/
theorem leading_of_not_asks (h₀ : E.world 0 = initial engines)
    (hno : ∀ t m, E.Asks f t m → n ≤ m)
    (hidle : ∀ (t : TaskId) (k : Task V I) (lock : LockId), (E.world n).tasks[t]? = some k →
      k.work.stake? ≠ some (lock, f)) (ha : ∀ t, ¬ E.Asks f t n) : E.Leading e f (n + 1) := by
  refine .nobody ?_ ?_
  · intro t m hm
    refine Nat.lt_of_le_of_ne (hno t m hm) ?_
    rintro rfl
    exact ha t hm
  · intro t k lock hk hst
    have hadd : ∀ {e' : EngineId} {work : Work V I}, work.stake? = none →
        ((E.world n).addTask e' work).tasks[t]? = some k → False := by
      intro e' work hnone hk
      rcases tasks_addTask.mp hk with hk | ⟨-, rfl⟩
      · exact hidle t k lock hk hst
      · rw [hnone] at hst
        cases hst
    have hc := E.change n
    generalize hw' : E.world (n + 1) = w' at hc hk
    generalize hl : E.label n = l at hc
    cases hc with
    | refuses | delivers | cancels => exact hadd rfl hk
    | elapses => exact hidle t k lock hk hst
    | opens ho =>
      rcases ho.tasks.mp hk with hk | ⟨-, rfl⟩
      · exact hidle t k lock hk hst
      · cases hst
    | @runs u reply _ task eng d' work' hr =>
      have hk₀ := hk
      rw [hr.tasks] at hk
      split at hk
      · rename_i htu
        subst htu
        obtain rfl := Option.some.inj hk
        have hst : work'.stake? = some (lock, f) := hst
        -- A step after which a task has a stake keeps it, or asks for it.
        cases (orderly h₀ n).queues.lockMove hr with
        | keeps hkeep _ _ => exact hidle t task lock hr.hasTask (hkeep ▸ hst)
        | asks _ hs _ _ _ =>
          exact ha t ⟨reply, task, _, lock, hl, hr.hasTask, hs, hw' ▸ hk₀, hst⟩
        | passes _ _ hnone _ =>
          rw [hnone] at hst
          cases hst
      · exact hidle t k lock hk hst

/-- A step of whoever asked first, in which nothing is taken and the flow does not end: it is about
    to take the event that it brought. -/
theorem leads_of_run (h₀ : E.world 0 = initial engines)
    (he : engines[e]? = some (d, hs, retention)) {reply : I.Reply} {k : Task V I}
    {eng : Engine V I} {d' : Desk V I} {work' : Work V I} {lock : LockId} {x : Option V.Event}
    (hl : E.label n = .run t reply)
    (hr : RunStep (E.world n) t reply (E.world (n + 1)) k eng d' work') (hke : k.engine = e)
    (hrun : (E.world n).running? e f ≠ none) (hrun' : (E.world (n + 1)).running? e f ≠ none)
    (hno : (E.world n).taken? e f (E.label n) = none) (hw : k.work.Leads f lock x) :
    work'.Leads f lock x ∧ d'.registry = (E.world n).registry := by
  subst hke
  have h := orderly h₀ n
  rw [hr.running?_self] at hrun
  rw [hr.running?, if_pos rfl] at hrun'
  have hm := hr.move
  generalize hwork : k.work = work at hw hm
  cases hw with
  | queued =>
    cases hm with
    | forgotten _ hi =>
      exact absurd (by simp [Engine.running?, show eng.instance? f = _ from hi]) hrun
    | late _ hi hend =>
      exact absurd (by simp [Engine.running?, show eng.instance? f = _ from hi, hend]) hrun
    | admitted => exact ⟨.ready, rfl⟩
  | @ready o p x =>
    -- Whoever is about to take an event takes it.
    have hwaits : (E.world n).Waits k.engine f t x :=
      ⟨k, hr.hasTask, rfl, by rw [hwork]; rfl, by rw [hwork]; rfl⟩
    obtain ⟨y, hy, -⟩ := taken?_of_waits h₀ he hl hwaits
    rw [hno] at hy
    cases hy
  | cancel =>
    cases hm with
    | gone _ hi => exact absurd (by simp [Engine.running?, show eng.instance? f = _ from hi]) hrun
    | @finish _ _ _ i _ hi =>
      obtain rfl : i.params.flow = f := (h.keyed _ _ _ ((hr.instance?_self f).trans hi)).1
      have hq := Desk.Quits.finishCancelled (d := ⟨(E.world n).registry, eng⟩)
        (h.retired_self hr) i.params (E.world n).now
      exact absurd ((hq.passLock lock).running i.params.flow |>.trans (if_pos rfl)) hrun'

/-- As long as nothing is taken of a flow that runs, whoever asked first leads. -/
theorem Leading.step (hlead : E.Leading e f n) (h₀ : E.world 0 = initial engines)
    (he : engines[e]? = some (d, hs, retention)) (hrun : (E.world n).running? e f ≠ none)
    (hrun' : (E.world (n + 1)).running? e f ≠ none)
    (htaken : (E.world n).taken? e f (E.label n) = none) : E.Leading e f (n + 1) := by
  cases hlead with
  | nobody hno hidle =>
    by_cases ha : ∃ t, E.Asks f t n
    · obtain ⟨t, ha⟩ := ha
      exact leading_of_asks h₀ hrun hno hidle ha
    · exact leading_of_not_asks h₀ hno hidle fun t ht => ha ⟨t, ht⟩
  | @task t m k lock x hm hfirst hk hke hw hh hx =>
    have hlt := Nat.lt_succ_of_lt hm
    by_cases hl : ∃ reply, E.label n = .run t reply
    · obtain ⟨reply, hl⟩ := hl
      have hc := E.change n
      rw [hl] at hc
      cases hc with
      | runs hr =>
        obtain rfl := Option.some.inj (hr.hasTask.symm.trans hk)
        obtain ⟨hw', hreg⟩ := leads_of_run h₀ he hl hr hke hrun hrun' htaken hw
        refine .task hlt hfirst ((hr.tasks t).trans (if_pos rfl)) hke hw' ?_ hx
        rw [hr.registry, hreg]
        exact hh
    · have hl := fun reply hl' => hl ⟨reply, hl'⟩
      exact .task hlt hfirst (task_of_change (E.change n) hl hk) hke hw
        (holder_of_change (orderly h₀ n).queues (E.change n) hl hh) hx

/-- As long as nothing was taken of a flow that runs, whoever asked first leads. -/
theorem leading (h₀ : E.world 0 = initial engines) (he : engines[e]? = some (d, hs, retention))
    (hl : E.label n₀ = .start e serial q) (hfree : (E.world n₀).lane? q.resourceId = none)
    (hn : n₀ < n) (htaken : E.taken e (.opened serial) n = [])
    (hrun : (E.world n).running? e (.opened serial) ≠ none) : E.Leading e (.opened serial) n := by
  have hstep := E.step n₀
  rw [hl] at hstep
  obtain ⟨eng, g, ho⟩ := openStep_of_free hstep hfree
  induction hn with
  | refl => exact leading_of_opens h₀ hl ho
  | @step n hn ih =>
    obtain ⟨hbefore, hnow⟩ := List.append_eq_nil_iff.mp htaken
    have hnow : (E.world n).taken? e (.opened serial) (E.label n) = none := by
      cases hx : (E.world n).taken? e (.opened serial) (E.label n) with
      | none => rfl
      | some x =>
        rw [hx] at hnow
        cases hnow
    have hop := opened_later ho.opened_self hn
    have hran : (E.world n).running? e (.opened serial) ≠ none := fun hno =>
      hrun (ended_stays h₀ he hop hno (Nat.le_succ n)).2
    exact (ih hbefore hran).step h₀ he hran hrun hnow

/-- The first event that is taken of a flow was brought by whoever asked first for its lane. -/
theorem brought_of_first (h₀ : E.world 0 = initial engines)
    (he : engines[e]? = some (d, hs, retention)) (hl : E.label n₀ = .start e serial q)
    (hfree : (E.world n₀).lane? q.resourceId = none) {x : Taken V} {rest : List (Taken V)}
    (htaken : E.taken e (.opened serial) n = x :: rest) :
    x.run.state = d.initial ∧ ∃ t m k o, E.AsksFirst (.opened serial) t m ∧ k < m ∧
      E.Begins k t e o (.opened serial) x.event := by
  obtain ⟨m, -, hbefore, hx⟩ := step_of_taken (show _ = [] ++ x :: rest from htaken)
  have h := orderly h₀ m
  obtain ⟨t, reply, k, hlab, hk, hold, hi, hrun⟩ := taken?_eq_some h hx
  refine ⟨?_, ?_⟩
  · -- A flow of which nothing was taken is in the state in which it began.
    obtain ⟨hhistory, hlast⟩ := history_of_shows h₀ he (.kept hi)
    rw [hhistory, hbefore] at hlast
    exact (Option.some.inj hlast).symm
  · have hn : n₀ < m := by
      refine Nat.lt_of_not_le fun hm => ?_
      have hstep := E.step n₀
      rw [hl] at hstep
      obtain ⟨eng, g, ho⟩ := openStep_of_free hstep hfree
      exact ho.ne_of_opened (opened_later (h.keyed _ _ _ hi).2 hm) rfl
    have hp : (E.world m).running? e (.opened serial) = some _ :=
      running?_eq_some_iff.mpr ⟨_, hi, hrun, rfl⟩
    obtain ⟨rfl, l, p, hin, hpf⟩ := hold
    have hst := (h.atWork t k l p hk hin).2
    rw [hpf] at hst
    cases leading h₀ he hl hfree hn hbefore (by rw [hp]; exact nofun) with
    | nobody _ hidle => exact absurd hst (hidle t k l hk)
    | @task t' m' k' lock y hm' hfirst hk' _ hw hh hy =>
      -- Whoever takes the event holds the lock, so it is whoever asked first.
      obtain ⟨lane, hlane, hflow⟩ := h.occupies _ _ _ hp
      have hl₁ := ((h.stakes t k l _ hk hst).2.2 _ lane hlane).mp hflow
      have hl₂ := ((h.stakes t' k' lock _ hk' hw.stake?).2.2 _ lane hlane).mp hflow
      have hholder := h.queues.inHand t k l p hk hin
      rw [← hl₁, hl₂, hh] at hholder
      obtain rfl := Option.some.inj hholder
      obtain rfl := Option.some.inj (hk.symm.trans hk')
      rw [hlab] at hx
      obtain ⟨k'', hk'', -, -, hat⟩ := waits_of_taken? h hx
      obtain rfl := Option.some.inj (hk.symm.trans hk'')
      have hyx : y = some x.event := by
        generalize k.work = work at hw hat
        cases hw <;> cases hat
        rfl
      obtain ⟨j, o, hj, hb⟩ := hy _ hyx
      exact ⟨_, m', j, o, hfirst, hj, hb⟩

end Execution

/-! ### First come, first served -/

/-- Which event of the flow that is opened in step `n₀` comes first. -/
structure Execution.FirstCome (E : Execution V I) (d : Definition V I) (e : EngineId) (n₀ : Nat)
    (serial : Nat) (q : StartRequest V) : Prop where
  /-- The first event that is taken was brought by whoever asked first for the lane: it is the start
      event, if that is the task with which the flow was opened; else it is the event that the task
      was to deliver. It is taken in the initial state. -/
  brought : ∀ (n : Nat) (x : Taken V) (rest : List (Taken V)),
    E.taken e (.opened serial) n = x :: rest → x.run.state = d.initial ∧
      ∃ t m, E.AsksFirst (.opened serial) t m ∧
        ((t = (E.world n₀).tasks.length ∧ x.event = q.event d.start) ∨
          ∃ k, k < m ∧ t = (E.world k).tasks.length ∧
            E.label k = .dispatch e (.opened serial) x.event)
  /-- If the task with which the flow was opened asks before all others, the first event that is
      taken is the start event. -/
  started : ∀ (m n : Nat) (x : Taken V) (rest : List (Taken V)),
    E.AsksFirst (.opened serial) (E.world n₀).tasks.length m →
    E.taken e (.opened serial) n = x :: rest → x.event = q.event d.start
  /-- If the task that delivers an event asks before all others, the first event that is taken is
      that one. -/
  delivered : ∀ (k m n : Nat) (y : V.Event) (x : Taken V) (rest : List (Taken V)),
    E.label k = .dispatch e (.opened serial) y →
    E.AsksFirst (.opened serial) (E.world k).tasks.length m →
    E.taken e (.opened serial) n = x :: rest → x.event = y
  /-- If the first event is refused, no other is ever taken, whoever brings it. -/
  refused : ∀ (n : Nat) (x : Taken V) (rest : List (Taken V)),
    E.taken e (.opened serial) n = x :: rest → x.fate = .refused → rest = []

/-- Events of a flow are taken first come, first served, from its opening on, in any execution:
    whatever is delivered to it and whoever cancels it, in whatever order. -/
theorem first_come {engines : List (Definition V I × List (Handler V I) × Nat)}
    {E : Execution V I} (h₀ : E.world 0 = initial engines) {e : EngineId} {d : Definition V I}
    {hs : List (Handler V I)} {retention : Nat} (he : engines[e]? = some (d, hs, retention))
    {n₀ serial : Nat} {q : StartRequest V} (hl : E.label n₀ = .start e serial q)
    (hfree : (E.world n₀).lane? q.resourceId = none) : E.FirstCome d e n₀ serial q := by
  have hstep := E.step n₀
  rw [hl] at hstep
  obtain ⟨eng, g, ho⟩ := openStep_of_free hstep hfree
  obtain ⟨hdef, -⟩ := engine_of_reachable (h₀ ▸ E.reachable n₀) he ho.hasEngine
  have hopens : E.Begins n₀ (E.world n₀).tasks.length e (.started q.resourceId) (.opened serial)
      (q.event d.start) := hdef ▸ .opens hl ho rfl
  have hfirst : ∀ {n : Nat} {x : Taken V} {rest : List (Taken V)},
      E.taken e (.opened serial) n = x :: rest → x.run.state = d.initial ∧ ∃ t m k o,
        E.AsksFirst (.opened serial) t m ∧ k < m ∧ E.Begins k t e o (.opened serial) x.event :=
    fun htaken => Execution.brought_of_first h₀ he hl hfree htaken
  refine ⟨?_, ?_, ?_, ?_⟩
  · intro n x rest htaken
    obtain ⟨hstate, t, m, k, o, hasks, hk, hb⟩ := hfirst htaken
    refine ⟨hstate, t, m, hasks, ?_⟩
    generalize hf : FlowId.opened serial = f at hb
    generalize hx : x.event = y at hb ⊢
    cases hb with
    | opens hl' ho' ht =>
      -- The flow is opened in one step only.
      injection hf with hf
      subst hf
      obtain rfl := Execution.opens_once ho ho'
      subst ht
      exact .inl ⟨rfl, (Execution.Begins.opens hl' ho' rfl).event_eq hopens⟩
    | delivers hl' ht =>
      subst hf
      exact .inr ⟨k, hk, ht, hl'⟩
  · intro m n x rest hasks htaken
    obtain ⟨-, t, m', k, o, hasks', -, hb⟩ := hfirst htaken
    obtain ⟨rfl, -⟩ := hasks.unique hasks'
    exact hb.event_eq hopens
  · intro k m n y x rest hl' hasks htaken
    obtain ⟨-, t, m', k', o, hasks', -, hb⟩ := hfirst htaken
    obtain ⟨rfl, -⟩ := hasks.unique hasks'
    exact hb.event_eq (.delivers hl' rfl)
  · intro n x rest htaken hfate
    cases rest with
    | nil => rfl
    | cons y rest =>
      obtain ⟨m, -, hbefore, hx⟩ :=
        Execution.step_of_taken (show _ = [] ++ x :: y :: rest from htaken)
      obtain ⟨m', -, hbefore', hy⟩ :=
        Execution.step_of_taken (show _ = [x] ++ y :: rest from htaken)
      refine absurd (Nat.lt_of_not_le fun hm => ?_)
        (Execution.not_taken_of_refused h₀ he hx hfate hy)
      have hgrows := Execution.taken_grows (E := E) (e := e) (f := .opened serial) hm
      rw [hbefore, hbefore'] at hgrows
      cases List.prefix_nil.mp hgrows

/-- The news is delivered to a flow that was opened, but has not got to its start event. -/
def overtakenRun : List (Label CascadingDelete.vocabulary Collaborators) :=
  clearingStart :: .dispatch 0 (.opened 0) cleared ::
    List.replicate 3 (.run 1 fun _ => .error default) ++ [.run 0 fun _ => .error default]

/-- That flow, after which only time passes. -/
def overtaken : Execution CascadingDelete.vocabulary Collaborators :=
  .ofFollow (show (initial (clearingEngines none)).follow overtakenRun =
    some (((initial (clearingEngines none)).follow overtakenRun).get rfl) from rfl)

/-- The task that delivers the news asks first. So that is the first event to be taken, in the
    initial state, and no other is taken after it. -/
theorem first_come_overtaken : overtaken.AsksFirst (.opened 0) 1 2 ∧
    (∃ x, overtaken.taken 0 (.opened 0) 5 = [x] ∧ x.fate = .refused) ∧
    ∀ n x rest, overtaken.taken 0 (.opened 0) n = x :: rest →
      x.event = cleared ∧ x.run.state = .init ∧ (x.fate = .refused → rest = []) := by
  have hasks : overtaken.AsksFirst (.opened 0) 1 2 := by
    refine ⟨⟨_, _, _, _, rfl, rfl, rfl, rfl, rfl⟩, ?_⟩
    rintro u k ⟨reply, _, _, _, hl, -⟩
    -- The first two steps are requests.
    match k, hl with
    | 0, hl => cases hl
    | 1, hl => cases hl
    | k + 2, _ => exact Nat.le_add_left 2 k
  have hcome := first_come (E := overtaken)
    (show overtaken.world 0 = initial (clearingEngines none) from rfl) (e := 0) rfl
    (show overtaken.label 0 = .start 0 0 _ from rfl) rfl
  refine ⟨hasks, ⟨_, rfl, rfl⟩, fun n x rest htaken => ⟨?_, (hcome.brought n x rest htaken).1, ?_⟩⟩
  · exact hcome.delivered 1 2 n cleared x rest rfl hasks htaken
  · exact hcome.refused n x rest htaken

/-- The start event does not come first, and it is never taken: the news is refused, which the flow
    has a transition for where it would have parked, and whoever started the flow is told that it
    failed. -/
theorem start_overtaken : ∃ q x, overtaken.label 0 = .start 0 0 q ∧
    overtaken.taken 0 (.opened 0) 6 = [x] ∧ x.event ≠ q.event (clearing none).start ∧
    x.fate = .refused ∧
    (∃ i, (parkedClearing.world 5).instance? 0 (.opened 0) = some i ∧
      (clearing none).transition i.state x.event.selector = some .final) ∧
    overtaken.Returns 5 0 0 (.opened 0) (.error (.terminated (.opened 0) .failed)) := by
  refine ⟨_, _, rfl, rfl, ?_, rfl, ⟨_, rfl, rfl⟩, _, .started 7, rfl, rfl⟩
  intro hevent
  cases congrArg Event.selector hevent

end World

end ResourceFlow
