import ResourceFlow.Proofs.Engine.Taken
import ResourceFlow.Proofs.World.Retention
/-! # What a step has to do with a flow

  `World.Bearing` says how a step of a task bears on one flow: the task has
  the flow in hand, it is a cancel that ends the flow, or it is neither, and
  then the flow's instance stays as it is. Whatever is proved of the instances
  of a flow goes through it.

  `World.Poised` is the invariant that ties the state of a flow to the task
  inside its action: the task acts on the state that the flow is in, and a
  flow that entered a terminal state and still runs has a task inside the
  action of that state. So no event is ever taken in a terminal state that was
  entered (`World.Poised.not_arrived`).
-/

namespace ResourceFlow

variable {V : Vocabulary} {I : Interface}

/-- The run has entered a terminal state and stands there. The state in which it begins was not
    entered. -/
def Definition.Arrived (d : Definition V I) (i : Instance V) : Prop :=
  1 < i.history.length ∧ d.isTerminal i.state = true

/-- The task processes events of a flow of this engine, with the lock in hand. -/
def Task.Holds (k : Task V I) (e : EngineId) (f : FlowId) : Prop :=
  k.engine = e ∧ ∃ l p, k.work.inHand? = some (l, p) ∧ p.flow = f

/-- The flow for which a task is inside an action, and the state whose action it is. -/
def Work.acting? : Work V I → Option (FlowId × V.State)
  | .process _ flow (.acting _ _ _ s _) => some (flow, s)
  | _ => none

/-- Whoever is inside an action has the flow in hand. -/
theorem Work.inHand?_of_acting? {w : Work V I} {f : FlowId} {s : V.State}
    (h : w.acting? = some (f, s)) :
    ∃ l p, w.inHand? = some (l, p) ∧ w.stake? = some (l, f) := by
  unfold acting? at h
  split at h
  · cases h
    exact ⟨_, _, rfl, rfl⟩
  · cases h

namespace World

variable {w w' : World V I}

/-! ### Bearing -/

/-- How a step of a task bears on flow `f` of engine `e`. -/
inductive Bearing (w w' : World V I) (task : Task V I) (e : EngineId) (f : FlowId) : Prop where
  /-- Not at all. -/
  | aside (hn : ¬ task.Holds e f) (hi : w'.instance? e f = w.instance? e f)
  /-- The flow had ended, and is forgotten. -/
  | forgets {i : Instance V} (hn : ¬ task.Holds e f) (hi : w.instance? e f = some i)
      (hr : i.status ≠ .running) (hi' : w'.instance? e f = none)
  /-- The task cancels the flow, and the flow is perhaps forgotten at once. -/
  | cancels {i : Instance V} {r : ResourceId} {lock : LockId} (he : task.engine = e)
      (hw : task.work = .cancel r (.queued lock f)) (hi : w.instance? e f = some i)
      (hr : i.status = .running)
      (hi' : w'.instance? e f = some (i.finish .cancelled w.now) ∨
        (w.Full e ∧ w'.instance? e f = none))
  /-- The task has the flow in hand. -/
  | own {i : Instance V} {lock : LockId} (he : task.engine = e) (hk : i.params.flow = f)
      (hw : task.work.inHand? = some (lock, i.params)) (hi : w.instance? e f = some i)
      (hr : i.status = .running)

/-- The instance of a flow is kept by the engine. -/
theorem instance?_eq_some_iff {e : EngineId} {f : FlowId} {i : Instance V} :
    w.instance? e f = some i ↔ ∃ eng, w.engines[e]? = some eng ∧ eng.instance? f = some i := by
  unfold instance?
  rw [Option.bind_eq_some_iff]

/-- There are no instances at the start. -/
theorem instance?_initial (engines : List (Definition V I × List (Handler V I) × Nat))
    (e : EngineId) (f : FlowId) : (World.initial engines).instance? e f = none := by
  rw [Option.eq_none_iff_forall_ne_some]
  intro i hi
  obtain ⟨eng, he, hi⟩ := instance?_eq_some_iff.mp hi
  unfold World.initial at he
  rw [List.getElem?_map, Option.map_eq_some_iff] at he
  obtain ⟨x, -, rfl⟩ := he
  cases hi

namespace Orderly

/-- A flow is in one task's hand at most. -/
theorem hand_unique (h : Orderly w) {t u : TaskId} {a b : Task V I} {l l' : LockId}
    {p q : FlowParameters} (ha : w.tasks[t]? = some a) (hb : w.tasks[u]? = some b)
    (hp : a.work.inHand? = some (l, p)) (hq : b.work.inHand? = some (l', q))
    (hf : p.flow = q.flow) : t = u := by
  obtain ⟨hrun, hst⟩ := h.atWork t a l p ha hp
  obtain ⟨-, hst'⟩ := h.atWork u b l' q hb hq
  -- Both hold the lock that came with the lane of the flow.
  obtain ⟨lane, hl, hflow⟩ := h.occupies _ _ _ hrun
  have h₁ : lane.lock = l := ((h.stakes t a l _ ha hst).2.2 _ lane hl).mp hflow
  have h₂ : lane.lock = l' := ((h.stakes u b l' _ hb hst').2.2 _ lane hl).mp (hflow.trans hf)
  rw [← h₁] at hp
  rw [← h₂] at hq
  exact h.queues.holder_unique ha hb hp hq

/-- Every step of a task bears on a flow in one of these ways. -/
theorem bearing (h : Orderly w) {t : TaskId} {reply : I.Reply} {task : Task V I}
    {eng : Engine V I} {d' : Desk V I} {work' : Work V I}
    (hr : RunStep w t reply w' task eng d' work') (e : EngineId) (f : FlowId) :
    Bearing w w' task e f := by
  by_cases hold : task.Holds e f
  · obtain ⟨rfl, l, p, hp, rfl⟩ := hold
    obtain ⟨i, hi, hrun, rfl⟩ := running?_eq_some_iff.mp (h.atWork t task l p hr.hasTask hp).1
    exact .own rfl rfl hp hi hrun
  by_cases he : e = task.engine
  · subst he
    have hi' : w'.instance? task.engine f = d'.engine.instance? f := by
      rw [hr.instance?, if_pos rfl]
    have hi₀ := hr.instance?_self f
    -- A cancel of the flow ends it, unless it has ended before.
    by_cases hc : ∃ r lock i, task.work = .cancel r (.queued lock f) ∧
        eng.instance? f = some i ∧ i.status = .running
    · obtain ⟨r, lock, i, hw, hi, hrun⟩ := hc
      have hkey : i.params.flow = f := (h.keyed _ _ _ (hi₀.trans hi)).1
      have hm := hr.move
      rw [hw] at hm
      cases hm with
      | gone _ hn =>
        have hn : eng.instance? f = none := hn
        rw [hi] at hn
        cases hn
      | finish _ hj =>
        have hij := Option.some.inj (hi.symm.trans hj)
        rw [← hij] at hi'
        refine .cancels rfl hw (hi₀.trans hi) hrun ?_
        rw [hi', ← hkey]
        refine (Desk.instance?_conclude_self (d := ⟨w.registry, eng⟩) ?_ hrun .cancelled
          w.now).imp_right fun hn => ⟨⟨eng, hr.hasEngine, hn.1⟩, hn.2⟩
        rw [hkey]
        exact hi
    · -- Any other step leaves the instance alone, or has a retired flow forgotten.
      have hother : w'.instance? task.engine f = w.instance? task.engine f ∨
          (w'.instance? task.engine f = none ∧ f ∈ eng.retired) := by
        rw [hi', hi₀]
        by_cases hcan : ∃ r lock i, task.work = .cancel r (.queued lock f) ∧
            eng.instance? f = some i
        · obtain ⟨r, lock, i, hw, hi⟩ := hcan
          have hkey : i.params.flow = f := (h.keyed _ _ _ (hi₀.trans hi)).1
          have hend : i.status ≠ .running := fun hrun => hc ⟨r, lock, i, hw, hi, hrun⟩
          have hm := hr.move
          rw [hw] at hm
          cases hm with
          | gone _ _ => exact .inl rfl
          | finish _ hj =>
            obtain rfl := Option.some.inj (hi.symm.trans hj)
            subst hkey
            refine .inl ?_
            show ((⟨w.registry, eng⟩ : Desk V I).conclude i.params .cancelled
              w.now).engine.instance? i.params.flow = _
            rw [Desk.instance?_conclude_of_ended hi hend, hi]
        · refine hr.move.instance?_other ?_ ?_
          · rintro l p hp rfl
            exact hold ⟨rfl, l, p, hp, rfl⟩
          · rintro r lock g i hw hi rfl
            have hkey : i.params.flow = g := (h.keyed _ _ _ ((hr.instance?_self g).trans hi)).1
            exact hcan ⟨r, lock, i, hkey ▸ hw, hkey ▸ hi⟩
      rcases hother with hsame | ⟨hnone, hret⟩
      · exact .aside hold hsame
      · cases hi : w.instance? task.engine f with
        | none => exact .aside hold (hnone.trans hi.symm)
        | some i =>
          refine .forgets hold hi ?_ hnone
          intro hrun
          have hgone := (h.retired _ eng f hr.hasEngine hret).1
          rw [Engine.running?_of_instance? (hi₀.symm.trans hi) hrun] at hgone
          cases hgone
  · refine .aside hold ?_
    rw [hr.instance?, if_neg he]

end Orderly

/-! ### The invariant -/

/-- The states of flows fit what tasks do. -/
structure Poised (w : World V I) : Prop where
  /-- Lanes, flows and tasks fit together. -/
  orderly : Orderly w
  /-- A task acts on the state that its flow is in. -/
  acts : ∀ (t : TaskId) (k : Task V I) (f : FlowId) (s : V.State) (i : Instance V),
    w.tasks[t]? = some k → k.work.acting? = some (f, s) → w.instance? k.engine f = some i →
    i.state = s
  /-- A flow that arrived in a terminal state and still runs has a task that acts on it. -/
  arrived : ∀ (e : EngineId) (eng : Engine V I) (f : FlowId) (i : Instance V),
    w.engines[e]? = some eng → w.instance? e f = some i → i.status = .running →
    eng.definition.Arrived i → ∃ (t : TaskId) (k : Task V I), w.tasks[t]? = some k ∧
      k.engine = e ∧ k.work.acting? = some (f, i.state)

namespace Poised

/-- While a task is about to take an event or inside a handler, its flow has not arrived in a
    terminal state. -/
theorem not_arrived (h : Poised w) {t : TaskId} {k : Task V I} {eng : Engine V I} {l : LockId}
    {i : Instance V} (hk : w.tasks[t]? = some k) (he : w.engines[k.engine]? = some eng)
    (hp : k.work.inHand? = some (l, i.params)) (hi : w.instance? k.engine i.params.flow = some i)
    (hr : i.status = .running) (hn : k.work.acting? = none) : ¬ eng.definition.Arrived i := by
  intro harr
  obtain ⟨u, j, hu, -, hact⟩ := h.arrived _ eng _ i he hi hr harr
  -- The task that acts on the state has the flow in hand, so it would be this one.
  obtain ⟨l', q, hq, hst⟩ := Work.inHand?_of_acting? hact
  have hflow := (h.orderly.atWork u j l' q hu hq).2
  rw [hst] at hflow
  have hf : i.params.flow = q.flow := congrArg Prod.snd (Option.some.inj hflow)
  have htu := h.orderly.hand_unique hk hu hp hq hf
  subst htu
  rw [Option.some.inj (hk.symm.trans hu), hact] at hn
  cases hn

theorem initial (engines : List (Definition V I × List (Handler V I) × Nat)) :
    Poised (World.initial engines) where
  orderly := .initial engines
  acts t k f s i hk := by cases hk
  arrived e eng f i he hi := by
    rw [instance?_initial] at hi
    cases hi

theorem addTask (h : Poised w) (e : EngineId) {work : Work V I} (hs : work.stake? = none)
    (hin : work.inHand? = none) : Poised (w.addTask e work) where
  orderly := h.orderly.addTask e hs hin
  acts t k f s i hk hw hi := by
    rcases tasks_addTask.mp hk with hk | ⟨-, rfl⟩
    · exact h.acts t k f s i hk hw hi
    · obtain ⟨l, p, hp, -⟩ := Work.inHand?_of_acting? hw
      have hp : work.inHand? = some (l, p) := hp
      rw [hin] at hp
      cases hp
  arrived e' eng f i he hi hr harr := by
    obtain ⟨t, k, ht, hk⟩ := h.arrived e' eng f i he hi hr harr
    exact ⟨t, k, tasks_addTask.mpr (.inl ht), hk⟩

theorem opens {e : EngineId} {serial : Nat} {q : StartRequest V} {eng : Engine V I}
    {g : Registry} (h : Poised w) (ho : OpenStep w e serial q w' eng g) : Poised w' where
  orderly := h.orderly.opens ho
  acts t k f s i hk hw hi := by
    rcases ho.tasks.mp hk with hk | ⟨-, rfl⟩
    · obtain ⟨l, p, -, hst⟩ := Work.inHand?_of_acting? hw
      have hop := (h.orderly.stakes t k l f hk hst).2.1
      rw [ho.instance?, if_neg fun hc => ho.ne_of_opened hop hc.2] at hi
      exact h.acts t k f s i hk hw hi
    · cases hw
  arrived e' eng' f i he hi hr harr := by
    rw [ho.instance?] at hi
    split at hi
    · -- A flow that was just opened has entered nothing.
      cases hi
      exact absurd harr.1 (Nat.lt_irrefl 1)
    · obtain ⟨eng₀, he₀, hd, -⟩ := engine_of_change (.opens ho) he
      obtain ⟨t, k, ht, hk⟩ := h.arrived e' eng₀ f i he₀ hi hr (hd ▸ harr)
      exact ⟨t, k, ho.tasks.mpr (.inl ht), hk⟩

section Run

variable {t : TaskId} {reply : I.Reply} {task : Task V I} {eng : Engine V I} {d' : Desk V I}
  {work' : Work V I}

/-- After a step a task acts on the state that its flow is in. -/
theorem acts_run (h : Poised w) (hr : RunStep w t reply w' task eng d' work') {u : TaskId}
    {k : Task V I} {f : FlowId} {s : V.State} {i : Instance V} (hk : w'.tasks[u]? = some k)
    (hw : k.work.acting? = some (f, s)) (hi : w'.instance? k.engine f = some i) :
    i.state = s := by
  rw [hr.tasks] at hk
  split at hk
  · rename_i hu
    subst hu
    cases hk
    replace hw : work'.acting? = some (f, s) := hw
    replace hi : w'.instance? task.engine f = some i := hi
    rw [hr.instance?, if_pos rfl] at hi
    have hm := hr.move
    generalize hwork : task.work = work at hm
    cases hm with
    | @enter o g lock p event j s' _ hj _ _ =>
      cases hw
      -- The state was just entered.
      have hst := (h.orderly.atWork u task lock p hr.hasTask (by rw [hwork]; rfl)).2
      rw [hwork] at hst
      obtain rfl : f = p.flow := congrArg Prod.snd (Option.some.inj hst)
      have hent := Engine.instance?_enter
        (e := eng.record (.ofEvent p j.state (some s) event)) hj s event
      rw [Option.some.inj (hi.symm.trans hent), Definition.state_entered]
    | act _ =>
      exact h.acts u task f s i hr.hasTask (hwork ▸ hw) ((hr.instance?_self f).trans hi)
    | _ => cases hw
  · rename_i hu
    -- Another task leaves the state of the flow alone.
    obtain ⟨l, p, hin, hst⟩ := Work.inHand?_of_acting? hw
    rcases h.orderly.bearing hr k.engine f with ⟨-, hi'⟩ | ⟨-, -, -, hi'⟩ |
      ⟨-, -, hj, -, hi'⟩ | ⟨-, hkey, hin', -, -⟩
    · exact h.acts u k f s i hk hw (hi' ▸ hi)
    · rw [hi'] at hi
      cases hi
    · rcases hi' with hi' | ⟨-, hi'⟩
      · rw [hi'] at hi
        cases hi
        rw [Instance.state_finish]
        exact h.acts u k f s _ hk hw hj
      · rw [hi'] at hi
        cases hi
    · have hst' := (h.orderly.atWork u k l p hk hin).2
      rw [hst] at hst'
      have hf : f = p.flow := congrArg Prod.snd (Option.some.inj hst')
      exact absurd (h.orderly.hand_unique hk hr.hasTask hin hin' (hf.symm.trans hkey.symm)) hu

/-- A step of the task that has a flow in hand leaves it inside the action of the state that the
    flow arrived in, if the flow still runs. -/
theorem acting?_of_arrived (h : Poised w) (hr : RunStep w t reply w' task eng d' work')
    {l : LockId} {j i : Instance V} (hin : task.work.inHand? = some (l, j.params))
    (hj : w.instance? task.engine j.params.flow = some j) (hrun : j.status = .running)
    (hi : w'.instance? task.engine j.params.flow = some i) (hi' : i.status = .running)
    (harr : eng.definition.Arrived i) : work'.acting? = some (j.params.flow, i.state) := by
  have hst := (h.orderly.atWork t task l _ hr.hasTask hin).2
  have hj' : eng.instance? j.params.flow = some j := (hr.instance?_self _).symm.trans hj
  have hrunning : eng.running? j.params.flow = some j.params :=
    Engine.running?_of_instance? hj' hrun
  have hret := h.orderly.retired_self hr
  rw [hr.instance?, if_pos rfl] at hi
  -- A step that ends the flow leaves no flow that runs.
  have hquit : ∀ s, Desk.Quits ⟨w.registry, eng⟩ d' j.params s → False := by
    intro s hq
    have hgone := hq.running j.params.flow
    rw [if_pos rfl, Engine.running?_of_instance? hi hi'] at hgone
    cases hgone
  -- A task that takes an event, or is inside a handler, has a flow that has not arrived.
  have hidle : d'.engine.instance? j.params.flow = eng.instance? j.params.flow →
      task.work.acting? = none → False := by
    intro hsame hno
    rw [hsame, hj'] at hi
    cases hi
    exact h.not_arrived hr.hasTask hr.hasEngine hin hj hrun hno harr
  -- A task inside an action is inside that of the state of the flow.
  have hacts : ∀ s, task.work.acting? = some (j.params.flow, s) → j.state = s :=
    fun s hact => h.acts t task _ s j hr.hasTask hact hj
  have hm := hr.move
  generalize task.work = work at hm hin hst hidle hacts
  cases hm with
  | halt _ | handlerCancelled _ | actionCancelled _ =>
    cases hin
    exact (hquit _ ((Desk.Quits.finishCancelled hret _ w.now).passLock _)).elim
  | refuse _ _ _ _ =>
    cases hin
    exact (hquit _ ((Desk.Quits.reject hret hrunning _ _ w.now).passLock _)).elim
  | completed _ _ =>
    cases hin
    obtain ⟨s, hq⟩ := Desk.Quits.complete (d := ⟨w.registry, eng⟩) hret hrunning w.now
    exact (hquit s (hq.passLock _)).elim
  | lost _ hn =>
    cases hin
    have hn : eng.instance? j.params.flow = none := hn
    rw [hj'] at hn
    cases hn
  | hand _ _ _ | handle _ | handled | handlerFailed _ => exact (hidle rfl rfl).elim
  | @enter o flow lock p event j' s _ _ _ _ =>
    cases hin
    obtain rfl : flow = j.params.flow := congrArg Prod.snd (Option.some.inj hst)
    have hent := Engine.instance?_enter
      (e := eng.record (.ofEvent j.params j'.state (some s) event)) hj' s event
    rw [Option.some.inj (hi.symm.trans hent), Definition.state_entered]
    rfl
  | @act o flow lock p event s a _ =>
    cases hin
    obtain rfl : flow = j.params.flow := congrArg Prod.snd (Option.some.inj hst)
    obtain rfl := Option.some.inj (hi.symm.trans hj')
    rw [hacts s rfl]
    rfl
  | acted hs | actionFailed _ hs | parked hs =>
    -- The state is terminal, and its action would end the flow.
    cases hin
    obtain rfl : _ = j.params.flow := congrArg Prod.snd (Option.some.inj hst)
    obtain rfl := Option.some.inj (hi.symm.trans hj')
    have hter := harr.2
    rw [hacts _ rfl] at hter
    rw [hter] at hs
    cases hs
  | _ => cases hin

theorem run (h : Poised w) (hr : RunStep w t reply w' task eng d' work') : Poised w' where
  orderly := h.orderly.run hr
  acts u k f s i := h.acts_run hr
  arrived e eng' f i he hi hrun harr := by
    obtain ⟨eng₀, he₀, hd, -⟩ := engine_of_change (.runs hr) he
    -- If the task has the flow in hand, it acts on the state; else the task that did still does.
    have hkept : w'.instance? e f = w.instance? e f → ¬ task.Holds e f →
        ∃ (u : TaskId) (k : Task V I), w'.tasks[u]? = some k ∧ k.engine = e ∧
          k.work.acting? = some (f, i.state) := by
      intro hsame hn
      obtain ⟨u, k, hu, hke, hact⟩ := h.arrived e eng₀ f i he₀ (hsame ▸ hi) hrun (hd ▸ harr)
      refine ⟨u, k, ?_, hke, hact⟩
      rw [hr.tasks, if_neg]
      · exact hu
      · rintro rfl
        obtain rfl := Option.some.inj (hu.symm.trans hr.hasTask)
        obtain ⟨l, p, hin, hst⟩ := Work.inHand?_of_acting? hact
        have hst' := (h.orderly.atWork u k l p hu hin).2
        rw [hst] at hst'
        exact hn ⟨hke, l, p, hin, (congrArg Prod.snd (Option.some.inj hst')).symm⟩
    rcases h.orderly.bearing hr e f with ⟨hn, hsame⟩ | ⟨-, -, -, hi'⟩ | ⟨-, -, -, hrun', hi'⟩ |
      ⟨rfl, rfl, hin, hj, hrun'⟩
    · exact hkept hsame hn
    · rw [hi'] at hi
      cases hi
    · rcases hi' with hi' | ⟨-, hi'⟩
      · rw [hi'] at hi
        cases hi
        rw [Instance.status_finish_of_running hrun'] at hrun
        cases hrun
      · rw [hi'] at hi
        cases hi
    · obtain rfl := Option.some.inj (he₀.symm.trans hr.hasEngine)
      refine ⟨t, _, (hr.tasks t).trans (if_pos rfl), rfl, ?_⟩
      exact h.acting?_of_arrived hr hin hj hrun' hi hrun (hd ▸ harr)

end Run

theorem change {l : Label V I} (h : Poised w) (hc : Change w l w') : Poised w' := by
  cases hc with
  | opens ho => exact h.opens ho
  | refuses _ => exact h.addTask _ rfl rfl
  | delivers => exact h.addTask _ rfl rfl
  | cancels => exact h.addTask _ rfl rfl
  | runs hr => exact h.run hr
  | elapses => exact ⟨h.orderly.change .elapses, h.acts, h.arrived⟩

theorem reachable (h : Poised w) (hr : Reachable w w') : Poised w' := by
  induction hr with
  | refl => exact h
  | step l _ hs ih => exact ih.change (change_of_step hs)

theorem roomy (h : Poised w) : Poised w.roomy where
  orderly := h.orderly.roomy
  acts t k f s i hk hw hi := h.acts t k f s i hk hw (instance?_roomy w _ f ▸ hi)
  arrived e eng f i he hi hr harr := by
    obtain ⟨eng₀, he₀, rfl⟩ := engines_roomy he
    exact h.arrived e eng₀ f i he₀ (instance?_roomy w e f ▸ hi) hr harr

end Poised

end World

end ResourceFlow
