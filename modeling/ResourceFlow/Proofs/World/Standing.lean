import ResourceFlow.Proofs.Engine.Standing
import ResourceFlow.Proofs.World.Routing
import ResourceFlow.Proofs.World.Started
/-! # The inputs of a flow

  `World.input?` says what happens to a flow in a step, as an input of its run:
  it is opened, a task comes with an event, an event is taken or dropped, a
  handler or an action returns, a cancel ends it. Neither how the flow stands
  nor which task it is goes into that.

  `World.Stands` says where a flow stands, seen from the tasks and the engine:
  which task has it in hand, and what that is about to do. Every step takes a
  flow from where it stands to where the input leads (`World.Stands.step`). So
  in an execution the course of a flow is the replay of its inputs
  (`World.Execution.course`): which events were taken, and the instance.
-/

namespace ResourceFlow

variable {V : Vocabulary} {I : Interface}

/-! ### Inputs and invocations -/

/-- A call of a handler or an action. -/
inductive Invocation (V : Vocabulary) where
  /-- A handler is given an event of a flow. -/
  | handler (flow : FlowId) (event : V.Event)
  /-- The action of a state is given the parameters of a run and an event. -/
  | action (s : V.State) (p : FlowParameters) (event : V.Event)

/-- The call that follows from taking an event. -/
def Turn.invocation? (p : FlowParameters) (event : V.Event) : Turn V I → Option (Invocation V)
  | .handle _ => some (.handler p.flow event)
  | .act s => some (.action s p event)
  | .over _ => none

/-- The handler or the action that a task calls in its next step. -/
def Desk.invokes? (d : Desk V I) (now : Duration) : Work V I → Option (FlowId × Invocation V)
  | .process _ f (.ready _ p event) =>
    ((d.take p event now).2.invocation? p event).map fun call => (f, call)
  | _ => none

/-- The call that follows from an event that was taken. -/
def Taken.invocation? (x : Taken V) : Option (Invocation V) :=
  match x.fate with
  | .handed => some (.handler x.run.params.flow x.event)
  | .entered s => some (.action s x.run.params x.event)
  | .refused | .dropped => none

/-- What is called depends on what becomes of the event. -/
theorem Turn.invocation?_eq (turn : Turn V I) (i : Instance V) (event : V.Event) :
    turn.invocation? i.params event =
      turn.fate?.bind fun fate => (⟨i, event, fate⟩ : Taken V).invocation? := by
  cases turn with
  | handle h => rfl
  | act s => rfl
  | «over» outcome =>
    cases outcome with
    | ok _ => rfl
    | error error => cases error <;> rfl

/-- A task calls handlers and actions for the events that it takes. -/
theorem Desk.invokes?_eq {d : Desk V I} {work : Work V I} (now : Duration)
    (hin : ∀ lock p, work.inHand? = some (lock, p) →
      d.engine.running? p.flow = some p ∧ work.flow? = some p.flow) :
    d.invokes? now work = (d.taken? now work).bind fun x =>
      x.invocation?.map fun call => (x.run.params.flow, call) := by
  cases work with
  | process o f stage =>
    cases stage with
    | ready lock p event =>
      -- The parameters that the task works with are those of the run.
      obtain ⟨hrun, hf⟩ := hin lock p rfl
      obtain ⟨i, hi, -, rfl⟩ := Engine.running?_eq_some_iff.mp hrun
      obtain rfl : f = i.params.flow := Option.some.inj hf
      simp only [invokes?, taken?, hi, Turn.invocation?_eq, Option.bind_eq_bind, Option.bind_some]
      cases (d.take i.params event now).2.fate? <;> rfl
    | _ => rfl
  | _ => rfl

/-- What happens to a flow comes from the task that has it in hand, or from one that waits for its
    lock while it runs, with an event or to cancel it. -/
theorem Desk.input?_eq_some {d : Desk V I} {work : Work V I} {f : FlowId} {a : Input V}
    (h : d.input? work = some (f, a)) :
    (work.flow? = some f ∧ ∃ lock p, work.inHand? = some (lock, p)) ∨
    (d.engine.isRunning f = true ∧
      ((∃ o lock event, work = .process o f (.queued lock event) ∧ a = .came event) ∨
        ∃ r lock, work = .cancel r (.queued lock f))) := by
  unfold input? at h
  split at h
  · obtain ⟨hr, h⟩ := Option.ite_none_right_eq_some.mp h
    obtain ⟨rfl, rfl⟩ := Prod.mk.inj (Option.some.inj h)
    exact .inr ⟨hr, .inl ⟨_, _, _, rfl, rfl⟩⟩
  · cases h
    exact .inl ⟨rfl, _, _, rfl⟩
  · cases h
    exact .inl ⟨rfl, _, _, rfl⟩
  · cases h
    exact .inl ⟨rfl, _, _, rfl⟩
  · obtain ⟨hr, h⟩ := Option.ite_none_right_eq_some.mp h
    obtain ⟨rfl, rfl⟩ := Prod.mk.inj (Option.some.inj h)
    exact .inr ⟨hr, .inr ⟨_, _, rfl⟩⟩
  · cases h

/-- An action returns to the task that is inside it. -/
theorem Desk.input?_eq_acted {d : Desk V I} {work : Work V I} {f : FlowId} {r : ActionResult V}
    (h : d.input? work = some (f, .acted r)) :
    ∃ o lock p event s, work = .process o f (.acting lock p event s (.ended r)) := by
  unfold input? at h
  split at h
  · cases (Option.ite_none_right_eq_some.mp h).2
  · obtain ⟨-, h⟩ := Prod.mk.inj (Option.some.inj h)
    split at h <;> cases h
  · cases h
  · cases h
    exact ⟨_, _, _, _, _, rfl⟩
  · cases (Option.ite_none_right_eq_some.mp h).2
  · cases h

namespace World

variable {w w' : World V I} {e : EngineId} {f : FlowId}

/-- What a look at the work of a task says of flow `f` of engine `e`. -/
def glimpse? {α : Type} (w : World V I) (e : EngineId) (f : FlowId)
    (look : Desk V I → Work V I → Option (FlowId × α)) (t : TaskId) : Option α := do
  let k ← w.tasks[t]?
  let d ← w.desk? k.engine
  let (g, a) ← look d k.work
  if k.engine = e ∧ g = f then some a else none

/-- What happens to flow `f` of engine `e` in the next step. -/
def input? (w : World V I) (e : EngineId) (f : FlowId) : Label V I → Option (Input V)
  | .start e' serial q =>
    if e' = e ∧ f = .opened serial ∧ (w.lane? q.resourceId).isNone then
      (w.engines[e]?).map fun eng => .opened (q.params f eng.definition.flowType)
    else none
  | .run t _ => w.glimpse? e f Desk.input? t
  | _ => none

/-- The handler or the action that is called for flow `f` of engine `e` in the next step. -/
def invoked? (w : World V I) (e : EngineId) (f : FlowId) : Label V I → Option (Invocation V)
  | .run t _ => w.glimpse? e f (·.invokes? w.now) t
  | _ => none

theorem glimpse?_eq {α : Type} {look : Desk V I → Work V I → Option (FlowId × α)} {t : TaskId}
    {k : Task V I} {eng : Engine V I} (hk : w.tasks[t]? = some k)
    (he : w.engines[k.engine]? = some eng) :
    w.glimpse? e f look t = (look ⟨w.registry, eng⟩ k.work).bind fun x =>
      if k.engine = e ∧ x.1 = f then some x.2 else none := by
  unfold glimpse? desk?
  simp [hk, he]

/-- A task that has a flow in hand processes its events. -/
theorem Orderly.flow?_of_inHand (h : Orderly w) {t : TaskId} {k : Task V I} {lock : LockId}
    {p : FlowParameters} (hk : w.tasks[t]? = some k) (hin : k.work.inHand? = some (lock, p)) :
    k.work.flow? = some p.flow := by
  have hst := (h.atWork t k lock p hk hin).2
  obtain ⟨o, g, stage, hw, hst'⟩ := Work.stake?_of_inHand? hin
  obtain ⟨-, rfl⟩ := Prod.mk.inj (Option.some.inj (hst.symm.trans hst'))
  rw [hw]
  rfl

/-- Of a flow, handlers and actions are called for the events that are taken. -/
theorem invoked?_eq (h : Orderly w) (l : Label V I) :
    w.invoked? e f l = (w.taken? e f l).bind Taken.invocation? := by
  cases l with
  | run t reply =>
    cases hk : w.tasks[t]? with
    | none => simp [invoked?, glimpse?, taken?, hk]
    | some k =>
      cases he : w.engines[k.engine]? with
      | none => simp [invoked?, glimpse?, taken?, desk?, hk, he]
      | some eng =>
        have hin : ∀ lock p, k.work.inHand? = some (lock, p) →
            eng.running? p.flow = some p ∧ k.work.flow? = some p.flow := by
          intro lock p hin
          obtain ⟨hrun, -⟩ := h.atWork t k lock p hk hin
          unfold running? at hrun
          rw [he] at hrun
          exact ⟨hrun, h.flow?_of_inHand hk hin⟩
        have hinvoked : w.invoked? e f (.run t reply) = _ := glimpse?_eq hk he
        rw [hinvoked, Desk.invokes?_eq (d := ⟨w.registry, eng⟩) w.now hin]
        unfold taken? desk?
        simp only [hk, he, Option.bind_eq_bind, Option.bind_some, Option.map_some]
        cases (⟨w.registry, eng⟩ : Desk V I).taken? w.now k.work with
        | none => rfl
        | some x =>
          by_cases hf : k.engine = e ∧ x.run.params.flow = f <;>
            cases hx : x.invocation? <;> simp [Option.filter, hf, hx]
  | _ => rfl

/-! ### Inputs in a step of a task -/

namespace RunStep

variable {t : TaskId} {reply : I.Reply} {task : Task V I} {eng : Engine V I} {d' : Desk V I}
  {work' : Work V I}

theorem input?_eq (hr : RunStep w t reply w' task eng d' work') :
    w.input? e f (.run t reply) = (Desk.input? ⟨w.registry, eng⟩ task.work).bind fun x =>
      if task.engine = e ∧ x.1 = f then some x.2 else none :=
  glimpse?_eq hr.hasTask hr.hasEngine

/-- The event that a task takes is one of the flow it has in hand. -/
theorem taken?_eq (hr : RunStep w t reply w' task eng d' work') {i : Instance V} {lock : LockId}
    (hw : task.work.inHand? = some (lock, i.params))
    (hi : eng.instance? i.params.flow = some i) :
    w.taken? task.engine i.params.flow (.run t reply) =
      (⟨w.registry, eng⟩ : Desk V I).taken? w.now task.work := by
  rw [taken?_run hr.hasTask hr.hasEngine]
  cases hx : (⟨w.registry, eng⟩ : Desk V I).taken? w.now task.work with
  | none => rfl
  | some x =>
    obtain ⟨o, g, l, p, hwork, hj⟩ := Desk.taken?_eq_some hx
    rw [hwork] at hw
    cases hw
    obtain rfl := Option.some.inj (hi.symm.trans hj)
    simp [Option.filter]

/-- Something happens to a flow that a task has not got in hand only while the flow runs and the
    task waits for its lock. -/
theorem waiting_of_input? (hr : RunStep w t reply w' task eng d' work') (h : Orderly w)
    (hn : ¬ task.Holds e f) {a : Input V} (ha : w.input? e f (.run t reply) = some a) :
    task.engine = e ∧ (∃ i, eng.instance? f = some i ∧ i.status = .running) ∧
      ((∃ o lock event, task.work = .process o f (.queued lock event) ∧ a = .came event) ∨
        ∃ r lock, task.work = .cancel r (.queued lock f)) := by
  rw [hr.input?_eq] at ha
  obtain ⟨⟨g, b⟩, hin, ha⟩ := Option.bind_eq_some_iff.mp ha
  obtain ⟨⟨rfl, rfl⟩, hab⟩ := Option.ite_none_right_eq_some.mp ha
  obtain rfl := Option.some.inj hab
  rcases Desk.input?_eq_some hin with ⟨hf, lock, p, hp⟩ | ⟨hran, hw⟩
  · exact absurd ⟨rfl, lock, p, hp, h.flow_eq hr.hasTask hp hf⟩ hn
  · exact ⟨rfl, Engine.isRunning_iff.mp hran, hw⟩

/-- Nothing happens to a flow that a task neither has in hand nor gets hold of, and whose instance
    stays as it is. -/
theorem input?_aside (hr : RunStep w t reply w' task eng d' work') (h : Orderly w)
    (hn : ¬ task.Holds e f) (hn' : ¬ (⟨task.engine, work'⟩ : Task V I).Holds e f)
    (hi : w'.instance? e f = w.instance? e f) : w.input? e f (.run t reply) = none := by
  rw [Option.eq_none_iff_forall_ne_some]
  intro a ha
  obtain ⟨rfl, ⟨i, hj, hrun⟩, hw⟩ := hr.waiting_of_input? h hn ha
  have hkey := (h.keyed _ _ _ ((hr.instance?_self _).trans hj)).1
  have hm := hr.move
  rcases hw with ⟨o, lock, event, hw, -⟩ | ⟨r, lock, hw⟩
  · -- The flow runs, so the task would have got hold of it.
    rw [hw] at hm
    cases hm with
    | forgotten _ hj' =>
      rw [hj] at hj'
      cases hj'
    | late _ hj' hend =>
      obtain rfl := Option.some.inj (hj.symm.trans hj')
      exact hend hrun
    | admitted _ hj' _ =>
      obtain rfl := Option.some.inj (hj.symm.trans hj')
      exact hn' ⟨rfl, lock, i.params, rfl, hkey⟩
  · -- The flow runs, so the cancel would have ended it.
    rw [hr.instance?, if_pos rfl, hr.instance?_self] at hi
    rw [hw] at hm
    cases hm with
    | gone _ hj' =>
      rw [hj] at hj'
      cases hj'
    | finish _ hj' =>
      obtain rfl := Option.some.inj (hj.symm.trans hj')
      subst hkey
      rcases Desk.instance?_conclude_self (d := ⟨w.registry, eng⟩) hj hrun .cancelled w.now with
        hi' | ⟨-, hi'⟩
      · have hsame := congrArg Instance.status (Option.some.inj ((hi'.symm.trans hi).trans hj))
        rw [Instance.status_finish_of_running hrun, hrun] at hsame
        cases hsame
      · cases (hi'.symm.trans hi).trans hj

end RunStep

/-! ### Where a flow stands -/

/-- Where flow `f` of engine `e` stands. -/
inductive Stands (w : World V I) (e : EngineId) (f : FlowId) : Standing V → Prop where
  /-- The engine has no instance of it. -/
  | unopened (hn : w.instance? e f = none) : Stands w e f .unopened
  /-- It runs, and no task has it in hand. -/
  | idle {i : Instance V} (hi : w.instance? e f = some i) (hr : i.status = .running)
      (hn : ∀ (t : TaskId) (k : Task V I), w.tasks[t]? = some k → ¬ k.Holds e f) :
      Stands w e f (.idle i.untimed)
  /-- It runs, and a task has it in hand. -/
  | held {i : Instance V} {t : TaskId} {k : Task V I} {s : Standing V}
      (hi : w.instance? e f = some i) (hr : i.status = .running) (hk : w.tasks[t]? = some k)
      (hold : k.Holds e f) (hd : k.work.Doing i s) : Stands w e f s
  /-- It has ended, and is perhaps forgotten. -/
  | ended {i : Instance V} (hop : w.Opened f)
      (hi : ∀ j, w.instance? e f = some j → j.status ≠ .running ∧ j.untimed = i) :
      Stands w e f (.ended i)

namespace Stands

variable {s : Standing V}

/-- What the task that has a flow in hand does, says where the flow stands. -/
theorem doing (hs : Stands w e f s) (h : Orderly w) {t : TaskId} {k : Task V I}
    (hk : w.tasks[t]? = some k) (hold : k.Holds e f) {i : Instance V}
    (hi : w.instance? e f = some i) (hr : i.status = .running) : k.work.Doing i s := by
  cases hs with
  | unopened hn =>
    rw [hn] at hi
    cases hi
  | idle _ _ hn => exact absurd hold (hn t k hk)
  | held hj _ hu hold' hd =>
    obtain rfl := h.holds_unique hk hu hold hold'
    obtain rfl := Option.some.inj (hk.symm.trans hu)
    obtain rfl := Option.some.inj (hi.symm.trans hj)
    exact hd
  | ended _ hj => exact absurd hr (hj i hi).1

/-- A flow that runs and that no task has in hand is idle. -/
theorem eq_idle (hs : Stands w e f s) {i : Instance V} (hi : w.instance? e f = some i)
    (hr : i.status = .running)
    (hn : ∀ (t : TaskId) (k : Task V I), w.tasks[t]? = some k → ¬ k.Holds e f) :
    s = .idle i.untimed := by
  cases hs with
  | unopened hno =>
    rw [hno] at hi
    cases hi
  | idle hj =>
    obtain rfl := Option.some.inj (hi.symm.trans hj)
    rfl
  | held _ _ hu hold => exact absurd hold (hn _ _ hu)
  | ended _ hj => exact absurd hr (hj i hi).1

/-- A flow that does not run is not opened, or has ended. -/
theorem of_ended (hop : w.Opened f) {j : Instance V} (hj : j.status ≠ .running)
    (hi : w.instance? e f = some j ∨ w.instance? e f = none) :
    Stands w e f (.ended j.untimed) := by
  refine .ended hop fun k hk => ?_
  rcases hi with hi | hi
  · obtain rfl := Option.some.inj (hi.symm.trans hk)
    exact ⟨hj, rfl⟩
  · rw [hi] at hk
    cases hk

/-- A flow stands where it stood if its instance and the task that has it in hand are the same. -/
theorem kept (hs : Stands w e f s) (hi : w'.instance? e f = w.instance? e f)
    (hop : w.Opened f → w'.Opened f)
    (ht : ∀ (t : TaskId) (k : Task V I), k.Holds e f →
      (w'.tasks[t]? = some k ↔ w.tasks[t]? = some k)) : Stands w' e f s := by
  cases hs with
  | unopened hn => exact .unopened (hi.trans hn)
  | idle hj hr hn =>
    exact .idle (hi.trans hj) hr fun t k hk hold => hn t k ((ht t k hold).mp hk) hold
  | held hj hr hk hold hd => exact .held (hi.trans hj) hr ((ht _ _ hold).mpr hk) hold hd
  | ended ho hj => exact .ended (hop ho) fun j hj' => hj j (hi ▸ hj')

/-- A new task that has nothing in hand is no concern of the flow. -/
theorem addTask (hs : Stands w e f s) (e' : EngineId) {work : Work V I}
    (hin : work.inHand? = none) : Stands (w.addTask e' work) e f s := by
  refine hs.kept rfl id fun t k hold => ?_
  rw [tasks_addTask]
  refine or_iff_left ?_
  rintro ⟨-, rfl⟩
  obtain ⟨-, l, p, hp, -⟩ := hold
  have hp : work.inHand? = some (l, p) := hp
  rw [hin] at hp
  cases hp

/-! Steps of tasks. -/

section Run

variable {t : TaskId} {reply : I.Reply} {task : Task V I} {eng : Engine V I} {d' : Desk V I}
  {work' : Work V I}

/-- The task that has the flow in hand takes a step. -/
theorem run_own (hs : Stands w e f s) (h : Orderly w)
    (hr : RunStep w t reply w' task eng d' work') {i : Instance V} {lock : LockId}
    (he : task.engine = e) (hk : i.params.flow = f)
    (hw : task.work.inHand? = some (lock, i.params)) (hi : w.instance? e f = some i)
    (hrun : i.status = .running) :
    ∃ s', Stands w' e f s' ∧ (eng.definition.outline eng.dispatcher).Passes s
      (w.input? e f (.run t reply)) (w.taken? e f (.run t reply)) s' := by
  subst he hk
  have hold : task.Holds task.engine i.params.flow := ⟨rfl, lock, i.params, hw, rfl⟩
  have hi' : eng.instance? i.params.flow = some i := (hr.instance?_self _).symm.trans hi
  have hdoing := hs.doing h hr.hasTask hold hi hrun
  obtain ⟨a, s', hin, hpass, hleaves⟩ :=
    hr.move.passes hdoing hi' hrun (h.atWork t task lock _ hr.hasTask hw).2
  have hinput : w.input? task.engine i.params.flow (.run t reply) = a := by
    rw [hr.input?_eq, hin]
    cases a <;> simp
  refine ⟨s', ?_, hinput.symm ▸ (hr.taken?_eq hw hi').symm ▸ hpass⟩
  have hdesk : w'.instance? task.engine i.params.flow = d'.engine.instance? i.params.flow := by
    rw [hr.instance?, if_pos rfl]
  have hself := hr.tasks t
  rw [if_pos rfl] at hself
  cases hleaves with
  | held hj hrun' hd =>
    have hkey := ((h.run hr).keyed _ _ _ (hdesk.trans hj)).1
    obtain ⟨l, hin'⟩ := hd.inHand?
    exact .held (hdesk.trans hj) hrun' hself ⟨rfl, l, _, hin', hkey⟩ hd
  | parked hj hrun' hnone =>
    refine .idle (hdesk.trans hj) hrun' fun u k hu hold' => ?_
    rw [hr.tasks] at hu
    split at hu
    · cases hu
      obtain ⟨-, l, p, hin', -⟩ := hold'
      have hin' : work'.inHand? = some (l, p) := hin'
      rw [hnone] at hin'
      cases hin'
    · -- No other task had the flow in hand.
      rename_i hne
      exact hne (h.holds_unique hu hr.hasTask hold' hold)
  | ended hend hj =>
    refine of_ended ?_ hend (hj.imp hdesk.trans hdesk.trans)
    exact (hr.opened _).mpr (h.keyed _ _ _ hi).2

/-- A task whose step leaves the flow in nobody else's hand keeps the flow where it stands. -/
theorem run_kept (hs : Stands w e f s) (hr : RunStep w t reply w' task eng d' work')
    (hn : ¬ task.Holds e f) (hn' : ¬ (⟨task.engine, work'⟩ : Task V I).Holds e f)
    (hi : w'.instance? e f = w.instance? e f) : Stands w' e f s := by
  refine hs.kept hi (hr.opened f).mpr fun u k hold => ?_
  rw [hr.tasks]
  split
  · rename_i hu
    rw [hu, hr.hasTask, Option.some.injEq, Option.some.injEq]
    exact iff_of_false (fun hk => hn' (hk ▸ hold)) fun hk => hn (hk ▸ hold)
  · rfl

/-- A task that waits for the lock of a flow gets hold of it, with an event. -/
theorem run_came (hs : Stands w e f s) (h : Orderly w)
    (hr : RunStep w t reply w' task eng d' work') (hn : ¬ task.Holds e f)
    (hold : (⟨task.engine, work'⟩ : Task V I).Holds e f)
    (hi : w'.instance? e f = w.instance? e f) : ∃ s', Stands w' e f s' ∧
      ∀ o : Outline V, o.Passes s (w.input? e f (.run t reply)) none s' := by
  have hself := hr.tasks t
  rw [if_pos rfl] at hself
  obtain ⟨he, lock, p, hin, hf⟩ := hold
  obtain rfl : task.engine = e := he
  have hin : work'.inHand? = some (lock, p) := hin
  rcases hr.move.inHand? hin with hin' | ⟨o, g, event, hwork, hrun⟩
  · exact absurd ⟨rfl, lock, p, hin', hf⟩ hn
  -- It waited with an event of this flow, which runs.
  obtain ⟨i, hj, hrunning, rfl⟩ := Engine.running?_eq_some_iff.mp hrun
  have hj : w.instance? task.engine g = some i := (hr.instance?_self g).trans hj
  obtain rfl : g = f := (h.keyed _ _ _ hj).1.symm.trans hf
  obtain rfl : work' = .process o g (.ready lock i.params event) := by
    have hm := hr.move
    rw [hwork] at hm
    cases hm with
    | admitted _ hj' _ =>
      rw [Option.some.inj (((hr.instance?_self g).symm.trans hj).symm.trans hj')]
    | _ => cases hin
  -- Nobody else has the flow in hand, before the step as after it.
  have hidle : ∀ (u : TaskId) (k : Task V I), w.tasks[u]? = some k → ¬ k.Holds task.engine g := by
    intro u k hk hold
    have hu : u ≠ t := by
      rintro rfl
      exact hn (Option.some.inj (hk.symm.trans hr.hasTask) ▸ hold)
    have hk' : w'.tasks[u]? = some k := by rw [hr.tasks, if_neg hu, hk]
    exact hu ((h.run hr).holds_unique hk' hself hold ⟨rfl, lock, i.params, rfl, hf⟩)
  obtain rfl := hs.eq_idle hj hrunning hidle
  have hran : eng.isRunning g = true :=
    Engine.isRunning_iff.mpr ⟨i, (hr.instance?_self g).symm.trans hj, hrunning⟩
  have hinput : w.input? task.engine g (.run t reply) = some (.came event) := by
    rw [hr.input?_eq, hwork]
    simp [Desk.input?, hran]
  rw [hinput]
  exact ⟨.hand i.untimed event,
    .held (hi.trans hj) hrunning hself ⟨rfl, lock, i.params, rfl, hf⟩ .ready, fun o => ⟨rfl, rfl⟩⟩

/-- A task that cancels the flow ends it; nobody has it in hand then. -/
theorem run_stopped (hs : Stands w e f s) (h : Orderly w)
    (hr : RunStep w t reply w' task eng d' work') {i : Instance V} {r : ResourceId} {lock : LockId}
    (he : task.engine = e) (hw : task.work = .cancel r (.queued lock f))
    (hi : w.instance? e f = some i) (hrun : i.status = .running)
    (hi' : w'.instance? e f = some (i.finish .cancelled w.now) ∨ w'.instance? e f = none) :
    ∃ s', Stands w' e f s' ∧
      ∀ o : Outline V, o.Passes s (w.input? e f (.run t reply)) none s' := by
  subst he
  have hkey := (h.keyed _ _ _ hi).1
  have hran : eng.isRunning f = true :=
    Engine.isRunning_iff.mpr ⟨i, (hr.instance?_self f).symm.trans hi, hrun⟩
  -- The task holds the lock that came with the lane of the flow.
  have hheld : (w.registry.lanes.lock lock).holder = some t := by
    have hm := hr.move
    rw [hw] at hm
    cases hm with
    | gone hh _ | finish hh _ => exact Lanes.isHeldBy_iff.mp hh
  have hidle : ∀ (u : TaskId) (k : Task V I), w.tasks[u]? = some k → ¬ k.Holds task.engine f := by
    rintro u k hk ⟨-, lock', p, hin, hf⟩
    obtain ⟨hrunning, hst⟩ := h.atWork u k lock' p hk hin
    obtain ⟨lane, hl, hflow⟩ := h.occupies _ _ _ hrunning
    have h₁ := ((h.stakes u k lock' _ hk hst).2.2 _ lane hl).mp hflow
    have h₂ := ((h.stakes t task lock f hr.hasTask (by rw [hw]; rfl)).2.2 _ lane hl).mp
      (hflow.trans hf)
    have hu := h.queues.inHand u k lock' p hk hin
    rw [← h₁, h₂, hheld] at hu
    obtain rfl := Option.some.inj hu
    rw [Option.some.inj (hk.symm.trans hr.hasTask), hw] at hin
    cases hin
  obtain rfl := hs.eq_idle hi hrun hidle
  have hinput : w.input? task.engine f (.run t reply) = some .stopped := by
    rw [hr.input?_eq, hw]
    simp [Desk.input?, hran]
  rw [hinput]
  refine ⟨.ended (i.untimed.finish .cancelled 0), ?_, fun o => ⟨rfl, rfl⟩⟩
  rw [← Instance.untimed_finish_zero i .cancelled w.now]
  refine of_ended ((hr.opened f).mpr (h.keyed _ _ _ hi).2) ?_ hi'
  rw [Instance.status_finish_of_running hrun]
  decide

/-- A flow that had ended is forgotten. -/
theorem run_forgets (hs : Stands w e f s) (h : Orderly w)
    (hr : RunStep w t reply w' task eng d' work') {i : Instance V} (hn : ¬ task.Holds e f)
    (hi : w.instance? e f = some i) (hend : i.status ≠ .running)
    (hi' : w'.instance? e f = none) : Stands w' e f s ∧ w.input? e f (.run t reply) = none := by
  constructor
  · cases hs with
    | unopened hno =>
      rw [hno] at hi
      cases hi
    | idle hj hrun =>
      obtain rfl := Option.some.inj (hi.symm.trans hj)
      exact absurd hrun hend
    | held hj hrun =>
      obtain rfl := Option.some.inj (hi.symm.trans hj)
      exact absurd hrun hend
    | ended hop hj =>
      refine .ended ((hr.opened f).mpr hop) fun j hj' => ?_
      rw [hi'] at hj'
      cases hj'
  · rw [Option.eq_none_iff_forall_ne_some]
    intro a ha
    obtain ⟨rfl, ⟨j, hj, hrun⟩, -⟩ := hr.waiting_of_input? h hn ha
    obtain rfl := Option.some.inj (hi.symm.trans ((hr.instance?_self f).trans hj))
    exact hend hrun

/-- Every step of a task takes a flow from where it stands to where the input leads. -/
theorem run (hs : Stands w e f s) (h : Orderly w) (hr : RunStep w t reply w' task eng d' work')
    {eng₀ : Engine V I} (he : w.engines[e]? = some eng₀) :
    ∃ s', Stands w' e f s' ∧ (eng₀.definition.outline eng₀.dispatcher).Passes s
      (w.input? e f (.run t reply)) (w.taken? e f (.run t reply)) s' := by
  cases h.bearing hr e f with
  | aside hn hi =>
    rw [taken?_of_not_holds h hr.hasTask hn]
    by_cases hn' : (⟨task.engine, work'⟩ : Task V I).Holds e f
    · obtain ⟨s', hs', hpass⟩ := hs.run_came h hr hn hn' hi
      exact ⟨s', hs', hpass _⟩
    · rw [hr.input?_aside h hn hn' hi]
      exact ⟨s, hs.run_kept hr hn hn' hi, rfl, rfl⟩
  | forgets hn hi hend hi' =>
    obtain ⟨hs', hinput⟩ := hs.run_forgets h hr hn hi hend hi'
    rw [taken?_of_not_holds h hr.hasTask hn, hinput]
    exact ⟨s, hs', rfl, rfl⟩
  | cancels hee hw hi hrun hi' =>
    obtain ⟨s', hs', hpass⟩ := hs.run_stopped h hr hee hw hi hrun (hi'.imp_right And.right)
    rw [taken?_of_not_holds h hr.hasTask]
    · exact ⟨s', hs', hpass _⟩
    · rintro ⟨-, l, p, hin, -⟩
      rw [hw] at hin
      cases hin
  | own hee hkey hw hi hrun =>
    subst hee
    obtain rfl := Option.some.inj (he.symm.trans hr.hasEngine)
    exact hs.run_own h hr rfl hkey hw hi hrun

end Run

/-! Requests. -/

section Opens

variable {e' : EngineId} {serial : Nat} {q : StartRequest V} {eng : Engine V I} {g : Registry}

/-- A flow that is opened has not been opened before. -/
theorem eq_unopened (hs : Stands w e f s) (h : Orderly w) (hop : ¬ w.Opened f) :
    s = .unopened := by
  cases hs with
  | unopened => rfl
  | idle hi => exact absurd (h.keyed _ _ _ hi).2 hop
  | held hi => exact absurd (h.keyed _ _ _ hi).2 hop
  | ended ho => exact absurd ho hop

/-- A flow that was just opened waits for an event. -/
theorem opens_self (h : Orderly w) (ho : OpenStep w e serial q w' eng g) :
    Stands w' e (.opened serial) (.idle
      (.new (q.params (.opened serial) eng.definition.flowType) eng.definition.initial)) := by
  refine .idle ((ho.instance? _ _).trans (if_pos ⟨rfl, rfl⟩)) rfl fun t k hk hold => ?_
  rcases ho.tasks.mp hk with hk | ⟨-, rfl⟩
  · obtain ⟨p, hp⟩ := Option.ne_none_iff_exists'.mp (h.runs_of_holds hk hold)
    exact ho.ne_of_opened (h.running_keyed hp).2 rfl
  · obtain ⟨-, l, p, hin, -⟩ := hold
    cases hin

/-- When another flow is opened, the flow stands where it stood. -/
theorem opens_other (hs : Stands w e f s) (ho : OpenStep w e' serial q w' eng g)
    (hne : ¬ (e = e' ∧ f = .opened serial)) : Stands w' e f s := by
  refine hs.kept ((ho.instance? _ _).trans (if_neg hne)) ho.opened_of_opened fun t k hold => ?_
  rw [ho.tasks]
  refine or_iff_left ?_
  rintro ⟨-, rfl⟩
  obtain ⟨-, l, p, hin, -⟩ := hold
  cases hin

end Opens

/-- Every step takes a flow from where it stands to where the input leads. -/
theorem step (hs : Stands w e f s) (h : Orderly w) {l : Label V I} (hstep : w.step l = some w')
    {eng : Engine V I} (he : w.engines[e]? = some eng) :
    ∃ s', Stands w' e f s' ∧
      (eng.definition.outline eng.dispatcher).Passes s (w.input? e f l) (w.taken? e f l) s' := by
  have hc := change_of_step hstep
  cases hc with
  | delivers | cancels => exact ⟨s, hs.addTask _ rfl, rfl, rfl⟩
  | elapses => exact ⟨s, hs.kept rfl id fun _ _ _ => Iff.rfl, rfl, rfl⟩
  | runs hr => exact hs.run h hr he
  | @refuses e' serial q err =>
    have hinput : w.input? e f (.start e' serial q) = none := by
      refine if_neg fun ⟨_, _, hfree⟩ => ?_
      -- On a free lane the flow would have been opened.
      obtain ⟨eng', g, ho⟩ := openStep_of_free hstep (Option.isNone_iff_eq_none.mp hfree)
      have htask := List.append_cancel_left (congrArg World.tasks ho.result)
      cases (List.cons.inj htask).1
    rw [hinput]
    exact ⟨s, hs.addTask _ rfl, rfl, rfl⟩
  | @opens e' serial q _ eng' g ho =>
    by_cases hself : e = e' ∧ f = .opened serial
    · obtain ⟨rfl, rfl⟩ := hself
      obtain rfl := Option.some.inj (he.symm.trans ho.hasEngine)
      have hinput : w.input? e (.opened serial) (.start e serial q) =
          some (.opened (q.params (.opened serial) eng.definition.flowType)) := by
        simp [input?, ho.free, he]
      obtain rfl := hs.eq_unopened h fun hop => ho.ne_of_opened hop rfl
      rw [hinput]
      exact ⟨_, opens_self h ho, rfl, rfl⟩
    · have hinput : w.input? e f (.start e' serial q) = none :=
        if_neg fun hef => hself ⟨hef.1.symm, hef.2.1⟩
      rw [hinput]
      exact ⟨s, hs.opens_other ho hself, rfl, rfl⟩

/-- There are no flows at the start. -/
theorem initial (engines : List (Definition V I × List (Handler V I) × Nat)) (e : EngineId)
    (f : FlowId) : Stands (World.initial engines) e f .unopened :=
  .unopened (instance?_initial engines e f)

/-- Where a flow stands does not depend on what is forgotten. -/
theorem roomy (hs : Stands w e f s) : Stands w.roomy e f s :=
  hs.kept (instance?_roomy w e f) id fun _ _ _ => Iff.rfl

/-- The instance of a flow is the run that stands there. -/
theorem run?_eq (hs : Stands w e f s) {i : Instance V} (hi : w.instance? e f = some i) :
    s.run? = some i.untimed := by
  cases hs with
  | unopened hn =>
    rw [hn] at hi
    cases hi
  | idle hj => rw [Option.some.inj (hi.symm.trans hj)]; rfl
  | held hj _ _ _ hd =>
    rw [Option.some.inj (hi.symm.trans hj)]
    exact hd.run?_eq
  | ended _ hj => exact congrArg some (hj i hi).2.symm

end Stands

/-- What happens to a flow does not depend on what is forgotten. -/
theorem input?_roomy (w : World V I) (e : EngineId) (f : FlowId) (l : Label V I) :
    w.roomy.input? e f l = w.input? e f l := by
  have hengine : ∀ e, w.roomy.engines[e]? = (w.engines[e]?).map Engine.roomy :=
    fun e => List.getElem?_map
  cases l with
  | start e' serial q =>
    unfold input?
    rw [hengine]
    cases w.engines[e]? <;> rfl
  | run t reply =>
    unfold input? glimpse? desk?
    simp only [hengine]
    cases hk : w.tasks[t]? with
    | none => simp [roomy, hk]
    | some k =>
      cases he : w.engines[k.engine]? with
      | none => simp [roomy, hk, he]
      | some eng =>
        simp [roomy, hk, he]
        rfl
  | _ => rfl

/-! ### Over an execution -/

namespace Execution

variable {E : Execution V I} {engines : List (Definition V I × List (Handler V I) × Nat)}
  {d : Definition V I} {hs : List (Handler V I)} {retention : Nat}

/-- What happened to flow `f` of engine `e` in the first steps. -/
def inputs (E : Execution V I) (e : EngineId) (f : FlowId) : Nat → List (Input V)
  | 0 => []
  | n + 1 => E.inputs e f n ++ ((E.world n).input? e f (E.label n)).toList

/-- The handlers and actions that were called for flow `f` of engine `e` in the first steps. -/
def invocations (E : Execution V I) (e : EngineId) (f : FlowId) : Nat → List (Invocation V)
  | 0 => []
  | n + 1 => E.invocations e f n ++ ((E.world n).invoked? e f (E.label n)).toList

/-- Handlers and actions were called for the events that were taken. -/
theorem invocations_eq (h₀ : E.world 0 = initial engines) (n : Nat) :
    E.invocations e f n = (E.taken e f n).filterMap Taken.invocation? := by
  induction n with
  | zero => rfl
  | succ n ih => rw [invocations, ih, filterMap_taken, invoked?_eq (poised h₀ n).orderly]

/-- The course of a flow is the replay of what happened to it. -/
theorem course (h₀ : E.world 0 = initial engines) (he : engines[e]? = some (d, hs, retention))
    (f : FlowId) (n : Nat) : ∃ c, (d.outline (.ofList hs)).course (E.inputs e f n) = some c ∧
      c.taken = (E.taken e f n).map Taken.untimed ∧ Stands (E.world n) e f c.standing := by
  induction n with
  | zero => exact ⟨{}, rfl, rfl, h₀ ▸ .initial engines e f⟩
  | succ n ih =>
    obtain ⟨c, hc, htaken, hs'⟩ := ih
    obtain ⟨eng, heng, rfl, hh⟩ := engine h₀ he n
    obtain ⟨s', hstands, hpass⟩ := hs'.step (poised h₀ n).orderly (E.step n) heng
    refine ⟨_, (hh ▸ hpass).course hc, ?_, hstands⟩
    rw [taken, List.map_append, htaken]
    cases (E.world n).taken? e f (E.label n) <;> rfl

/-- The instance of a flow is where the replay of what happened to it leads. -/
theorem course_of_shows (h₀ : E.world 0 = initial engines)
    (he : engines[e]? = some (d, hs, retention)) {n : Nat} {i : Instance V}
    (hi : E.Shows e f n i) : ∃ c, (d.outline (.ofList hs)).course (E.inputs e f n) = some c ∧
      c.standing.run? = some i.untimed := by
  cases hi with
  | kept hi =>
    obtain ⟨c, hc, -, hstands⟩ := course h₀ he f n
    exact ⟨c, hc, hstands.run?_eq hi⟩
  | @roomy n w₁ _ hstep hi =>
    -- Also where there is room, the flow goes from where it stands to where the input leads.
    obtain ⟨c, hc, -, hstands⟩ := course h₀ he f n
    obtain ⟨eng, heng, rfl, hh⟩ := engine h₀ he n
    obtain ⟨s', hstands', hpass⟩ :=
      hstands.roomy.step (poised h₀ n).orderly.roomy hstep (engine_roomy heng)
    rw [input?_roomy] at hpass
    exact ⟨_, (hh ▸ hpass).course hc, hstands'.run?_eq hi⟩

end Execution

end World

end ResourceFlow
