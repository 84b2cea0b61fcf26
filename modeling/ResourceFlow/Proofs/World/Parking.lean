import ResourceFlow.Proofs.World.Standing
/-! # Parked flows

  A flow whose action returned without an event is parked: its task lets go of
  the lane, and nothing happens to it until an event comes from outside or a
  cancel ends it (`World.Parked.input?`). If an event is delivered to it and
  nothing else gets in the way, then in a fair execution that event is the next
  thing that happens to it (`World.Execution.Parks.resumes`).

  So what happens to the flow is what happens to one whose action returned with
  the event, but for the parking, and a parking is no part of the course of a
  run (`Unparked.course_eq`). The main result is `World.parking_transparent`.
-/

namespace ResourceFlow

variable {V : Vocabulary} {I : Interface}

/-- The task comes to flow `f` with event `x`, and has not got hold of the lane yet. -/
inductive Work.Brings (f : FlowId) (x : V.Event) : Work V I → Prop where
  /-- It has not looked at the flow. -/
  | arriving {o : Origin} : Brings f x (.process o f (.arriving x))
  /-- It waits for the lock of the lane. -/
  | queued {o : Origin} {lock : LockId} : Brings f x (.process o f (.queued lock x))

/-- Whoever asked for a lock is not over, and processes events of the flow or waits to cancel it. -/
theorem Work.of_stake? {w : Work V I} {lock : LockId} {f : FlowId}
    (h : w.stake? = some (lock, f)) :
    w.result? = none ∧ (w.flow? = some f ∨ ∃ r, w = .cancel r (.queued lock f)) := by
  cases w with
  | process o g stage =>
    cases stage with
    | queued | ready | handling | acting =>
      cases h
      exact ⟨rfl, .inl rfl⟩
    | _ => cases h
  | cancel r stage =>
    cases stage with
    | queued =>
      cases h
      exact ⟨rfl, .inr ⟨r, rfl⟩⟩
    | _ => cases h
  | refused err => cases h

namespace World

variable {w w' : World V I} {e : EngineId} {f : FlowId}

/-! ### Recorded cancels -/

/-- Whoever waits to cancel the flow has recorded it. -/
def Recorded (w : World V I) (f : FlowId) : Prop :=
  ∀ (t : TaskId) (k : Task V I) (r : ResourceId) (lock : LockId), w.tasks[t]? = some k →
    k.work = .cancel r (.queued lock f) → Marked w r f

theorem Recorded.change (h : Recorded w f) (ho : Orderly w) {l : Label V I}
    (hc : Change w l w') : Recorded w' f := by
  intro t k r lock hk hw
  -- A task that waited before recorded the cancel before.
  have hbefore : w.tasks[t]? = some k → Marked w' r f := fun hk => (h t k r lock hk hw).change hc
  have hadd : ∀ {e : EngineId} {work : Work V I}, (w.addTask e work).tasks[t]? = some k →
      work.stake? = none → Marked w' r f := by
    intro e work hk hs
    rcases tasks_addTask.mp hk with hk | ⟨-, rfl⟩
    · exact hbefore hk
    · have hw : work = .cancel r (.queued lock f) := hw
      rw [hw] at hs
      cases hs
  cases hc with
  | refuses | delivers | cancels => exact hadd hk rfl
  | elapses => exact hbefore hk
  | opens hop =>
    rcases hop.tasks.mp hk with hk | ⟨-, rfl⟩
    · exact hbefore hk
    · cases hw
  | @runs u reply _ task eng d' work' hr =>
    by_cases hu : t = u
    · subst hu
      rw [hr.tasks, if_pos rfl] at hk
      cases hk
      obtain ⟨harr, -⟩ := hr.move.queues_cancel hw
      exact .of_recorded ho (.runs hr)
        ⟨t, task, _, lock, hr.hasTask, harr, (hr.tasks t).trans (if_pos rfl), hw⟩
    · exact hbefore (by rw [← hk, hr.tasks, if_neg hu])

/-! ### Parked flows -/

/-- Flow `f` of engine `e`, with instance `i`, is parked. No cancel of it is recorded, and no task
    is under way to it but task `who`, if any, which comes with event `x`. -/
structure Parked (w : World V I) (e : EngineId) (f : FlowId) (i : Instance V)
    (who : Option TaskId) (x : V.Event) : Prop where
  /-- Lanes, flows and tasks fit together. -/
  orderly : Orderly w
  /-- Its instance. -/
  hasInstance : w.instance? e f = some i
  /-- It runs. -/
  running : i.status = .running
  /-- Whoever waits to cancel it has recorded it. -/
  recorded : Recorded w f
  /-- No cancel is recorded. -/
  unmarked : w.registry.isCancelled i.params.resourceId = false
  /-- Who is under way to it. -/
  alone : ∀ (u : TaskId) (k : Task V I), w.tasks[u]? = some k → k.work.flow? = some f →
    k.work.result?.isSome = false → who = some u ∧ k.engine = e ∧ k.work.Brings f x

namespace Parked

variable {i : Instance V} {who : Option TaskId} {x : V.Event}

theorem runs (h : Parked w e f i who x) : w.running? e f = some i.params :=
  running?_eq_some_iff.mpr ⟨i, h.hasInstance, h.running, rfl⟩

/-- Nobody waits to cancel it. -/
theorem calm (h : Parked w e f i who x) (u : TaskId) (k : Task V I) (r : ResourceId)
    (lock : LockId) (hk : w.tasks[u]? = some k) : k.work ≠ .cancel r (.queued lock f) := by
  intro hw
  obtain ⟨hres, hs⟩ := (h.recorded u k r lock hk hw).mark e _ h.runs
  have hs : w.registry.status? r = some .cancelled := hs
  have hu := h.unmarked
  simp [Registry.isCancelled, hres, hs] at hu

/-- Nobody has it in hand. -/
theorem not_holds (h : Parked w e f i who x) (u : TaskId) (k : Task V I)
    (hk : w.tasks[u]? = some k) : ¬ k.Holds e f := by
  rintro ⟨-, lock, p, hin, rfl⟩
  obtain ⟨hres, -⟩ := Work.of_stake? (h.orderly.atWork u k lock p hk hin).2
  obtain ⟨-, -, hb⟩ := h.alone u k hk (h.orderly.flow?_of_inHand hk hin) (by rw [hres]; rfl)
  generalize k.work = work at hin hb
  cases hb <;> cases hin

/-- Nothing happens to it but that the event comes. -/
theorem input? (h : Parked w e f i who x) {l : Label V I} (hs : w.step l = some w') {a : Input V}
    (ha : w.input? e f l = some a) : a = .came x ∧ ∃ t reply, who = some t ∧ l = .run t reply := by
  cases l with
  | start e' serial q =>
    -- Whatever is opened now, is another flow.
    obtain ⟨⟨-, rfl, hfree⟩, -⟩ := Option.ite_none_right_eq_some.mp ha
    obtain ⟨eng, g, ho⟩ := openStep_of_free hs (Option.isNone_iff_eq_none.mp hfree)
    exact absurd rfl (ho.ne_of_opened (h.orderly.keyed _ _ _ h.hasInstance).2)
  | run t reply =>
    cases change_of_step hs with
    | runs hr =>
      obtain ⟨-, -, ⟨o, lock, y, hw, rfl⟩ | ⟨r, lock, hw⟩⟩ :=
        hr.waiting_of_input? h.orderly (h.not_holds t _ hr.hasTask) ha
      · obtain ⟨hwho, -, hb⟩ := h.alone t _ hr.hasTask (by rw [hw]; rfl) (by rw [hw]; rfl)
        rw [hw] at hb
        cases hb
        exact ⟨rfl, t, reply, hwho, rfl⟩
      · exact absurd hw (h.calm t _ r lock hr.hasTask)
  | _ => cases ha

section Run

variable {t : TaskId} {reply : I.Reply} {task : Task V I} {eng : Engine V I} {d' : Desk V I}
  {work' : Work V I}

/-- Its instance stays as it is. -/
theorem instance?_run (h : Parked w e f i who x) (hr : RunStep w t reply w' task eng d' work') :
    w'.instance? e f = some i := by
  cases h.orderly.bearing hr e f with
  | aside _ hi => exact hi.trans h.hasInstance
  | forgets _ hj hend =>
    obtain rfl := Option.some.inj (h.hasInstance.symm.trans hj)
    exact absurd h.running hend
  | cancels _ hw => exact absurd hw (h.calm t task _ _ hr.hasTask)
  | own he hk hw =>
    exact absurd ⟨he, _, _, hw, hk⟩ (h.not_holds t task hr.hasTask)

/-- Who is under way to it after a step, was so before. -/
theorem alone_run (h : Parked w e f i who x) (hr : RunStep w t reply w' task eng d' work')
    (hin : w.input? e f (.run t reply) = none) {u : TaskId} {k : Task V I}
    (hk : w'.tasks[u]? = some k) (hf : k.work.flow? = some f)
    (hres : k.work.result?.isSome = false) :
    who = some u ∧ k.engine = e ∧ k.work.Brings f x := by
  rw [hr.tasks] at hk
  split at hk
  · rename_i hu
    obtain rfl := Option.some.inj hk
    replace hf : work'.flow? = some f := hf
    replace hres : work'.result?.isSome = false := hres
    have hm := hr.move
    rw [hm.flow?_eq] at hf
    have hgoes : task.work.result?.isSome = false := by
      generalize task.work = work at hm
      cases hm <;> rfl
    obtain ⟨hwho, he, hb⟩ := h.alone t task hr.hasTask hf hgoes
    refine ⟨hu ▸ hwho, he, ?_⟩
    -- It goes on to wait for the lock, or it is over.
    generalize hwork : task.work = work at hm hb
    cases hb with
    | arriving =>
      cases hm with
      | queue => exact .queued
      | _ => cases hres
    | queued =>
      cases hm with
      | admitted _ hi hrun =>
        have hran : eng.isRunning f = true := Engine.isRunning_iff.mpr ⟨_, hi, hrun⟩
        rw [hr.input?_eq, hwork] at hin
        simp [Desk.input?, hran, he] at hin
      | _ => cases hres
  · exact h.alone u k hk hf hres

end Run

/-- It stays parked. -/
theorem change (h : Parked w e f i who x) {l : Label V I} (hc : Change w l w')
    (hl : ∀ e' y, l ≠ .dispatch e' f y) (hin : w.input? e f l = none)
    (hu : w'.registry.isCancelled i.params.resourceId = false) : Parked w' e f i who x := by
  have ho := h.orderly.change hc
  have hrec := h.recorded.change h.orderly hc
  -- A new task is under way to another flow.
  have hadd : ∀ {e' : EngineId} {work : Work V I}, work.flow? ≠ some f →
      ∀ (u : TaskId) (k : Task V I), (w.addTask e' work).tasks[u]? = some k →
        k.work.flow? = some f → k.work.result?.isSome = false →
          who = some u ∧ k.engine = e ∧ k.work.Brings f x := by
    intro e' work hne u k hk hf hres
    rcases tasks_addTask.mp hk with hk | ⟨-, rfl⟩
    · exact h.alone u k hk hf hres
    · exact absurd hf hne
  cases hc with
  | refuses | cancels => exact ⟨ho, h.hasInstance, h.running, hrec, hu, hadd nofun⟩
  | @delivers e' g y =>
    refine ⟨ho, h.hasInstance, h.running, hrec, hu, hadd fun hf => ?_⟩
    obtain rfl : g = f := Option.some.inj hf
    exact hl e' y rfl
  | elapses => exact ⟨ho, h.hasInstance, h.running, hrec, hu, h.alone⟩
  | opens hop =>
    have hne := hop.ne_of_opened (h.orderly.keyed _ _ _ h.hasInstance).2
    refine ⟨ho, ?_, h.running, hrec, hu, fun u k hk hf hres => ?_⟩
    · rw [hop.instance?, if_neg fun hef => hne hef.2, h.hasInstance]
    · rcases hop.tasks.mp hk with hk | ⟨-, rfl⟩
      · exact h.alone u k hk hf hres
      · exact absurd (Option.some.inj hf).symm hne
  | runs hr =>
    exact ⟨ho, h.instance?_run hr, h.running, hrec, hu, fun u k => h.alone_run hr hin⟩

/-- An event is delivered to it. -/
theorem delivers (h : Parked w e f i none x) :
    Parked (w.addTask e (.process .dispatched f (.arriving x))) e f i (some w.tasks.length) x where
  orderly := h.orderly.addTask e rfl rfl
  hasInstance := h.hasInstance
  running := h.running
  recorded := h.recorded.change h.orderly .delivers
  unmarked := h.unmarked
  alone u k hk hf hres := by
    rcases tasks_addTask.mp hk with hk | ⟨rfl, rfl⟩
    · cases (h.alone u k hk hf hres).1
    · exact ⟨rfl, rfl, .arriving⟩

end Parked

/-! ### From the parking to the event -/

/-- A task that waits for the lock of a parked flow holds it. -/
theorem Parked.holder {i : Instance V} {t : TaskId} {x : V.Event} {k : Task V I} {o : Origin}
    {lock : LockId} (h : Parked w e f i (some t) x) (hk : w.tasks[t]? = some k)
    (hw : k.work = .process o f (.queued lock x)) :
    (w.registry.lanes.lock lock).holder = some t := by
  have hq := h.orderly.queues
  have hst : k.work.stake? = some (lock, f) := by rw [hw]; rfl
  have ht : t ∈ (w.registry.lanes.lock lock).parties := (hq.party lock t).mpr ⟨k, f, hk, hst⟩
  cases hh : (w.registry.lanes.lock lock).holder with
  | none =>
    -- Nobody waits for a lock that nobody holds.
    have hnil := hq.sound lock hh
    simp [Lock.parties, hh, hnil] at ht
  | some u =>
    obtain ⟨j, g, hj, hst'⟩ := (hq.party lock u).mp (Lock.mem_parties_of_holder hh)
    -- The lock came with the lane of the flow, so whoever asked for it did so for the flow.
    obtain ⟨lane, hl, hflow⟩ := h.orderly.occupies e f i.params h.runs
    have hlock := ((h.orderly.stakes t k lock f hk hst).2.2 _ lane hl).mp hflow
    obtain rfl : g = f :=
      (((h.orderly.stakes u j lock g hj hst').2.2 _ lane hl).mpr hlock).symm.trans hflow
    obtain ⟨hres, hf | ⟨r, hwork⟩⟩ := Work.of_stake? hst'
    · exact congrArg some (Option.some.inj (h.alone u j hj hf (by rw [hres]; rfl)).1).symm
    · exact absurd hwork (h.calm u j r lock hj)

namespace Parked

variable {i : Instance V} {t : TaskId} {x : V.Event} {o : Origin}

/-- Whoever comes to a parked flow can take a step. -/
theorem canRun (h : Parked w e f i (some t) x) {work : Work V I}
    (hk : w.tasks[t]? = some ⟨e, work⟩) (hb : work.Brings f x) : w.CanRun t := by
  intro reply
  obtain ⟨eng, he, -⟩ := instance?_eq_some_iff.mp h.hasInstance
  refine run_isSome_iff.mpr ⟨_, eng, hk, he, by cases hb <;> rfl, fun lock hlock => ?_⟩
  cases hb with
  | arriving => cases hlock
  | queued =>
    cases hlock
    exact h.holder hk rfl

/-- Whoever looks at a parked flow waits for the lock of its lane then. -/
theorem queues (h : Parked w e f i (some t) x) {reply : I.Reply} {eng : Engine V I}
    {d' : Desk V I} {work' : Work V I}
    (hr : RunStep w t reply w' ⟨e, .process o f (.arriving x)⟩ eng d' work') :
    ∃ lock, work' = .process o f (.queued lock x) := by
  have hi : eng.instance? f = some i := (hr.instance?_self f).symm.trans h.hasInstance
  have hm := hr.move
  cases hm with
  | unknown hn =>
    rw [hi] at hn
    cases hn
  | ended hj hend =>
    obtain rfl := Option.some.inj (hi.symm.trans hj)
    exact absurd h.running hend
  | displaced hj _ hl =>
    -- A flow that runs occupies its lane.
    obtain rfl := Option.some.inj (hi.symm.trans hj)
    rw [Lanes.holds_iff.mpr (h.orderly.occupies e f i.params h.runs)] at hl
    cases hl
  | queue => exact ⟨_, rfl⟩

/-- Whoever waits for the lock of a parked flow comes with the event. -/
theorem comes (h : Parked w e f i (some t) x) {reply : I.Reply} {lock : LockId}
    {eng : Engine V I} {d' : Desk V I} {work' : Work V I}
    (hr : RunStep w t reply w' ⟨e, .process o f (.queued lock x)⟩ eng d' work') :
    w.input? e f (.run t reply) = some (.came x) := by
  have hran : eng.isRunning f = true :=
    Engine.isRunning_iff.mpr ⟨i, (hr.instance?_self f).symm.trans h.hasInstance, h.running⟩
  rw [hr.input?_eq]
  simp [Desk.input?, hran]

end Parked

namespace Execution

variable {E : Execution V I} {engines : List (Definition V I × List (Handler V I) × Nat)}
  {d : Definition V I} {hs : List (Handler V I)} {retention n m : Nat} {r : ResourceId}
  {x : V.Event}

/-- The action of a state that is not terminal returns without an event in step `n`, and event `x`
    is delivered to the flow in step `m`. In between, that is, as long as nothing else happens to
    the flow, no other event is under way to it and no cancel of it is recorded. -/
structure Parks (E : Execution V I) (d : Definition V I) (e : EngineId) (f : FlowId)
    (r : ResourceId) (n m : Nat) (x : V.Event) : Prop where
  /-- The action returns without an event. -/
  returns : (E.world n).input? e f (E.label n) = some (.acted (.ok none))
  /-- The state is not terminal, and the flow is one of this resource. -/
  inside : ∀ i, (E.world n).instance? e f = some i →
    d.isTerminal i.state = false ∧ i.params.resourceId = r
  /-- Nobody else is under way to the flow then. -/
  alone : ∀ (t : TaskId) (k : Task V I), (E.world (n + 1)).tasks[t]? = some k →
    k.work.flow? = some f → k.work.result?.isSome = true
  /-- The event is delivered later. -/
  later : n < m
  /-- It is delivered at the engine of the flow. -/
  delivers : E.label m = .dispatch e f x
  /-- In between, no other event is delivered. -/
  undisturbed : ∀ k, n < k → E.inputs e f k = E.inputs e f (n + 1) →
    ∀ e' y, E.label k = .dispatch e' f y → k = m
  /-- In between, no cancel is recorded. -/
  unmarked : ∀ k, n < k → E.inputs e f k = E.inputs e f (n + 1) →
    (E.world k).registry.isCancelled r = false

/-- Whoever waits to cancel a flow has recorded it. -/
theorem recorded (h₀ : E.world 0 = initial engines) (f : FlowId) (n : Nat) :
    Recorded (E.world n) f := by
  induction n with
  | zero =>
    intro t k r lock hk
    rw [h₀] at hk
    cases hk
  | succ n ih => exact ih.change (poised h₀ n).orderly (E.change n)

/-- Nothing happens in a step without an input. -/
theorem inputs_of_none {k : Nat} (h : (E.world k).input? e f (E.label k) = none) :
    E.inputs e f (k + 1) = E.inputs e f k := by
  rw [inputs, h, Option.toList_none, List.append_nil]

namespace Parks

/-- The flow is parked. -/
theorem parked (hp : E.Parks d e f r n m x) (h₀ : E.world 0 = initial engines)
    (he : engines[e]? = some (d, hs, retention)) :
    ∃ i, Parked (E.world (n + 1)) e f i none x ∧ i.params.resourceId = r := by
  have h := poised h₀ n
  have hret := hp.returns
  have hstep := E.step n
  cases hl : E.label n with
  | run t reply =>
    rw [hl] at hret hstep
    cases change_of_step hstep with
    | @runs _ _ _ task eng d' work' hr =>
      rw [hr.input?_eq] at hret
      obtain ⟨⟨g, a⟩, hin, hret⟩ := Option.bind_eq_some_iff.mp hret
      obtain ⟨⟨rfl, rfl⟩, ha⟩ := Option.ite_none_right_eq_some.mp hret
      obtain rfl : a = .acted (.ok none) := Option.some.inj ha
      obtain ⟨o, lock, p, event, s, hw⟩ := Desk.input?_eq_acted hin
      have hhand : task.work.inHand? = some (lock, p) := by rw [hw]; rfl
      obtain ⟨i, hi, hrun, rfl⟩ :=
        running?_eq_some_iff.mp (h.orderly.atWork t task lock p hr.hasTask hhand).1
      obtain rfl := h.orderly.flow_eq hr.hasTask hhand (by rw [hw]; rfl)
      -- The action is that of the state the flow is in, which is not terminal.
      obtain rfl := h.acts t task _ s i hr.hasTask (by rw [hw]; rfl) hi
      obtain ⟨hterm, hres⟩ := hp.inside i hi
      obtain ⟨eng', heng, rfl, -⟩ := engine h₀ he n
      obtain rfl := Option.some.inj (heng.symm.trans hr.hasEngine)
      have hkept : (E.world (n + 1)).instance? task.engine i.params.flow = some i := by
        rw [hr.instance?, if_pos rfl]
        have hm := hr.move
        rw [hw] at hm
        cases hm with
        | act hn => exact absurd rfl (hn _)
        | completed _ hs =>
          have hs : eng'.definition.isTerminal i.state = true := hs
          rw [hterm] at hs
          cases hs
        | parked => exact (hr.instance?_self _).symm.trans hi
      refine ⟨i, ⟨(poised h₀ (n + 1)).orderly, hkept, hrun, recorded h₀ _ (n + 1), ?_, ?_⟩, hres⟩
      · rw [hres]
        exact hp.unmarked (n + 1) (Nat.lt_succ_self n) rfl
      · intro u k hk hf hgoes
        rw [hp.alone u k hk hf] at hgoes
        cases hgoes
  | start e' serial q =>
    rw [hl] at hret
    obtain ⟨-, hret⟩ := Option.ite_none_right_eq_some.mp hret
    obtain ⟨eng, -, hret⟩ := Option.map_eq_some_iff.mp hret
    cases hret
  | _ =>
    rw [hl] at hret
    cases hret

variable {i : Instance V}

/-- The flow stays parked, and nothing happens to it, unless the event comes. -/
theorem step (hp : E.Parks d e f r n m x) (hi : i.params.resourceId = r) {k : Nat}
    {who : Option TaskId} (h : Parked (E.world k) e f i who x) (hn : n < k) (hk : k ≠ m)
    (hin : E.inputs e f k = E.inputs e f (n + 1)) :
    (Parked (E.world (k + 1)) e f i who x ∧ E.inputs e f (k + 1) = E.inputs e f (n + 1)) ∨
      (who ≠ none ∧ E.inputs e f (k + 1) = E.inputs e f (n + 1) ++ [.came x]) := by
  cases ha : (E.world k).input? e f (E.label k) with
  | none =>
    have hin' : E.inputs e f (k + 1) = E.inputs e f (n + 1) := (inputs_of_none ha).trans hin
    have hu := hp.unmarked (k + 1) (Nat.lt_succ_of_lt hn) hin'
    exact .inl ⟨h.change (E.change k) (fun e' y hl => hk (hp.undisturbed k hn hin e' y hl)) ha
      (hi ▸ hu), hin'⟩
  | some a =>
    obtain ⟨rfl, t, -, hwho, -⟩ := h.input? (E.step k) ha
    refine .inr ⟨by rw [hwho]; exact nofun, ?_⟩
    rw [inputs, ha, hin]
    rfl

/-- Until the event is delivered, the flow stays parked, and nothing happens to it. -/
theorem waits (hp : E.Parks d e f r n m x) (hi : i.params.resourceId = r)
    (h : Parked (E.world (n + 1)) e f i none x) {k : Nat} (hn : n < k) (hk : k ≤ m) :
    Parked (E.world k) e f i none x ∧ E.inputs e f k = E.inputs e f (n + 1) := by
  induction hn with
  | refl => exact ⟨h, rfl⟩
  | @step k hn ih =>
    obtain ⟨hpk, hin⟩ := ih (Nat.le_of_succ_le hk)
    rcases hp.step hi hpk hn (Nat.ne_of_lt hk) hin with hnext | ⟨hno, -⟩
    · exact hnext
    · exact absurd rfl hno

/-- After the event is delivered, the flow stays parked until the event comes. -/
theorem stays (hp : E.Parks d e f r n m x) (hi : i.params.resourceId = r) {t : TaskId}
    (h : Parked (E.world (m + 1)) e f i (some t) x)
    (hin : E.inputs e f (m + 1) = E.inputs e f (n + 1)) {k : Nat} (hk : m < k) :
    (Parked (E.world k) e f i (some t) x ∧ E.inputs e f k = E.inputs e f (n + 1)) ∨
      ∃ j, m < j ∧ E.inputs e f (j + 1) = E.inputs e f (n + 1) ++ [.came x] := by
  induction hk with
  | refl => exact .inl ⟨h, hin⟩
  | @step k hk ih =>
    rcases ih with ⟨hpk, hink⟩ | hcame
    · rcases hp.step hi hpk (Nat.lt_trans hp.later hk) (Nat.ne_of_gt hk) hink with
        hnext | ⟨-, hcame⟩
      · exact .inl hnext
      · exact .inr ⟨k, hk, hcame⟩
    · exact .inr hcame

/-- Unless the event comes, whoever comes with it takes a step some time, while the flow is still
    parked. -/
theorem takes_step (hp : E.Parks d e f r n m x) (hi : i.params.resourceId = r) {t : TaskId}
    (h : Parked (E.world (m + 1)) e f i (some t) x)
    (hin : E.inputs e f (m + 1) = E.inputs e f (n + 1)) (hf : E.Fair)
    (hq : ∀ n, Queues (E.world n)) {k : Nat} (hk : m < k) {work : Work V I}
    (ht : (E.world k).tasks[t]? = some ⟨e, work⟩) (hb : work.Brings f x) :
    (∃ j, m < j ∧ E.inputs e f (j + 1) = E.inputs e f (n + 1) ++ [.came x]) ∨
      ∃ j reply eng d' work', m < j ∧ E.label j = .run t reply ∧
        Parked (E.world j) e f i (some t) x ∧ E.inputs e f j = E.inputs e f (n + 1) ∧
        RunStep (E.world j) t reply (E.world (j + 1)) ⟨e, work⟩ eng d' work' := by
  rcases hp.stays hi h hin hk with ⟨hpk, -⟩ | hcame
  · obtain ⟨j, reply, hj, hl, htj⟩ := hf.takes_step hq (hpk.canRun ht hb) ht
    have hmj := Nat.lt_of_lt_of_le hk hj
    rcases hp.stays hi h hin hmj with ⟨hpj, hinj⟩ | hcame
    · have hstep := E.step j
      rw [hl] at hstep
      cases change_of_step hstep with
      | @runs _ _ _ task eng d' work' hr =>
        obtain rfl := Option.some.inj (htj.symm.trans hr.hasTask)
        exact .inr ⟨j, reply, eng, d', work', hmj, hl, hpj, hinj, hr⟩
    · exact .inl hcame
  · exact .inl hcame

/-- The event is the next thing that happens to the flow. -/
theorem resumes (hp : E.Parks d e f r n m x) (h₀ : E.world 0 = initial engines)
    (he : engines[e]? = some (d, hs, retention)) (hf : E.Fair) :
    ∃ k, m < k ∧
      E.inputs e f (k + 1) = E.inputs e f n ++ [.acted (.ok none), .came x] := by
  obtain ⟨i, hparked, hi⟩ := hp.parked h₀ he
  have hreturned : E.inputs e f (n + 1) = E.inputs e f n ++ [.acted (.ok none)] := by
    rw [inputs, hp.returns, Option.toList_some]
  -- The event is delivered while the flow is parked.
  obtain ⟨hm, hin⟩ := hp.waits hi hparked hp.later (Nat.le_refl m)
  have hdelivered : E.world (m + 1) =
      (E.world m).addTask e (.process .dispatched f (.arriving x)) := by
    have hstep := E.step m
    rw [hp.delivers] at hstep
    exact (Option.some.inj hstep).symm
  have hinm : E.inputs e f (m + 1) = E.inputs e f (n + 1) := by
    rw [inputs_of_none (by rw [hp.delivers]; rfl), hin]
  have hq := fun k => (poised h₀ k).orderly.queues
  have hpm : Parked (E.world (m + 1)) e f i (some (E.world m).tasks.length) x :=
    hdelivered ▸ hm.delivers
  have htask : (E.world (m + 1)).tasks[(E.world m).tasks.length]? =
      some ⟨e, .process .dispatched f (.arriving x)⟩ :=
    hdelivered ▸ tasks_addTask.mpr (.inr ⟨rfl, rfl⟩)
  have hnext := fun {k : Nat} => hp.takes_step hi hpm hinm hf hq (k := k)
  -- The task of the event asks for the lock, and then comes with the event.
  have hcame : ∃ j, m < j ∧ E.inputs e f (j + 1) = E.inputs e f (n + 1) ++ [.came x] := by
    rcases hnext (Nat.lt_succ_self m) htask .arriving with
      hcame | ⟨k, reply, eng, d', work', hk, hl, hpk, hink, hr⟩
    · exact hcame
    obtain ⟨lock, rfl⟩ := hpk.queues hr
    have htask' := (hr.tasks _).trans (if_pos rfl)
    rcases hnext (Nat.lt_succ_of_lt hk) htask' .queued with
      hcame | ⟨j, reply', eng', d'', work'', hj, hl', hpj, hinj, hr'⟩
    · exact hcame
    refine ⟨j, hj, ?_⟩
    rw [inputs, hl', hpj.comes hr', hinj]
    rfl
  obtain ⟨j, hj, hcame⟩ := hcame
  refine ⟨j, hj, ?_⟩
  rw [hcame, hreturned, List.append_assoc]
  rfl

end Parks

end Execution

/-! ### Parking is transparent -/

/-- Of flow `f`, the second execution shows at engine `e'` after `n'` steps what the first shows at
    engine `e` after `n` steps, but for the time of its end. -/
structure Execution.SameCourse {I' : Interface} (E : Execution V I) (E' : Execution V I')
    (e e' : EngineId) (f : FlowId) (n n' : Nat) : Prop where
  /-- The same handlers and actions were called with the same events, in the same order. -/
  invocations : E'.invocations e' f n' = E.invocations e f n
  /-- The same is recorded. -/
  records : (E'.world n').records e' f = (E.world n).records e f
  /-- The instances are the same: history, status, failure and all else. -/
  instances : ∀ i i', E.Shows e f n i → E'.Shows e' f n' i' → i'.untimed = i.untimed

/-- Parking is transparent, whatever the definition and the handlers, and whatever else is started,
    dispatched and cancelled.

    Let the same happen to a flow in two executions, but for parkings, of which there may be any
    number: where an action returned without an event in the first and then an event came, the
    action returned with that event in the second. Then both show the same of the flow.

    And if the action of a state that is not terminal returns without an event, and one event is
    delivered later, with no other event delivered and no cancel recorded in between, then in a fair
    execution that event comes next: what happened until then is what happens, but for parkings, to
    a flow whose action returned with the event. -/
theorem parking_transparent {I' : Interface} {E : Execution V I} {E' : Execution V I'}
    {engines : List (Definition V I × List (Handler V I) × Nat)}
    {engines' : List (Definition V I' × List (Handler V I') × Nat)}
    (h₀ : E.world 0 = initial engines) (h₀' : E'.world 0 = initial engines') {e e' : EngineId}
    {d : Definition V I} {d' : Definition V I'} {hs : List (Handler V I)}
    {hs' : List (Handler V I')} {retention retention' : Nat}
    (he : engines[e]? = some (d, hs, retention)) (he' : engines'[e']? = some (d', hs', retention'))
    (hout : d'.outline (.ofList hs') = d.outline (.ofList hs)) (f : FlowId) :
    (∀ n n', Unparked (E.inputs e f n) (E'.inputs e' f n') → E.SameCourse E' e e' f n n') ∧
    (E.Fair → ∀ r n m x, E.Parks d e f r n m x →
      ∃ k, m < k ∧ E.inputs e f (k + 1) = E.inputs e f n ++ [.acted (.ok none), .came x] ∧
        ∀ l, Unparked (E.inputs e f n) l →
          Unparked (E.inputs e f (k + 1)) (l ++ [.acted (.ok (some x))])) := by
  refine ⟨fun n n' hun => ?_, fun hf r n m x hp => ?_⟩
  · obtain ⟨c, hc, htaken, -⟩ := Execution.course h₀ he f n
    obtain ⟨c', hc', htaken', -⟩ := Execution.course h₀' he' f n'
    rw [hout] at hc'
    -- Parkings are no part of the course.
    have hcourse : ∀ c, (d.outline (.ofList hs)).course (E.inputs e f n) = some c →
        (d.outline (.ofList hs)).course (E'.inputs e' f n') = some c := fun _ => hun.course_eq
    obtain rfl := Option.some.inj ((hcourse c hc).symm.trans hc')
    have hsame := htaken.symm.trans htaken'
    refine ⟨?_, ?_, fun i i' hi hi' => ?_⟩
    · rw [Execution.invocations_eq h₀, Execution.invocations_eq h₀']
      exact (Taken.filterMap_untimed (fun _ => rfl) hsame).symm
    · rw [Execution.records_eq h₀, Execution.records_eq h₀']
      exact (Taken.filterMap_untimed Taken.record?_untimed hsame).symm
    · obtain ⟨c₁, hc₁, hrun⟩ := Execution.course_of_shows h₀ he hi
      obtain ⟨c₂, hc₂, hrun'⟩ := Execution.course_of_shows h₀' he' hi'
      rw [hout] at hc₂
      obtain rfl := Option.some.inj ((hcourse c₁ hc₁).symm.trans hc₂)
      exact Option.some.inj (hrun'.symm.trans hrun)
  · obtain ⟨k, hk, hin⟩ := hp.resumes h₀ he hf
    exact ⟨k, hk, hin, fun l hl => hin ▸ hl.append (.resumed x .nil)⟩

/-- Flows that delete other resources only. The action returns with this event, if there is one;
    else the news that they are gone has to come from outside. -/
def clearing (next : Option CascadingDelete.vocabulary.Event) :
    Definition CascadingDelete.vocabulary Collaborators where
  __ := CascadingDelete.definition ⟨1, 10, false⟩
  transition
    | .init, .start => some .resourcesDeleting
    | .resourcesDeleting, .resourcesDeleted => some .final
    | _, _ => none
  execute s _ _ := .done (.ok (if s = .resourcesDeleting then next else none))

/-- The news that the resources are gone. -/
def cleared : CascadingDelete.vocabulary.Event where
  selector := .resourcesDeleted
  resourceId := 7
  resourceCrn := "environment"
  payload := default

/-- An engine for such flows. -/
def clearingEngines (next : Option CascadingDelete.vocabulary.Event) :
    List (Definition CascadingDelete.vocabulary Collaborators ×
      List (Handler CascadingDelete.vocabulary Collaborators) × Nat) :=
  [(clearing next, [], 1)]

/-- Such a flow is started. -/
def clearingStart : Label CascadingDelete.vocabulary Collaborators :=
  .start 0 0 { resourceId := 7, resourceCrn := "environment", payload := default }

/-- It is parked, until the news is delivered. -/
def parkedRun : List (Label CascadingDelete.vocabulary Collaborators) :=
  clearingStart :: List.replicate 4 (.run 0 fun _ => .error default) ++
    .dispatch 0 (.opened 0) cleared :: List.replicate 4 (.run 1 fun _ => .error default)

/-- Its action returns with the news. -/
def directRun : List (Label CascadingDelete.vocabulary Collaborators) :=
  clearingStart :: List.replicate 6 (.run 0 fun _ => .error default)

theorem follow_parkedRun : (initial (clearingEngines none)).follow parkedRun =
    some (((initial (clearingEngines none)).follow parkedRun).get rfl) := rfl

theorem follow_directRun : (initial (clearingEngines (some cleared))).follow directRun =
    some (((initial (clearingEngines (some cleared))).follow directRun).get rfl) := rfl

/-- The parked flow, after which only time passes. -/
def parkedClearing : Execution CascadingDelete.vocabulary Collaborators :=
  .ofFollow follow_parkedRun

/-- The flow that is not parked, after which only time passes. -/
def directClearing : Execution CascadingDelete.vocabulary Collaborators :=
  .ofFollow follow_directRun

/-- While the flow is parked, the news is delivered, nothing else is, and nobody cancels it. -/
theorem parks_parkedClearing :
    parkedClearing.Parks (clearing none) 0 (.opened 0) 7 4 5 cleared where
  returns := rfl
  inside i hi := by
    obtain rfl := Option.some.inj (hi.symm.trans (show _ = some _ from rfl))
    exact ⟨rfl, rfl⟩
  alone t k hk _ := by
    have hover : ((parkedClearing.world 5).tasks.all fun k => k.work.result?.isSome) = true := rfl
    exact List.all_eq_true.mp hover k (List.mem_of_getElem? hk)
  later := by decide
  delivers := rfl
  undisturbed k _ _ e' y hl := by
    have honly : ∀ k, k < 10 → (parkedRun.getD k (.elapse 1)).delivers = true → k = 5 := by decide
    have hdelivers : (parkedRun.getD k (.elapse 1)).delivers = true := by
      rw [show parkedRun.getD k (.elapse 1) = _ from hl]
      rfl
    refine honly k (Nat.lt_of_not_le fun hk => ?_) hdelivers
    rw [List.getD_eq_getElem?_getD, List.getElem?_eq_none hk] at hdelivers
    cases hdelivers
  unmarked k _ _ := by
    have hrun : ∀ k, k < 10 → (parkedClearing.world k).registry.isCancelled 7 = false := by decide
    rcases Nat.lt_or_ge k 10 with hk | hk
    · exact hrun k hk
    · -- After the run only the time changes.
      obtain ⟨j, rfl⟩ := Nat.exists_eq_add_of_le hk
      exact congrArg (·.registry.isCancelled 7) (Execution.play_after follow_parkedRun j)

/-- The parked flow goes the way of the flow that is not parked. -/
theorem parking_transparent_clearing : parkedClearing.Fair ∧
    (∃ k, 5 < k ∧ parkedClearing.inputs 0 (.opened 0) (k + 1) =
      parkedClearing.inputs 0 (.opened 0) 4 ++ [.acted (.ok none), .came cleared]) ∧
    parkedClearing.SameCourse directClearing 0 0 (.opened 0) 10 7 ∧
    ∃ i, parkedClearing.Shows 0 (.opened 0) 10 i ∧ i.status = .finished := by
  have hf : parkedClearing.Fair :=
    Execution.fair_ofFollow _ (fun _ => .error default) (by decide)
  have h₀ : parkedClearing.world 0 = initial (clearingEngines none) := rfl
  have h₀' : directClearing.world 0 = initial (clearingEngines (some cleared)) := rfl
  have he : (clearingEngines none)[0]? = some (clearing none, [], 1) := rfl
  have he' : (clearingEngines (some cleared))[0]? = some (clearing (some cleared), [], 1) := rfl
  obtain ⟨hsame, hresumes⟩ := parking_transparent h₀ h₀' he he' rfl (.opened 0)
  obtain ⟨k, hk, hin, -⟩ := hresumes hf _ _ _ _ parks_parkedClearing
  refine ⟨hf, ⟨k, hk, hin⟩, hsame 10 7 ?_, _, .kept rfl, rfl⟩
  exact .same _ (.same _ (.same _ (.resumed cleared (.refl _))))

end World

end ResourceFlow
