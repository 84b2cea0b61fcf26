import ResourceFlow.Proofs.World.LateCalls
/-! # Refused calls change nothing

  A call is refused in one of three ways. A flow cannot be opened on a resource
  whose lane is occupied: the caller is told of the occupant, by its id and its
  type. An event cannot be delivered to a flow that does not run when the call
  looks for it: the caller is told that there is no such flow, or how it ended
  (`World.Refused`). And there is nothing to cancel at an engine that does not
  run the occupant.

  None of these changes anything but the task of the call itself and its own
  place in the line for a lock (`World.SameBut`), in any of its steps, and none
  calls a handler or an action. The main result is
  `World.refusals_change_nothing`.
-/

namespace ResourceFlow

variable {V : Vocabulary} {I : Interface}

/-- Whoever brings an event has brought it from the start. -/
theorem Desk.Move.brings_before {d d' : Desk V I} {t : TaskId} {now : Duration} {reply : I.Reply}
    {w w' : Work V I} {f : FlowId} {x : V.Event} (h : Move d t now reply w d' w')
    (hb : w'.Brings f x) : w.Brings f x := by
  cases h with
  | queue =>
    cases hb
    exact .arriving
  | _ => cases hb

namespace World

variable {w w' : World V I} {t : TaskId} {e : EngineId} {f : FlowId}

/-! ### What a refused call is told -/

/-- What is told of a flow that does not run. -/
inductive Refused (w : World V I) (e : EngineId) (f : FlowId) : Outcome V → Prop where
  /-- The engine does not know it. -/
  | notFound (hi : w.instance? e f = none) : Refused w e f (.error (.notFound f))
  /-- It has ended so. -/
  | terminated {i : Instance V} (hi : w.instance? e f = some i) (hs : i.status ≠ .running) :
      Refused w e f (.error (.terminated f i.status))

theorem refused_missing (hgone : w.running? e f = none) :
    Refused w e f (.error (.missing f (w.instance? e f))) := by
  cases hi : w.instance? e f with
  | none => exact .notFound hi
  | some i =>
    refine .terminated hi fun hs => ?_
    rw [running?_eq_some_iff.mpr ⟨i, hi, hs, rfl⟩] at hgone
    cases hgone

/-- A flow cannot be opened on a resource whose lane is occupied. -/
theorem step_of_occupied {eng : Engine V I} {serial : Nat} {q : StartRequest V} {lane : Lane}
    (he : w.engines[e]? = some eng) (hs : w.nextFlow ≤ serial)
    (hl : w.lane? q.resourceId = some lane) : w.step (.start e serial q) =
      some (w.addTask e (.refused (.conflict q.resourceId lane.flow lane.flowType))) := by
  have hd : w.desk? e = some ⟨w.registry, eng⟩ := by
    unfold desk?
    rw [he]
    rfl
  have hclaim : (⟨w.registry, eng⟩ : Desk V I).start (.opened serial) q =
      .error (.conflict q.resourceId lane.flow lane.flowType) := by
    unfold Desk.start Registry.enroll Registry.claim Lanes.claim
    simp only [show w.registry.lanes.lane? q.resourceId = some lane from hl]
  show w.start e serial q = _
  unfold start
  rw [hd, Option.bind_eq_bind, Option.bind_some, if_neg (Nat.not_lt.mpr hs), hclaim]

/-- The type that a lane names is that of its occupant. -/
def Typed (w : World V I) : Prop :=
  ∀ r lane e i, w.lane? r = some lane → w.instance? e lane.flow = some i →
    i.params.flowType = lane.flowType

theorem Typed.change {l : Label V I} (ht : Typed w) (h : Orderly w) (hc : Change w l w') :
    Typed w' := by
  intro r lane e i hl hi
  cases hc with
  | @opens e' serial q w' eng g ho =>
    rw [ho.lane?] at hl
    rw [ho.instance?] at hi
    split at hl
    · cases hl
      split at hi
      · cases hi
        rfl
      · -- No flow had this id before.
        rename_i hne
        exact absurd rfl (ho.ne_of_opened (h.keyed _ _ _ hi).2)
    · split at hi
      · rename_i hf
        obtain ⟨e', p, hp, -⟩ := h.occupant r lane hl
        exact absurd hf.2 (ho.ne_of_opened (h.running_keyed hp).2)
      · exact ht r lane e i hl hi
  | runs hr =>
    obtain ⟨j, hj, hp⟩ := h.kept_run hr hi
    rw [hp]
    rcases h.effect hr with hq | ⟨p, s, hq, -⟩
    · exact ht r lane e j ((hr.lane?_of_quiet hq r).symm.trans hl) hj
    · exact ht r lane e j (hr.lane?_before_quits hq hl) hj
  | refuses | delivers | cancels | elapses => exact ht r lane e i hl hi

/-! ### What a refused call changes -/

/-- But for task `t` and its place in the lines for locks, both worlds are the same. -/
structure SameBut (t : TaskId) (w w' : World V I) : Prop where
  /-- The time. -/
  now : w'.now = w.now
  /-- The engines, with all that they keep and have recorded. -/
  engines : w'.engines = w.engines
  /-- What is recorded of resources. -/
  statuses : w'.registry.statuses = w.registry.statuses
  /-- The lanes. -/
  occupied : w'.registry.lanes.occupied = w.registry.lanes.occupied
  /-- The locks that have been given out. -/
  nextLock : w'.registry.lanes.nextLock = w.registry.lanes.nextLock
  /-- Who else holds a lock or waits for it, in this order. -/
  line : ∀ l, (w'.registry.lanes.lock l).parties.filter (· ≠ t) =
    (w.registry.lanes.lock l).parties.filter (· ≠ t)
  /-- The other tasks. -/
  tasks : ∀ u, u ≠ t → w'.tasks[u]? = w.tasks[u]?
  /-- The ids that have been given out. -/
  nextFlow : w'.nextFlow = w.nextFlow

section Run

variable {reply : I.Reply} {task : Task V I} {eng : Engine V I} {d' : Desk V I} {work' : Work V I}

/-- No step of a task changes the order in which others stand in line for a lock. -/
theorem Queues.line_run (hq : Queues w) (hr : RunStep w t reply w' task eng d' work') (l : LockId) :
    (w'.registry.lanes.lock l).parties.filter (· ≠ t) =
      (w.registry.lanes.lock l).parties.filter (· ≠ t) := by
  rw [hr.registry]
  cases hq.lockMove hr with
  | keeps _ hl _ => rw [hl]
  | asks _ _ _ _ hl =>
    rw [hl]
    split
    · show ((w.registry.lanes.lock l).ask t).parties.filter _ = _
      rw [Lock.parties_ask (hq.sound l), List.filter_append]
      simp
    · rfl
  | passes _ hh _ hl =>
    rw [hl]
    split
    · rename_i hll
      subst hll
      rw [Lock.parties_pass (Lanes.isHeldBy_iff.mp hh)]
      simp
    · rfl

/-- A step that leaves the engine, the records and the lanes alone changes nothing else. -/
theorem RunStep.sameBut (hr : RunStep w t reply w' task eng d' work') (hq : Queues w)
    (hengine : d'.engine = eng) (hstatuses : d'.registry.statuses = w.registry.statuses)
    (hoccupied : d'.registry.lanes.occupied = w.registry.lanes.occupied) : SameBut t w w' where
  now := by rw [hr.result]
  engines := by
    rw [hr.result, hengine]
    obtain ⟨hlt, rfl⟩ := List.getElem?_eq_some_iff.mp hr.hasEngine
    exact List.set_getElem_self hlt
  statuses := by rw [hr.registry, hstatuses]
  occupied := by rw [hr.registry, hoccupied]
  nextLock := hr.nextLock
  line := hq.line_run hr
  tasks u hu := by rw [hr.tasks, if_neg hu]
  nextFlow := hr.nextFlow

/-- Whoever brings an event changes nothing until it has got hold of the lane of a flow that runs,
    and calls nothing. -/
theorem RunStep.sameBut_of_brings {x : V.Event}
    (hr : RunStep w t reply w' task eng d' work') (h : Orderly w) (hb : task.work.Brings f x)
    (hnext : work'.inHand? = none) :
    SameBut t w w' ∧ ∀ e g, w.invoked? e g (.run t reply) = none := by
  constructor
  · have hm := hr.move
    generalize task.work = work at hm hb
    cases hb with
    | arriving => cases hm <;> exact hr.sameBut h.queues rfl rfl rfl
    | queued =>
      cases hm with
      | admitted => cases hnext
      | _ => exact hr.sameBut h.queues rfl rfl rfl
  · intro e g
    show w.glimpse? e g _ t = none
    rw [glimpse?_eq hr.hasTask hr.hasEngine]
    generalize task.work = work at hb
    cases hb <;> rfl

/-- Whoever is told that the flow does not run brought an event until then. -/
theorem RunStep.brings_of_refused {o : Origin} {outcome : Outcome V}
    (hr : RunStep w t reply w' task eng d' (.process o f (.over outcome))) (h : Orderly w)
    (hout : outcome = .error (.notFound f) ∨ ∃ s, outcome = .error (.terminated f s)) :
    ∃ x, task.work.Brings f x := by
  have hhand := hr.hand h
  -- Whoever is told so is not told so in place of something else.
  have htold : ∀ {told : Outcome V},
      (o.report f told = .error (.notFound f) ∨
        ∃ s, o.report f told = .error (.terminated f s)) →
      told = .error (.notFound f) ∨ ∃ s, told = .error (.terminated f s) := by
    rintro told (hr | ⟨s, hr⟩)
    · exact .inl (Origin.eq_of_report hr.symm nofun)
    · exact .inr ⟨s, Origin.eq_of_report hr.symm nofun⟩
  have hm := hr.move
  generalize task.work = work at hm hhand
  cases hm with
  | unknown | ended | displaced => exact ⟨_, .arriving⟩
  | forgotten | late => exact ⟨_, .queued⟩
  | halt | handlerCancelled | actionCancelled => rcases htold hout with h | ⟨s, h⟩ <;> cases h
  | lost _ hi =>
    obtain ⟨j, hj, -⟩ := hhand _ _ rfl
    cases hj.symm.trans hi
  | refuse =>
    rw [Desk.told_reject] at hout
    rcases htold hout with h | ⟨s, h⟩ <;> cases h
  | completed =>
    obtain ⟨j, hj, -⟩ := hhand _ _ rfl
    rw [Desk.complete_eq (d := ⟨w.registry, eng⟩) hj w.now] at hout
    rcases htold hout with h | ⟨s, h⟩ <;> cases h
  | @parked _ _ _ p _ _ _ =>
    obtain ⟨j, hj, -⟩ := hhand _ _ rfl
    have hget : eng.get? p.flow = some j.snapshot := congrArg (Option.map _) hj
    rw [show (⟨w.registry, eng⟩ : Desk V I).engine.get? p.flow = _ from hget] at hout
    rcases htold hout with h | ⟨s, h⟩ <;> cases h

/-- There is nothing to cancel at an engine that does not run the occupant. -/
theorem run_of_idle {r : ResourceId} (h : Orderly w) (he : e < w.engines.length)
    (hk : w.tasks[t]? = some ⟨e, .cancel r .arriving⟩)
    (hidle : ∀ lane, w.lane? r = some lane → w.running? e lane.flow = none) :
    w.run t reply = some { w with tasks := w.tasks.set t ⟨e, .cancel r (.over none)⟩ } := by
  obtain ⟨w', hw'⟩ := Option.isSome_iff_exists.mp (run_isSome_iff.mpr
    ⟨_, _, hk, List.getElem?_eq_getElem he, rfl, nofun⟩)
  rw [hw']
  cases change_of_run hw' with
  | @runs _ _ _ task eng d' work' hr =>
    obtain rfl := Option.some.inj (hr.hasTask.symm.trans hk)
    have hover : work' = .cancel r (.over none) := by
      have hm := hr.move
      cases hm with
      | nothing => rfl
      | @request _ lane hl ho =>
        -- An engine that knows the occupant runs it.
        obtain ⟨i, hi⟩ := Option.isSome_iff_exists.mp ho
        obtain ⟨e', p, hp, -⟩ := h.occupant r lane hl
        obtain ⟨rfl, -⟩ := h.running_single ((hr.instance?_self _).trans hi) hp
        cases (hidle lane hl).symm.trans hp
    subst hover
    have hm := hr.move
    cases hm with
    | nothing =>
      obtain ⟨hlt, rfl⟩ := List.getElem?_eq_some_iff.mp hr.hasEngine
      rw [hr.result]
      dsimp only
      rw [List.set_getElem_self]

end Run

/-- Whoever brings an event after a step has brought it before, if it was there. -/
theorem brings_of_change {l : Label V I} {k k' : Task V I} {x : V.Event} (hc : Change w l w')
    (hk : w.tasks[t]? = some k) (hk' : w'.tasks[t]? = some k') (hb : k'.work.Brings f x) :
    k.work.Brings f x := by
  by_cases hl : ∃ reply, l = .run t reply
  · obtain ⟨reply, rfl⟩ := hl
    cases hc with
    | runs hr =>
      rw [hr.tasks, if_pos rfl] at hk'
      cases hk'
      obtain rfl := Option.some.inj (hr.hasTask.symm.trans hk)
      exact hr.move.brings_before hb
  · rw [task_of_change hc (fun reply h => hl ⟨reply, h⟩) hk] at hk'
    cases hk'
    exact hb

namespace Execution

variable {E : Execution V I} {engines : List (Definition V I × List (Handler V I) × Nat)}
  {n m : Nat}

theorem typed (h₀ : E.world 0 = initial engines) (n : Nat) : Typed (E.world n) := by
  induction n with
  | zero =>
    rw [h₀]
    intro r lane e i hl
    cases hl
  | succ n ih => exact ih.change (orderly h₀ n) (E.change n)

/-- Whoever brings an event has brought it as long as it is there. -/
theorem brings_till {k k' : Task V I} {x : V.Event} (hm : n ≤ m)
    (hk : (E.world n).tasks[t]? = some k) (hk' : (E.world m).tasks[t]? = some k')
    (hb : k'.work.Brings f x) : k.work.Brings f x := by
  induction hm generalizing k' with
  | refl =>
    cases hk.symm.trans hk'
    exact hb
  | @step m hm ih =>
    have hlt : t < (E.world m).tasks.length :=
      Nat.lt_of_lt_of_le (List.getElem?_eq_some_iff.mp hk).1 (tasks_length_mono hm)
    have hkm := List.getElem?_eq_getElem hlt
    exact ih hkm (brings_of_change (E.change m) hkm hk' hb)

/-- Refused calls are told why, and change nothing. -/
structure RefusesCleanly (E : Execution V I) : Prop where
  /-- Where a lane is occupied, nobody else can open a flow of the resource, at no engine. The
      caller is told of the flow that occupies it, and nothing else happens. -/
  conflict : ∀ n e serial (q : StartRequest V) lane, e < (E.world n).engines.length →
    (E.world n).nextFlow ≤ serial → (E.world n).lane? q.resourceId = some lane →
    (∃ e' p, (E.world n).running? e' lane.flow = some p ∧ p.flow = lane.flow ∧
      p.flowType = lane.flowType ∧ p.resourceId = q.resourceId) ∧
    (E.world n).step (.start e serial q) = some ((E.world n).addTask e
      (.refused (.conflict q.resourceId lane.flow lane.flowType)))
  /-- Whoever delivers an event and finds that the flow does not run, at once or after it has got
      hold of the lock, returns and is told so. -/
  told : ∀ n t reply e f stage x, E.label n = .run t reply →
    (E.world n).tasks[t]? = some ⟨e, .process .dispatched f stage⟩ →
    (Work.process .dispatched f stage : Work V I).Brings f x → (E.world n).running? e f = none →
    ∃ outcome, E.Returns n t e f outcome ∧ Refused (E.world n) e f outcome
  /-- It comes to that if the flow does not run any more, and its id is not still to be given
      out. -/
  returns : E.Fair → ∀ n t e f stage x, e < (E.world n).engines.length →
    (E.world n).tasks[t]? = some ⟨e, .process .dispatched f stage⟩ →
    (Work.process .dispatched f stage : Work V I).Brings f x → (E.world n).running? e f = none →
    (∀ serial, f = .opened serial → serial < (E.world n).nextFlow) →
    ∃ m outcome, n ≤ m ∧ E.Returns m t e f outcome ∧ Refused (E.world m) e f outcome
  /-- Whoever is told so has changed nothing in any of its steps, and has called no handler and no
      action. -/
  untouched : ∀ m t e f outcome, E.Returns m t e f outcome →
    (outcome = .error (.notFound f) ∨ ∃ s, outcome = .error (.terminated f s)) →
    ∀ n reply, n ≤ m → E.label n = .run t reply →
    SameBut t (E.world n) (E.world (n + 1)) ∧
      ∀ e' g, (E.world n).invoked? e' g (.run t reply) = none
  /-- A cancel at an engine that does not run the occupant comes to nothing, and nothing else
      happens. -/
  idle : ∀ n t reply e r, e < (E.world n).engines.length →
    (E.world n).tasks[t]? = some ⟨e, .cancel r .arriving⟩ →
    (∀ lane, (E.world n).lane? r = some lane → (E.world n).running? e lane.flow = none) →
    (E.world n).step (.run t reply) = some { E.world n with
      tasks := (E.world n).tasks.set t ⟨e, .cancel r (.over none)⟩ } ∧
    ∀ e' g, (E.world n).invoked? e' g (.run t reply) = none

end Execution

/-! ### The main result -/

/-- Whatever the engines on one registry, and in whatever order flows are started, events delivered
    and flows cancelled, refused calls are told why, and change nothing. -/
theorem refusals_change_nothing {engines : List (Definition V I × List (Handler V I) × Nat)}
    {E : Execution V I} (h₀ : E.world 0 = initial engines) : E.RefusesCleanly where
  conflict n e serial q lane he hs hl := by
    refine ⟨?_, step_of_occupied (List.getElem?_eq_getElem he) hs hl⟩
    obtain ⟨e', p, hp, hres⟩ := (Execution.orderly h₀ n).occupant _ lane hl
    obtain ⟨i, hi, -, rfl⟩ := running?_eq_some_iff.mp hp
    exact ⟨e', _, hp, ((Execution.orderly h₀ n).keyed _ _ _ hi).1,
      Execution.typed h₀ n _ lane e' i hl hi, hres⟩
  told n t reply e f stage x hl hk hb hgone :=
    ⟨_, ⟨reply, .dispatched, hl, Execution.over_of_missing hl hk hb hgone⟩,
      refused_missing hgone⟩
  returns hf n t e f stage x he hk hb hgone hknown := by
    have hengine : engines[e]? = some _ :=
      List.getElem?_eq_getElem (Execution.engines_length h₀ n ▸ he)
    have hlater (j : Nat) (hj : n ≤ j) : (E.world j).running? e f = none :=
      Execution.gone_later h₀ hengine hknown hgone hj
    obtain ⟨m, outcome, hm, ht⟩ := Execution.returns_missing hf h₀ hengine hlater hk hb
    obtain ⟨-, rfl⟩ := Execution.told_missing hlater hk hb ht
    exact ⟨m, _, hm, ht, refused_missing (hlater m hm)⟩
  untouched m t e f outcome ht hout n reply hn hl := by
    obtain ⟨replym, o, taskm, engm, dm, hlm, -, hrm⟩ := ht.runStep
    obtain ⟨x, hbm⟩ := hrm.brings_of_refused (Execution.orderly h₀ m) hout
    have hc := E.change n
    rw [hl] at hc
    generalize hw' : E.world (n + 1) = w' at hc
    cases hc with
    | @runs _ _ _ task eng d' work' hr =>
      subst hw'
      have hb := Execution.brings_till hn hr.hasTask hrm.hasTask hbm
      refine hr.sameBut_of_brings (Execution.orderly h₀ n) hb ?_
      rcases Nat.lt_or_eq_of_le hn with hlt | rfl
      · -- It brings the event after the step, too.
        have hk' : (E.world (n + 1)).tasks[t]? = some _ := (hr.tasks t).trans (if_pos rfl)
        have hb' := Execution.brings_till hlt hk' hrm.hasTask hbm
        dsimp only at hb'
        cases hb' <;> rfl
      · have hk' := (hr.tasks t).symm.trans (hrm.tasks t)
        rw [if_pos rfl, if_pos rfl] at hk'
        injection hk' with hk'
        injection hk' with _ hwork
        rw [hwork]
        rfl
  idle n t reply e r he hk hidle := by
    refine ⟨run_of_idle (Execution.orderly h₀ n) he hk hidle, fun e' g => ?_⟩
    show (E.world n).glimpse? e' g _ t = none
    rw [glimpse?_eq hk (List.getElem?_eq_getElem he)]
    rfl

/-- A flow of the first of two engines parks. The second engine is asked to cancel it, and to start
    a flow of its resource. Then the first engine is asked to cancel it; an event is delivered
    before the cancel takes effect, and one to a flow that nobody has opened. -/
def refusedRun : List (Label CascadingDelete.vocabulary Collaborators) :=
  let run := fun t => .run t fun _ => .error default
  clearingStart :: List.replicate 4 (run 0) ++
    [.cancel 1 7, run 1, .start 1 1 { resourceId := 7, resourceCrn := "rival", payload := default },
      .cancel 0 7, run 3, .dispatch 0 (.opened 0) cleared, run 4, run 3, run 4,
      .dispatch 0 (.opened 9) cleared, run 5]

/-- Two engines for such flows. -/
def clearingRivals : List (Definition CascadingDelete.vocabulary Collaborators ×
    List (Handler CascadingDelete.vocabulary Collaborators) × Nat) :=
  [(clearing none, [], 1), (clearing none, [], 0)]

/-- That run, after which only time passes. -/
def refusals : Execution CascadingDelete.vocabulary Collaborators :=
  .ofFollow (show (initial clearingRivals).follow refusedRun =
    some (((initial clearingRivals).follow refusedRun).get rfl) from rfl)

/-- The second engine has nothing to cancel, and its start is a conflict with the parked flow. The
    event that waits for the lock while the flow is cancelled is told so, and has changed nothing,
    neither when it asked for the lock nor when it got it; nor has the other event, which does not
    find its flow. -/
theorem refusals_change_nothing_clearing :
    (∃ w, (refusals.world 6).step (.run 1 fun _ => .error default) = some w ∧
      w.engines = (refusals.world 6).engines) ∧
    (∃ w, (refusals.world 7).step (.start 1 1
        { resourceId := 7, resourceCrn := "rival", payload := default }) = some w ∧
      w.tasks[2]? = some ⟨1, .refused (.conflict 7 (.opened 0) "environment-deletion")⟩) ∧
    (∃ m outcome, 12 ≤ m ∧ refusals.Returns m 4 0 (.opened 0) outcome) ∧
    refusals.Returns 13 4 0 (.opened 0) (.error (.terminated (.opened 0) .cancelled)) ∧
    SameBut 4 (refusals.world 11) (refusals.world 12) ∧
    SameBut 4 (refusals.world 13) (refusals.world 14) ∧
    refusals.Returns 15 5 0 (.opened 9) (.error (.notFound (.opened 9))) ∧
    SameBut 5 (refusals.world 15) (refusals.world 16) := by
  have h := refusals_change_nothing (E := refusals)
    (show refusals.world 0 = initial clearingRivals from rfl)
  have hf : refusals.Fair := Execution.fair_ofFollow _ (fun _ => .error default) (by decide)
  have hcancelled : refusals.Returns 13 4 0 (.opened 0)
      (.error (.terminated (.opened 0) .cancelled)) := ⟨_, _, rfl, rfl⟩
  have hunknown : refusals.Returns 15 5 0 (.opened 9) (.error (.notFound (.opened 9))) :=
    ⟨_, _, rfl, rfl⟩
  refine ⟨⟨_, (h.idle 6 1 _ 1 7 (by decide) rfl ?_).1, rfl⟩,
    ⟨_, (h.conflict 7 1 1 _ _ (by decide) (by decide) rfl).2, rfl⟩, ?_, hcancelled,
    (h.untouched 13 4 0 _ _ hcancelled (.inr ⟨_, rfl⟩) 11 _ (by decide) rfl).1,
    (h.untouched 13 4 0 _ _ hcancelled (.inr ⟨_, rfl⟩) 13 _ (by decide) rfl).1, hunknown,
    (h.untouched 15 5 0 _ _ hunknown (.inl rfl) 15 _ (by decide) rfl).1⟩
  · intro lane hl
    cases hl
    rfl
  · have hopened : ∀ serial, FlowId.opened 0 = .opened serial →
        serial < (refusals.world 13).nextFlow := by
      rintro _ ⟨⟩
      decide
    obtain ⟨m, outcome, hm, ht, -⟩ :=
      h.returns hf 13 4 0 (.opened 0) _ _ (by decide) rfl .queued rfl hopened
    exact ⟨m, outcome, Nat.le_of_succ_le hm, ht⟩

end World

end ResourceFlow
