import ResourceFlow.Proofs.World.AuditTrail
import ResourceFlow.Proofs.World.Lifecycle
import ResourceFlow.Proofs.World.Targets
/-! # Failures are routed

  An event of a flow comes to hand when it is delivered, when an action or a
  handler answers with it, or when it is built from an error. Each event that
  comes to hand is taken exactly once, in order, before the next one comes
  (`World.Execution.fetched_eq`). So the failure event of an action of a state
  that is not terminal, or of a handler, is the next event that is taken
  (`World.Execution.unrouted_or_routed`, `World.Execution.routed_of_fair`).

  The error of the action of a terminal state is lost: no event is built from
  it, and the flow ends as if its action had succeeded
  (`World.Execution.ends_after_failure`). So a flow can end finished although
  an action of it failed (`World.terminal_failure_unrouted`).

  The main result is `World.failures_routed`.
-/

namespace ResourceFlow

variable {V : Vocabulary} {I : Interface}

/-! ### Errors and events at hand -/

/-- The event that a task is about to take. -/
def Work.atHand? : Work V I → Option V.Event
  | .process _ _ (.ready _ _ event) => some event
  | _ => none

/-- A handler, or the action of a state that is not terminal, has just returned an error that is no
    cancellation, and this is the failure event built from it. -/
inductive Work.Fails (d : Definition V I) (f : FlowId) : Work V I → V.Event → Prop where
  /-- A handler. -/
  | handler {o : Origin} {lock : LockId} {p : FlowParameters} {event : V.Event} {h : Handler V I}
      {error : ActionError} (he : error.isCancellation = false) :
      Fails d f (.process o f (.handling lock p event h (.ended (.error error))))
        (h.failureEvent error event)
  /-- The action of a state that is not terminal. -/
  | action {o : Origin} {lock : LockId} {p : FlowParameters} {event : V.Event} {s : V.State}
      {error : ActionError} (he : error.isCancellation = false) (hs : d.isTerminal s = false) :
      Fails d f (.process o f (.acting lock p event s (.ended (.error error))))
        (d.failureEvent s event (some p) error)

/-- Whoever is about to take an event has a flow in hand. -/
theorem Work.inHand?_of_atHand? {w : Work V I} {x : V.Event} (h : w.atHand? = some x) :
    ∃ o g lock p, w = .process o g (.ready lock p x) := by
  unfold atHand? at h
  split at h
  · cases h
    exact ⟨_, _, _, _, rfl⟩
  · cases h

/-- Whoever takes an event has none at hand afterwards. -/
theorem Desk.Move.atHand?_of_atHand? {d d' : Desk V I} {t : TaskId} {now : Duration}
    {reply : I.Reply} {w w' : Work V I} (h : Move d t now reply w d' w') {x : V.Event}
    (hx : w.atHand? = some x) : w'.atHand? = none := by
  cases h with
  | halt _ | lost _ _ | hand _ _ _ | refuse _ _ _ _ | enter _ _ _ _ => rfl
  | _ => cases hx

/-- Whoever comes back with an error has a flow in hand. -/
theorem Work.Fails.inHand? {d : Definition V I} {f : FlowId} {w : Work V I} {x : V.Event}
    (h : w.Fails d f x) : w.atHand? = none ∧ w.flow? = some f ∧
      ∃ lock p, w.inHand? = some (lock, p) := by
  cases h <;> exact ⟨rfl, rfl, _, _, rfl⟩

/-- The step after an error brings the failure event to hand. -/
theorem Desk.Move.atHand?_of_fails {d d' : Desk V I} {t : TaskId} {now : Duration}
    {reply : I.Reply} {w w' : Work V I} (h : Move d t now reply w d' w') {f : FlowId} {x : V.Event}
    (hx : w.Fails d.engine.definition f x) : w'.atHand? = some x := by
  cases hx with
  | handler he =>
    cases h with
    | handlerFailed _ => rfl
    | handlerCancelled he' => exact absurd he' (by simp [he])
    | handle hn => exact absurd rfl (hn _)
  | action he hs =>
    cases h with
    | actionFailed _ _ => rfl
    | actionCancelled he' => exact absurd he' (by simp [he])
    | completed _ hs' => exact absurd hs' (by simp [hs])
    | act hn => exact absurd rfl (hn _)

namespace World

variable {w w' : World V I} {e : EngineId} {f : FlowId}

/-- For flow `f` of engine `e`, which has definition `d`, task `t` has just come back with an error
    from which event `x` is built. -/
def Failing (w : World V I) (d : Definition V I) (e : EngineId) (f : FlowId) (t : TaskId)
    (x : V.Event) : Prop :=
  ∃ k, w.tasks[t]? = some k ∧ k.engine = e ∧ k.work.Fails d f x

/-- Task `t` is about to take event `x` of flow `f` at engine `e`. -/
def Waits (w : World V I) (e : EngineId) (f : FlowId) (t : TaskId) (x : V.Event) : Prop :=
  ∃ k, w.tasks[t]? = some k ∧ k.engine = e ∧ k.work.flow? = some f ∧ k.work.atHand? = some x

/-- The event of flow `f` that came to hand at engine `e` in the step that led to this world. -/
def fetched? (w : World V I) (e : EngineId) (f : FlowId) : Label V I → Option V.Event
  | .run t _ => (w.tasks[t]?).bind fun k =>
    if k.engine = e ∧ k.work.flow? = some f then k.work.atHand? else none
  | _ => none

/-- Event `x` is still to be taken: task `t` has just come back with the error from which it is
    built, or is about to take it. -/
def Pending (w : World V I) (d : Definition V I) (e : EngineId) (f : FlowId) (t : TaskId)
    (x : V.Event) : Prop :=
  w.Failing d e f t x ∨ w.Waits e f t x

/-- A task that processes events of a flow and has a flow in hand, has that flow in hand. -/
theorem Orderly.flow_eq (h : Orderly w) {t : TaskId} {k : Task V I} {lock : LockId}
    {p : FlowParameters} (hk : w.tasks[t]? = some k) (hin : k.work.inHand? = some (lock, p))
    (hf : k.work.flow? = some f) : p.flow = f := by
  obtain ⟨o, g, stage, hw, hst⟩ := Work.stake?_of_inHand? hin
  have hst' := (h.atWork t k lock p hk hin).2
  rw [hst] at hst'
  rw [hw] at hf
  exact (congrArg Prod.snd (Option.some.inj hst')).symm.trans (Option.some.inj hf)

/-- One task only has a flow in hand. -/
theorem Orderly.holds_unique (h : Orderly w) {e' : EngineId} {t u : TaskId} {a b : Task V I}
    (ha : w.tasks[t]? = some a) (hb : w.tasks[u]? = some b) (hp : a.Holds e f)
    (hq : b.Holds e' f) : t = u := by
  obtain ⟨-, _, _, hp, hf⟩ := hp
  obtain ⟨-, _, _, hq, hf'⟩ := hq
  exact h.hand_unique ha hb hp hq (hf.trans hf'.symm)

/-- A flow that a task has in hand runs. -/
theorem Orderly.runs_of_holds (h : Orderly w) {t : TaskId} {k : Task V I}
    (hk : w.tasks[t]? = some k) (hold : k.Holds e f) : w.running? e f ≠ none := by
  obtain ⟨rfl, lock, p, hin, rfl⟩ := hold
  rw [(h.atWork t k lock p hk hin).1]
  exact nofun

/-- Whoever is about to take an event of a flow has the flow in hand. -/
theorem Waits.holds (h : Orderly w) {t : TaskId} {x : V.Event} (hw : w.Waits e f t x) :
    ∃ k, w.tasks[t]? = some k ∧ k.Holds e f ∧ k.work.atHand? = some x := by
  obtain ⟨k, hk, he, hf, hx⟩ := hw
  obtain ⟨_, _, lock, p, hwork⟩ := Work.inHand?_of_atHand? hx
  have hin : k.work.inHand? = some (lock, p) := by rw [hwork]; rfl
  exact ⟨k, hk, ⟨he, lock, p, hin, h.flow_eq hk hin hf⟩, hx⟩

/-- Whoever has just come back with an error has the flow in hand, and no event. -/
theorem Failing.holds (h : Orderly w) {d : Definition V I} {t : TaskId} {x : V.Event}
    (hw : w.Failing d e f t x) :
    ∃ k, w.tasks[t]? = some k ∧ k.Holds e f ∧ k.work.atHand? = none := by
  obtain ⟨k, hk, he, hx⟩ := hw
  obtain ⟨hat, hf, lock, p, hin⟩ := hx.inHand?
  exact ⟨k, hk, ⟨he, lock, p, hin, h.flow_eq hk hin hf⟩, hat⟩

/-- As long as an event is to be taken, its task has the flow in hand. -/
theorem Pending.holds (h : Orderly w) {d : Definition V I} {t : TaskId} {x : V.Event}
    (hw : w.Pending d e f t x) : ∃ k, w.tasks[t]? = some k ∧ k.Holds e f := by
  rcases hw with hx | hx
  · obtain ⟨k, hk, hold, -⟩ := hx.holds h
    exact ⟨k, hk, hold⟩
  · obtain ⟨k, hk, hold, -⟩ := hx.holds h
    exact ⟨k, hk, hold⟩

/-- One event of a flow is at hand at most. -/
theorem Orderly.waits_unique (h : Orderly w) {t u : TaskId} {x y : V.Event}
    (ht : w.Waits e f t x) (hu : w.Waits e f u y) : t = u ∧ x = y := by
  obtain ⟨a, ha, hold, hx⟩ := ht.holds h
  obtain ⟨b, hb, hold', hy⟩ := hu.holds h
  obtain rfl := h.holds_unique ha hb hold hold'
  obtain rfl := Option.some.inj (ha.symm.trans hb)
  exact ⟨rfl, Option.some.inj (hx.symm.trans hy)⟩

/-- If a task has a flow in hand and is not about to take an event, nobody is. -/
theorem Orderly.idle_of_holds (h : Orderly w) {t : TaskId} {k : Task V I}
    (hk : w.tasks[t]? = some k) (hold : k.Holds e f) (hat : k.work.atHand? = none) (u : TaskId)
    (x : V.Event) : ¬ w.Waits e f u x := by
  intro hu
  obtain ⟨b, hb, hold', hat'⟩ := hu.holds h
  obtain rfl := h.holds_unique hk hb hold hold'
  rw [Option.some.inj (hk.symm.trans hb), hat'] at hat
  cases hat

/-! ### One step -/

/-- Whoever takes an event of a flow was about to. -/
theorem waits_of_taken? (h : Orderly w) {t : TaskId} {reply : I.Reply} {x : Taken V}
    (hx : w.taken? e f (.run t reply) = some x) : w.Waits e f t x.event := by
  obtain ⟨u, reply', k, hl, hk, ⟨he, lock, p, hin, hf⟩, -⟩ := taken?_eq_some h hx
  cases hl
  unfold taken? at hx
  obtain ⟨k', hk', hx⟩ := Option.bind_eq_some_iff.mp hx
  obtain rfl := Option.some.inj (hk.symm.trans hk')
  obtain ⟨d, hd, hx⟩ := Option.bind_eq_some_iff.mp hx
  obtain ⟨o, g, lock', p', hw, -⟩ := Desk.taken?_eq_some (Option.filter_eq_some_iff.mp hx).1
  refine ⟨k, hk, he, ?_, by rw [hw]; rfl⟩
  have hst := (h.atWork t k lock p hk hin).2
  rw [hw] at hst ⊢
  exact (congrArg (fun s => some s.2) (Option.some.inj hst)).trans (congrArg some hf)

/-- A task is about to take an event as long as it takes no step. -/
theorem waits_of_change {l : Label V I} (hc : Change w l w') {t : TaskId}
    (hl : ∀ reply, l ≠ .run t reply) (x : V.Event) :
    w'.Waits e f t x ↔ w.Waits e f t x := by
  -- A task that was just added is not about to take an event.
  have hadd : ∀ (e' : EngineId) (work : Work V I), work.atHand? = none →
      ((w.addTask e' work).Waits e f t x ↔ w.Waits e f t x) := by
    intro e' work hnone
    constructor
    · rintro ⟨k, hk, hke, hf, hx⟩
      rcases tasks_addTask.mp hk with hk | ⟨-, rfl⟩
      · exact ⟨k, hk, hke, hf, hx⟩
      · rw [hnone] at hx
        cases hx
    · rintro ⟨k, hk, hw⟩
      exact ⟨k, tasks_addTask.mpr (.inl hk), hw⟩
  cases hc with
  | refuses | delivers | cancels => exact hadd _ _ rfl
  | elapses => exact .rfl
  | opens ho =>
    rw [ho.result]
    exact hadd _ _ rfl
  | @runs u reply _ _ _ _ _ hr =>
    unfold Waits
    rw [hr.tasks, if_neg]
    rintro rfl
    exact hl reply rfl

section Run

variable {t : TaskId} {reply : I.Reply} {task : Task V I} {eng : Engine V I} {d' : Desk V I}
  {work' : Work V I}

/-- What the task that takes a step is about to take afterwards. -/
theorem RunStep.waits_self (hr : RunStep w t reply w' task eng d' work') (x : V.Event) :
    w'.Waits e f t x ↔
      task.engine = e ∧ task.work.flow? = some f ∧ work'.atHand? = some x := by
  unfold Waits
  rw [hr.tasks, if_pos rfl]
  constructor
  · rintro ⟨k, hk, he, hf, hx⟩
    obtain rfl := Option.some.inj hk
    exact ⟨he, hr.move.flow?_eq ▸ hf, hx⟩
  · rintro ⟨he, hf, hx⟩
    exact ⟨_, rfl, he, hr.move.flow?_eq.trans hf, hx⟩

/-- What comes to hand is what the task is then about to take. -/
theorem RunStep.fetched?_eq (hr : RunStep w t reply w' task eng d' work') {x : V.Event} :
    w'.fetched? e f (.run t reply) = some x ↔ w'.Waits e f t x := by
  have hself := hr.tasks t
  rw [if_pos rfl] at hself
  simp only [fetched?, hself, Option.bind_some, hr.waits_self, hr.move.flow?_eq]
  split <;> simp_all

end Run

/-- The step after a failure brings the failure event to hand. -/
theorem Failing.waits {d : Definition V I} {t : TaskId} {reply : I.Reply} {x : V.Event}
    (hx : w.Failing d e f t x) {eng : Engine V I} (he : w.engines[e]? = some eng)
    (hd : eng.definition = d) (hc : Change w (.run t reply) w') : w'.Waits e f t x := by
  obtain ⟨k, hk, rfl, hx⟩ := hx
  subst hd
  cases hc with
  | runs hr =>
    obtain rfl := Option.some.inj (hr.hasTask.symm.trans hk)
    obtain rfl := Option.some.inj (hr.hasEngine.symm.trans he)
    exact (hr.waits_self x).mpr ⟨rfl, hx.inHand?.2.1, hr.move.atHand?_of_fails hx⟩

/-- The step after the action of a terminal state ends the flow, also if the action failed: the flow
    has failed if a failure was recorded, and is finished else. -/
theorem RunStep.completes {t : TaskId} {reply : I.Reply} {task : Task V I} {eng : Engine V I}
    {d' : Desk V I} {work' : Work V I} (hr : RunStep w t reply w' task eng d' work') {o : Origin}
    {lock : LockId} {i : Instance V} {event : V.Event} {s : V.State} {r : ActionResult V}
    (hw : task.work = .process o f (.acting lock i.params event s (.ended r)))
    (hres : ∀ error, r = .error error → error.isCancellation = false)
    (hs : eng.definition.isTerminal s = true)
    (hi : w.instance? task.engine i.params.flow = some i) (hrun : i.status = .running) :
    w'.instance? task.engine i.params.flow =
        some (i.finish (if i.failure.isSome then .failed else .finished) w.now) ∨
      (w.Full task.engine ∧ w'.instance? task.engine i.params.flow = none) := by
  have hi : eng.instance? i.params.flow = some i := (hr.instance?_self _).symm.trans hi
  rw [hr.instance?, if_pos rfl]
  have hm := hr.move
  rw [hw] at hm
  cases hm with
  | completed _ _ =>
    have hfin := Desk.instance?_conclude_self (d := ⟨w.registry, eng⟩) hi hrun
      (if i.failure.isSome then .failed else .finished) w.now
    have heq := congrArg (·.1.engine.instance? i.params.flow)
      (Desk.complete_eq (d := ⟨w.registry, eng⟩) hi w.now)
    refine hfin.imp heq.trans fun hn => ⟨⟨eng, hr.hasEngine, hn.1⟩, heq.trans hn.2⟩
  | act hn => exact absurd rfl (hn _)
  | acted hs' | actionFailed _ hs' | parked hs' => exact absurd hs (Bool.eq_false_iff.mp hs')
  | actionCancelled he => exact absurd he (by simp [hres _ rfl])

/-- A flow whose instance is finished or forgotten does not run. -/
theorem running?_of_ended {i : Instance V} {b : Bool} {now : Duration}
    (hr : i.status = .running)
    (hi : w.instance? e f = some (i.finish (if b then .failed else .finished) now) ∨
      w.instance? e f = none) : w.running? e f = none := by
  refine Option.eq_none_iff_forall_ne_some.mpr fun p hp => ?_
  obtain ⟨j, hj, hrun, -⟩ := running?_eq_some_iff.mp hp
  rcases hi with hi | hi
  · rw [← Option.some.inj (hi.symm.trans hj), Instance.status_finish_of_running hr] at hrun
    split at hrun <;> cases hrun
  · rw [hi] at hj
    cases hj

/-- An event is to be taken until its task is about to take it and takes a step. -/
theorem Pending.change {d : Definition V I} {t : TaskId} {x : V.Event} {l : Label V I}
    (hx : w.Pending d e f t x) {eng : Engine V I} (he : w.engines[e]? = some eng)
    (hd : eng.definition = d) (hc : Change w l w')
    (hl : ∀ reply, l = .run t reply → ¬ w.Waits e f t x) : w'.Pending d e f t x := by
  by_cases hown : ∀ reply, l ≠ .run t reply
  · refine hx.imp ?_ (waits_of_change hc hown x).mpr
    rintro ⟨k, hk, hx⟩
    exact ⟨k, task_of_change hc hown hk, hx⟩
  · obtain ⟨reply, rfl⟩ := Classical.not_forall_not.mp hown
    exact .inr ((hx.resolve_right (hl reply rfl)).waits he hd hc)

/-! ### What comes to hand is taken once -/

namespace Execution

variable {E : Execution V I} {engines : List (Definition V I × List (Handler V I) × Nat)}
  {d : Definition V I} {hs : List (Handler V I)} {retention n m : Nat} {t : TaskId}
  {reply : I.Reply} {x : V.Event}

/-- The events of flow `f` that came to hand at engine `e` in the first steps. -/
def fetched (E : Execution V I) (e : EngineId) (f : FlowId) : Nat → List V.Event
  | 0 => []
  | n + 1 => E.fetched e f n ++ ((E.world (n + 1)).fetched? e f (E.label n)).toList

/-- Whoever is about to take an event takes it in its next step, and drops it only if the resource
    is cancelled. -/
theorem taken?_of_waits (h₀ : E.world 0 = initial engines)
    (he : engines[e]? = some (d, hs, retention)) (hl : E.label n = .run t reply)
    (hw : (E.world n).Waits e f t x) :
    ∃ y, (E.world n).taken? e f (E.label n) = some y ∧ y.event = x ∧
      (y.fate = .dropped →
        (E.world n).registry.isCancelled y.run.params.resourceId = true) := by
  obtain ⟨k, hk, hke, hf, hx⟩ := hw
  obtain ⟨o, g, lock, p, hwork⟩ := Work.inHand?_of_atHand? hx
  have h := (poised h₀ n).orderly
  have hin : k.work.inHand? = some (lock, p) := by rw [hwork]; rfl
  obtain rfl := h.flow_eq hk hin hf
  obtain ⟨i, hi, htaken⟩ := taken?_of_ready h₀ he hl hk hke hwork
  refine ⟨_, htaken, rfl, fun hdrop => ?_⟩
  -- The instance has the parameters with which the task works.
  obtain ⟨j, hj, -, hp⟩ := running?_eq_some_iff.mp (h.atWork t k lock p hk hin).1
  rw [hke] at hj
  obtain rfl := Option.some.inj (hi.symm.trans hj)
  show (E.world n).registry.isCancelled i.params.resourceId = true
  rw [hp]
  refine Classical.byContradiction fun hno => ?_
  -- Handlers and transitions drop nothing.
  dsimp only at hdrop
  rw [if_neg hno] at hdrop
  split at hdrop
  · cases hdrop
  · cases htrans : d.transition i.state x.selector <;> rw [htrans] at hdrop <;> cases hdrop

/-- In a step, what is at hand and what comes to hand is what is taken and what is at hand
    afterwards. -/
theorem conserved (h₀ : E.world 0 = initial engines)
    (he : engines[e]? = some (d, hs, retention)) {rest : Option V.Event}
    (hrest : ∀ x, (∃ t, (E.world n).Waits e f t x) ↔ rest = some x) :
    ∃ rest' : Option V.Event,
      rest.toList ++ ((E.world (n + 1)).fetched? e f (E.label n)).toList =
        (((E.world n).taken? e f (E.label n)).map Taken.event).toList ++ rest'.toList ∧
      ∀ x, (∃ t, (E.world (n + 1)).Waits e f t x) ↔ rest' = some x := by
  have h := (poised h₀ n).orderly
  have h' := (poised h₀ (n + 1)).orderly
  have hother := fun {t} hl x => waits_of_change (e := e) (f := f) (t := t) (E.change n) hl x
  by_cases hl : ∃ t reply, E.label n = .run t reply
  · obtain ⟨t, reply, hl⟩ := hl
    have hne : ∀ {u}, u ≠ t → ∀ reply, E.label n ≠ .run u reply := by
      rintro u hu reply' hl'
      rw [hl] at hl'
      cases hl'
      exact hu rfl
    have hc := E.change n
    rw [hl] at hc
    cases hc with
    | @runs _ _ _ task eng d' work' hr =>
    have hfetched := fun x => hl ▸ hr.fetched?_eq (e := e) (f := f) (x := x)
    by_cases hown : ∃ y, (E.world n).Waits e f t y
    · -- The event at hand is taken, and none is at hand afterwards.
      obtain ⟨y, hy⟩ := hown
      obtain ⟨z, hz, rfl, -⟩ := taken?_of_waits h₀ he hl hy
      have hself : ∀ x, ¬ (E.world (n + 1)).Waits e f t x := by
        intro x hx
        obtain ⟨k, hk, -, -, hat⟩ := hy
        obtain rfl := Option.some.inj (hr.hasTask.symm.trans hk)
        have hx := (hr.waits_self x).mp hx
        rw [hr.move.atHand?_of_atHand? hat] at hx
        cases hx.2.2
      have hnone : (E.world (n + 1)).fetched? e f (E.label n) = none :=
        Option.eq_none_iff_forall_ne_some.mpr fun x hx => hself x ((hfetched x).mp hx)
      refine ⟨none, ?_, fun x => ⟨?_, nofun⟩⟩
      · rw [hnone, hz, (hrest _).mp ⟨t, hy⟩]
        rfl
      · rintro ⟨u, hu⟩
        by_cases hut : u = t
        · exact absurd (hut ▸ hu) (hself x)
        · exact absurd (h.waits_unique ((hother (hne hut) x).mp hu) hy).1 hut
    · have hnone : (E.world n).taken? e f (E.label n) = none := by
        rw [hl]
        exact Option.eq_none_iff_forall_ne_some.mpr fun y hy => hown ⟨_, waits_of_taken? h hy⟩
      rw [hnone]
      cases hx : (E.world (n + 1)).fetched? e f (E.label n) with
      | some x =>
        -- The event that comes to hand is the only one.
        have hx := (hfetched x).mp hx
        have hidle : rest = none := by
          refine Option.eq_none_iff_forall_ne_some.mpr fun y hy => ?_
          obtain ⟨u, hu⟩ := (hrest y).mpr hy
          have hut : u ≠ t := by
            rintro rfl
            exact hown ⟨y, hu⟩
          exact hut (h'.waits_unique ((hother (hne hut) y).mpr hu) hx).1
        refine ⟨some x, by rw [hidle]; rfl, fun y => ⟨?_, ?_⟩⟩
        · rintro ⟨u, hu⟩
          rw [(h'.waits_unique hx hu).2]
        · rintro hy
          exact ⟨t, Option.some.inj hy ▸ hx⟩
      | none =>
        refine ⟨rest, (List.append_nil _).trans (List.nil_append _).symm, fun x => ?_⟩
        rw [← hrest]
        refine exists_congr fun u => ?_
        by_cases hut : u = t
        · subst hut
          refine iff_of_false (fun hu => ?_) fun hu => hown ⟨x, hu⟩
          rw [(hfetched x).mpr hu] at hx
          cases hx
        · exact hother (hne hut) x
  · -- No task takes a step, so nothing comes to hand and nothing is taken.
    have hl' : ∀ t reply, E.label n ≠ .run t reply := fun t reply hn => hl ⟨t, reply, hn⟩
    refine ⟨rest, ?_, fun x => ?_⟩
    · cases hlab : E.label n with
      | run t reply => exact absurd hlab (hl' t reply)
      | _ => exact List.append_nil _
    · rw [← hrest]
      exact exists_congr fun t => hother (hl' t) x

/-- Every event that comes to hand is taken exactly once, in order, and one is at hand at most. -/
theorem fetched_eq (h₀ : E.world 0 = initial engines)
    (he : engines[e]? = some (d, hs, retention)) (f : FlowId) (n : Nat) :
    ∃ rest : Option V.Event,
      E.fetched e f n = (E.taken e f n).map Taken.event ++ rest.toList ∧
      ∀ x, (∃ t, (E.world n).Waits e f t x) ↔ rest = some x := by
  induction n with
  | zero =>
    refine ⟨none, rfl, fun x => ⟨?_, nofun⟩⟩
    rintro ⟨t, k, hk, -⟩
    rw [h₀] at hk
    cases hk
  | succ n ih =>
    obtain ⟨rest, heq, hrest⟩ := ih
    obtain ⟨rest', hstep, hrest'⟩ := conserved h₀ he hrest
    refine ⟨rest', ?_, hrest'⟩
    rw [fetched, taken, heq, List.append_assoc, hstep, List.map_append, List.append_assoc]
    cases (E.world n).taken? e f (E.label n) <;> rfl

/-! ### After a failure -/

/-- The step after a failure of an execution brings the failure event to hand. -/
theorem waits_of_failing (h₀ : E.world 0 = initial engines)
    (he : engines[e]? = some (d, hs, retention)) (hl : E.label n = .run t reply)
    (hx : (E.world n).Failing d e f t x) : (E.world (n + 1)).Waits e f t x := by
  obtain ⟨eng, heng, rfl, -⟩ := engine h₀ he n
  exact hx.waits heng rfl (hl ▸ E.change n)

/-- If nobody is about to take an event, all that came to hand was taken. -/
theorem fetched_of_idle (h₀ : E.world 0 = initial engines)
    (he : engines[e]? = some (d, hs, retention))
    (hidle : ∀ t x, ¬ (E.world n).Waits e f t x) :
    E.fetched e f n = (E.taken e f n).map Taken.event := by
  obtain ⟨rest, heq, hrest⟩ := fetched_eq h₀ he f n
  have hnone : rest = none := by
    refine Option.eq_none_iff_forall_ne_some.mpr fun y hy => ?_
    obtain ⟨u, hu⟩ := (hrest y).mpr hy
    exact hidle u y hu
  rw [heq, hnone]
  exact List.append_nil _

/-- The failure event comes to hand once, right after the events that were taken so far. -/
theorem fetched_of_failing (h₀ : E.world 0 = initial engines)
    (he : engines[e]? = some (d, hs, retention)) (hl : E.label n = .run t reply)
    (hx : (E.world n).Failing d e f t x) :
    E.fetched e f (n + 1) = (E.taken e f n).map Taken.event ++ [x] := by
  have h := (poised h₀ n).orderly
  obtain ⟨k, hk, hold, hat⟩ := hx.holds h
  have hidle := h.idle_of_holds hk hold hat
  have hfetched : (E.world (n + 1)).fetched? e f (E.label n) = some x := by
    have hw := waits_of_failing h₀ he hl hx
    have hc := E.change n
    rw [hl] at hc ⊢
    cases hc with
    | runs hr => exact hr.fetched?_eq.mpr hw
  rw [fetched, fetched_of_idle h₀ he hidle, hfetched, Option.toList_some]

/-- A task that has a flow in hand, and is not about to take an event in this step, leaves none to
    be taken. -/
theorem taken_of_holds (h₀ : E.world 0 = initial engines) {k : Task V I}
    (hk : (E.world n).tasks[t]? = some k) (hold : k.Holds e f)
    (hl : (∀ reply, E.label n ≠ .run t reply) ∨ k.work.atHand? = none) :
    E.taken e f (n + 1) = E.taken e f n := by
  have h := (poised h₀ n).orderly
  have hnone : (E.world n).taken? e f (E.label n) = none := by
    refine Option.eq_none_iff_forall_ne_some.mpr fun y hy => ?_
    obtain ⟨u, reply, -, hlab, -⟩ := taken?_eq_some h hy
    rw [hlab] at hy
    obtain ⟨b, hb, hold', hat⟩ := (waits_of_taken? h hy).holds h
    obtain rfl := h.holds_unique hk hb hold hold'
    rcases hl with hl | hl
    · exact hl reply hlab
    · obtain rfl := Option.some.inj (hk.symm.trans hb)
      rw [hl] at hat
      cases hat
  rw [taken, hnone]
  exact List.append_nil _

/-- The failure event is still to be taken, and nothing was taken since step `n`. -/
def Unrouted (E : Execution V I) (d : Definition V I) (e : EngineId) (f : FlowId) (t : TaskId)
    (x : V.Event) (n m : Nat) : Prop :=
  E.taken e f m = E.taken e f n ∧ (E.world m).Pending d e f t x

/-- The failure event is the next event that is processed after step `n`. -/
def Routed (E : Execution V I) (e : EngineId) (f : FlowId) (x : V.Event) (n m : Nat) : Prop :=
  ∃ y rest, E.taken e f m = E.taken e f n ++ y :: rest ∧ y.event = x ∧ y.fate ≠ .dropped

/-- What was processed stays processed. -/
theorem Routed.later {m' : Nat} (h : E.Routed e f x n m) (hm : m ≤ m') : E.Routed e f x n m' := by
  obtain ⟨y, rest, heq, hy⟩ := h
  obtain ⟨more, hmore⟩ := taken_grows (E := E) (e := e) (f := f) hm
  exact ⟨y, rest ++ more, by rw [← hmore, heq, List.append_assoc]; rfl, hy⟩

/-- What is still to be taken was not processed. -/
theorem Unrouted.not_routed (h : E.Unrouted d e f t x n m) : ¬ E.Routed e f x n m := by
  rintro ⟨y, rest, heq, -⟩
  rw [h.1] at heq
  exact absurd (List.self_eq_append_right.mp heq) (List.cons_ne_nil y rest)

/-- Unless a cancel of the flow is recorded, its resource is not marked while it runs. -/
theorem not_cancelled_of_uncancelled (h₀ : E.world 0 = initial engines)
    (hno : ∀ m r, ¬ CancelRecorded (E.world m) (E.world (m + 1)) r f) {i : Instance V}
    (hi : (E.world n).instance? e f = some i) (hr : i.status = .running) :
    (E.world n).registry.isCancelled i.params.resourceId = false := by
  refine Bool.eq_false_iff.mpr fun hc => ?_
  -- A mark would be one of the occupant of the lane, and that is this flow.
  obtain ⟨lane, hl, m, e', -, ht⟩ := target_of_marked h₀ (of_decide_eq_true hc)
  obtain ⟨lane', hl', rfl⟩ := (poised h₀ n).orderly.occupies e f i.params
    (running?_eq_some_iff.mpr ⟨i, hi, hr, rfl⟩)
  obtain rfl := Option.some.inj (hl.symm.trans hl')
  obtain ⟨u, -, lock, -, hu, hu'⟩ := ht.issued
  exact hno m _ ⟨u, _, _, lock, hu, rfl, hu', rfl⟩

/-- A task that is about to take the failure event processes it. -/
theorem routed_of_waits (h₀ : E.world 0 = initial engines)
    (he : engines[e]? = some (d, hs, retention))
    (hno : ∀ m r, ¬ CancelRecorded (E.world m) (E.world (m + 1)) r f)
    (heq : E.taken e f m = E.taken e f n) (hl : E.label m = .run t reply)
    (hw : (E.world m).Waits e f t x) : E.Routed e f x n (m + 1) := by
  obtain ⟨y, hy, hyx, hdrop⟩ := taken?_of_waits h₀ he hl hw
  refine ⟨y, [], by rw [taken, hy, heq]; rfl, hyx, fun hfate => ?_⟩
  obtain ⟨-, -, -, -, -, -, hi, hrun⟩ := taken?_eq_some (poised h₀ m).orderly hy
  have hc := hdrop hfate
  rw [not_cancelled_of_uncancelled h₀ hno hi hrun] at hc
  cases hc

/-- A step leaves the failure event to be taken, or takes it. -/
theorem Unrouted.step (h₀ : E.world 0 = initial engines)
    (he : engines[e]? = some (d, hs, retention))
    (hno : ∀ m r, ¬ CancelRecorded (E.world m) (E.world (m + 1)) r f)
    (h : E.Unrouted d e f t x n m) :
    E.Unrouted d e f t x n (m + 1) ∨ E.Routed e f x n (m + 1) := by
  have ho := (poised h₀ m).orderly
  obtain ⟨eng, heng, hd, -⟩ := engine h₀ he m
  obtain ⟨heq, hx⟩ := h
  by_cases hl : ∀ reply, E.label m = .run t reply → ¬ (E.world m).Waits e f t x
  · refine .inl ⟨Eq.trans ?_ heq, hx.change heng hd (E.change m) hl⟩
    -- Where the task takes the step, it comes back with the error and takes no event.
    by_cases hown : ∀ reply, E.label m ≠ .run t reply
    · obtain ⟨k, hk, hold⟩ := hx.holds ho
      exact taken_of_holds h₀ hk hold (.inl hown)
    · obtain ⟨reply, hrun⟩ := Classical.not_forall_not.mp hown
      obtain ⟨k, hk, hold, hat⟩ := (hx.resolve_right (hl reply hrun)).holds ho
      exact taken_of_holds h₀ hk hold (.inr hat)
  · obtain ⟨reply, hl⟩ := Classical.not_forall.mp hl
    obtain ⟨hrun, hw⟩ := Classical.not_imp.mp hl
    exact .inr (routed_of_waits h₀ he hno heq hrun (Classical.not_not.mp hw))

/-- From a failure on, the failure event is to be taken, or it was the next event that was
    processed. -/
theorem unrouted_or_routed (h₀ : E.world 0 = initial engines)
    (he : engines[e]? = some (d, hs, retention))
    (hno : ∀ m r, ¬ CancelRecorded (E.world m) (E.world (m + 1)) r f)
    (h : E.Unrouted d e f t x n n) (hm : n ≤ m) :
    E.Unrouted d e f t x n m ∨ E.Routed e f x n m := by
  induction hm with
  | refl => exact .inl h
  | @step m _ ih =>
    rcases ih with hun | hr
    · exact hun.step h₀ he hno
    · exact .inr (hr.later (Nat.le_succ m))

/-- A task that has a flow in hand can take a step. -/
theorem canRun_of_holds (h₀ : E.world 0 = initial engines)
    (he : engines[e]? = some (d, hs, retention)) {k : Task V I}
    (hk : (E.world n).tasks[t]? = some k) (hold : k.Holds e f) : (E.world n).CanRun t := by
  obtain ⟨rfl, lock, p, hin, -⟩ := hold
  obtain ⟨eng, heng, -⟩ := engine h₀ he n
  intro reply
  refine run_isSome_iff.mpr ⟨k, eng, hk, heng, ?_⟩
  generalize k.work = work at hin
  unfold Work.inHand? at hin
  split at hin
  · exact ⟨rfl, nofun⟩
  · exact ⟨rfl, nofun⟩
  · exact ⟨rfl, nofun⟩
  · cases hin

/-- In a fair execution the task that is to take the failure event takes its next step some time,
    from where it stands. -/
theorem Unrouted.takes_step (h₀ : E.world 0 = initial engines)
    (he : engines[e]? = some (d, hs, retention)) (hf : E.Fair) (h : E.Unrouted d e f t x n m) :
    ∃ m' reply, m ≤ m' ∧ E.label m' = .run t reply ∧
      (E.world m').tasks[t]? = (E.world m).tasks[t]? := by
  obtain ⟨k, hk, hold⟩ := h.2.holds (poised h₀ m).orderly
  obtain ⟨m', reply, hm, hl, hk'⟩ :=
    hf.takes_step (fun i => (poised h₀ i).orderly.queues) (canRun_of_holds h₀ he hk hold) hk
  exact ⟨m', reply, hm, hl, hk'.trans hk.symm⟩

/-- In a fair execution the failure event is processed: its task brings it to hand some time, and
    takes it some time after that. -/
theorem routed_of_fair (h₀ : E.world 0 = initial engines)
    (he : engines[e]? = some (d, hs, retention))
    (hno : ∀ m r, ¬ CancelRecorded (E.world m) (E.world (m + 1)) r f) (hf : E.Fair)
    (hx : (E.world n).Failing d e f t x) : ∃ m, n ≤ m ∧ E.Routed e f x n m := by
  have hstart : E.Unrouted d e f t x n n := ⟨rfl, .inl hx⟩
  obtain ⟨m, reply, hm, hl, hk⟩ := hstart.takes_step h₀ he hf
  have hwaits : (E.world (m + 1)).Waits e f t x :=
    waits_of_failing h₀ he hl (by simpa only [Failing, hk] using hx)
  rcases unrouted_or_routed h₀ he hno hstart (Nat.le_succ_of_le hm) with hun | hr
  · obtain ⟨m', reply', hm', hl', hk'⟩ := hun.takes_step h₀ he hf
    have hnm : n ≤ m' := Nat.le_trans (Nat.le_succ_of_le hm) hm'
    rcases unrouted_or_routed h₀ he hno hstart hnm with hun' | hr
    · have hw : (E.world m').Waits e f t x := by simpa only [Waits, hk'] using hwaits
      exact ⟨m' + 1, Nat.le_succ_of_le hnm, routed_of_waits h₀ he hno hun'.1 hl' hw⟩
    · exact ⟨m', hnm, hr⟩
  · exact ⟨m + 1, Nat.le_succ_of_le hm, hr⟩

/-- A flow does not end between a failure and the failure event, not even in a step in which its end
    is forgotten. -/
theorem routed_of_ended (h₀ : E.world 0 = initial engines)
    (he : engines[e]? = some (d, hs, retention))
    (hno : ∀ m r, ¬ CancelRecorded (E.world m) (E.world (m + 1)) r f)
    (hx : (E.world n).Failing d e f t x) (hm : n < m) {i : Instance V} (hi : E.Shows e f m i)
    (hend : i.status ≠ .running) : E.Routed e f x n m := by
  have hcase := fun {m} => unrouted_or_routed (m := m) h₀ he hno ⟨rfl, .inl hx⟩
  -- An instance that has ended is not that of a flow of which an event is still to be taken.
  have hruns : ∀ {w : World V I}, Orderly w → w.Pending d e f t x → w.instance? e f ≠ some i := by
    intro w h hp hi
    obtain ⟨k, hk, hold⟩ := hp.holds h
    refine h.runs_of_holds hk hold (Option.eq_none_iff_forall_ne_some.mpr fun p hp => ?_)
    obtain ⟨j, hj, hrun, -⟩ := running?_eq_some_iff.mp hp
    exact hend (Option.some.inj (hi.symm.trans hj) ▸ hrun)
  refine (hcase (Nat.le_of_lt hm)).resolve_left fun hun => ?_
  cases hi with
  | kept hi => exact hruns (poised h₀ m).orderly hun.2 hi
  | @roomy m w _ hs hi =>
    have hbefore := (hcase (Nat.le_of_lt_succ hm)).resolve_right fun hr =>
      hun.not_routed (hr.later (Nat.le_succ m))
    have hp : (E.world m).roomy.Pending d e f t x := hbefore.2
    obtain ⟨eng, heng, hd, -⟩ := engine h₀ he m
    have hc := change_of_step hs
    refine hruns ((poised h₀ m).roomy.change hc).orderly
      (hp.change (engine_roomy heng) hd hc fun reply hl hw => ?_) hi
    exact hun.not_routed (routed_of_waits h₀ he hno hbefore.1 hl hw)

/-! ### After the action of a terminal state -/

/-- No event of a flow that has ended is taken or comes to hand. -/
theorem taken_of_ended (h₀ : E.world 0 = initial engines)
    (he : engines[e]? = some (d, hs, retention)) (hop : (E.world n).Opened f)
    (hr : (E.world n).running? e f = none) (hm : n ≤ m) :
    E.taken e f m = E.taken e f n ∧ E.fetched e f m = (E.taken e f m).map Taken.event := by
  have hidle : ∀ m, n ≤ m → ∀ t x, ¬ (E.world m).Waits e f t x := by
    intro m hm t x hw
    have h := (poised h₀ m).orderly
    obtain ⟨k, hk, hold, -⟩ := hw.holds h
    exact h.runs_of_holds hk hold (ended_stays h₀ he hop hr hm).2
  refine ⟨?_, fetched_of_idle h₀ he (hidle m hm)⟩
  induction hm with
  | refl => rfl
  | @step m hm ih =>
    have hnone : (E.world m).taken? e f (E.label m) = none := by
      refine Option.eq_none_iff_forall_ne_some.mpr fun x hx => ?_
      obtain ⟨t, reply, -, hl, -⟩ := taken?_eq_some (poised h₀ m).orderly hx
      rw [hl] at hx
      exact hidle m hm t _ (waits_of_taken? (poised h₀ m).orderly hx)
    rw [taken, hnone, ih]
    exact List.append_nil _

/-- The error of the action of a terminal state is lost. The flow ends in that step, as it would
    without the error, and no event of it is taken or comes to hand any more. -/
theorem ends_after_failure (h₀ : E.world 0 = initial engines)
    (he : engines[e]? = some (d, hs, retention)) (hl : E.label n = .run t reply) {o : Origin}
    {lock : LockId} {p : FlowParameters} {event : V.Event} {s : V.State} {error : ActionError}
    (hk : (E.world n).tasks[t]? =
      some ⟨e, .process o f (.acting lock p event s (.ended (.error error)))⟩)
    (hc : error.isCancellation = false) (hs : d.isTerminal s = true) :
    ∃ i, (E.world n).instance? e f = some i ∧
      E.Shows e f (n + 1)
        (i.finish (if i.failure.isSome then .failed else .finished) (E.world n).now) ∧
      ∀ m, n < m → E.taken e f m = E.taken e f n ∧ E.fetched e f m = E.fetched e f n := by
  have h := (poised h₀ n).orderly
  obtain ⟨eng, heng, rfl, -⟩ := engine h₀ he n
  obtain ⟨hp, -⟩ := h.atWork t _ lock p hk rfl
  obtain rfl := h.flow_eq hk rfl rfl
  obtain ⟨i, hi, hrun, rfl⟩ := running?_eq_some_iff.mp hp
  have hresult : ∀ e, (Except.error error : ActionResult V) = .error e →
      e.isCancellation = false := by
    rintro _ ⟨⟩
    exact hc
  refine ⟨i, hi, ?_, fun m hm => ?_⟩
  · -- Where there is room, the instance is kept.
    have hs' := E.step n
    rw [hl] at hs'
    obtain ⟨w₁, hw₁⟩ := run_roomy hs'
    have hw₁ : (E.world n).roomy.step (E.label n) = some w₁ := by
      rw [hl]
      exact hw₁
    refine .roomy hw₁ ?_
    have hchange := change_of_step hw₁
    rw [hl] at hchange
    cases hchange with
    | runs hr =>
      obtain rfl := Option.some.inj (hr.hasTask.symm.trans hk)
      obtain rfl := Option.some.inj (hr.hasEngine.symm.trans (engine_roomy heng))
      have hroomy := (instance?_roomy (E.world n) e i.params.flow).trans hi
      exact (hr.completes rfl hresult hs hroomy hrun).resolve_right fun hfull =>
        not_full_roomy _ _ hfull.1
  · have hend : (E.world (n + 1)).running? e i.params.flow = none := by
      have hchange := E.change n
      rw [hl] at hchange
      cases hchange with
      | runs hr =>
        obtain rfl := Option.some.inj (hr.hasTask.symm.trans hk)
        obtain rfl := Option.some.inj (hr.hasEngine.symm.trans heng)
        exact running?_of_ended hrun ((hr.completes rfl hresult hs hi hrun).imp_right And.right)
    have hop := opened_of_change (E.change n) (h.keyed _ _ _ hi).2
    obtain ⟨hlater, hfetched⟩ := taken_of_ended h₀ he hop hend hm
    have hidle := h.idle_of_holds hk ⟨rfl, lock, _, rfl, rfl⟩ rfl
    have hnow := taken_of_holds h₀ hk ⟨rfl, lock, _, rfl, rfl⟩ (.inr rfl)
    exact ⟨hlater.trans hnow,
      hfetched.trans (by rw [hlater, hnow, fetched_of_idle h₀ he hidle])⟩

end Execution

/-! ### The main result -/

/-- The failures of flow `f` at engine `e` are routed. -/
structure Execution.Routes (E : Execution V I) (d : Definition V I) (e : EngineId) (f : FlowId) :
    Prop where
  /-- Every event that comes to hand is taken exactly once, in order, and one is at hand at
      most. -/
  once : ∀ n, ∃ rest : Option V.Event,
    E.fetched e f n = (E.taken e f n).map Taken.event ++ rest.toList ∧
    ∀ x, (∃ t, (E.world n).Waits e f t x) ↔ rest = some x
  /-- The failure event comes to hand in the step after the error, right after the events that were
      taken so far. -/
  built : ∀ n t reply x, E.label n = .run t reply → (E.world n).Failing d e f t x →
    E.fetched e f (n + 1) = (E.taken e f n).map Taken.event ++ [x]
  /-- It is the next event that is processed. Until then no event of the flow is taken, and the flow
      runs. -/
  next : ∀ n t x, (E.world n).Failing d e f t x → ∀ m, n ≤ m →
    (E.taken e f m = E.taken e f n ∧ (E.world m).running? e f ≠ none) ∨ E.Routed e f x n m
  /-- If the flow ends after the error, finished or otherwise, the failure event was processed. -/
  ended : ∀ n t x, (E.world n).Failing d e f t x → ∀ m i, n < m → E.Shows e f m i →
    i.status ≠ .running → E.Routed e f x n m
  /-- If the execution is fair, it is processed. -/
  processed : E.Fair → ∀ n t x, (E.world n).Failing d e f t x →
    ∃ m, n ≤ m ∧ E.Routed e f x n m
  /-- The error of the action of a terminal state is lost: the flow ends in that step, failed only
      if a failure was recorded before, and no event is built from the error. -/
  terminal : ∀ n t reply o lock p event s error, E.label n = .run t reply →
    (E.world n).tasks[t]? =
      some ⟨e, .process o f (.acting lock p event s (.ended (.error error)))⟩ →
    error.isCancellation = false → d.isTerminal s = true →
    ∃ i, (E.world n).instance? e f = some i ∧
      E.Shows e f (n + 1)
        (i.finish (if i.failure.isSome then .failed else .finished) (E.world n).now) ∧
      ∀ m, n < m → E.taken e f m = E.taken e f n ∧ E.fetched e f m = E.fetched e f n

/-- Whatever the definition and the handlers, and whatever else is started, dispatched and cancelled:
    as long as no cancel of the flow is recorded, every failure of a handler of it, or of the action
    of a state that is not terminal, is routed. Those of the actions of terminal states are lost. -/
theorem failures_routed {engines : List (Definition V I × List (Handler V I) × Nat)}
    {E : Execution V I} (h₀ : E.world 0 = initial engines) {e : EngineId} {d : Definition V I}
    {hs : List (Handler V I)} {retention : Nat}
    (he : engines[e]? = some (d, hs, retention)) {f : FlowId}
    (hno : ∀ m r, ¬ CancelRecorded (E.world m) (E.world (m + 1)) r f) : E.Routes d e f where
  once := Execution.fetched_eq h₀ he f
  built n t reply x hl hx := Execution.fetched_of_failing h₀ he hl hx
  next n t x hx m hm := by
    refine (Execution.unrouted_or_routed h₀ he hno ⟨rfl, .inl hx⟩ hm).imp_left fun hun => ?_
    obtain ⟨k, hk, hold⟩ := hun.2.holds (Execution.poised h₀ m).orderly
    exact ⟨hun.1, (Execution.poised h₀ m).orderly.runs_of_holds hk hold⟩
  ended n t x hx m i hm hi hend := Execution.routed_of_ended h₀ he hno hx hm hi hend
  processed hf n t x hx := Execution.routed_of_fair h₀ he hno hf hx
  terminal n t reply o lock p event s error hl hk hc hs :=
    Execution.ends_after_failure h₀ he hl hk hc hs

/-- The identity service of the failed deletion cannot be reached. Its failure event comes to hand
    once, and is the next event that is processed; so it was processed when the deletion is over. -/
theorem failures_routed_failedDeletion : failedDeletion.Fair ∧ ∃ x,
    (failedDeletion.world 7).Failing (CascadingDelete.definition ⟨1, 10, false⟩) 0 (.opened 0) 0 x ∧
      x.selector = .failed ∧
      failedDeletion.fetched 0 (.opened 0) 8 =
        (failedDeletion.taken 0 (.opened 0) 7).map Taken.event ++ [x] ∧
      failedDeletion.Routed 0 (.opened 0) x 7 12 := by
  have h₀ : failedDeletion.world 0 = initial deletionEngines := rfl
  have hf : failedDeletion.Fair := Execution.fair_ofFollow _ (fun _ => .error default) (by decide)
  have hroutes := failures_routed h₀ (e := 0) rfl (f := .opened 0) fun m r hrec => by
    obtain ⟨k, e, -, hl⟩ := Execution.asked_of_recorded h₀ hrec
    exact Execution.uncancelled_ofFollow _ rfl k e r hl
  have hfails : (failedDeletion.world 7).Failing (CascadingDelete.definition ⟨1, 10, false⟩) 0
      (.opened 0) 0 _ := ⟨_, rfl, rfl, .action rfl rfl⟩
  exact ⟨hf, _, hfails, rfl, hroutes.built 7 0 _ _ rfl hfails,
    hroutes.ended 7 0 _ hfails 12 _ (by decide) (.kept rfl) nofun⟩

/-- Flows that go straight to their terminal state, where a report is to be sent. It cannot be
    sent. -/
def reporting : Definition CascadingDelete.vocabulary Collaborators where
  __ := CascadingDelete.definition ⟨1, 10, false⟩
  transition s event := if s = .init ∧ event = .start then some .final else none
  execute _ _ _ := .done (.error (.failed "report not sent"))

/-- Such a flow from its start to its end. -/
def reportRun : List (Label CascadingDelete.vocabulary Collaborators) :=
  .start 0 0 { resourceId := 7, resourceCrn := "environment", payload := default } ::
    List.replicate 4 (.run 0 fun _ => .error default)

/-- That flow, after which only time passes. -/
def report : Execution CascadingDelete.vocabulary Collaborators :=
  .ofFollow (show (initial [(reporting, [], 1)]).follow reportRun =
    some (((initial [(reporting, [], 1)]).follow reportRun).get rfl) from rfl)

/-- No cancel is recorded, and the action of a terminal state fails without a cancellation. The flow
    ends finished, and the failure event is never processed. -/
theorem terminal_failure_unrouted :
    (∀ m r, ¬ CancelRecorded (report.world m) (report.world (m + 1)) r (.opened 0)) ∧
    (∃ i, report.Shows 0 (.opened 0) 5 i ∧ i.status = .finished) ∧
    ∃ o lock p event error, (report.world 4).tasks[0]? = some ⟨0, .process o (.opened 0)
        (.acting lock p event .final (.ended (.error error)))⟩ ∧ error.isCancellation = false ∧
      ∀ m, ∀ x ∈ report.taken 0 (.opened 0) m,
        x.event ≠ reporting.failureEvent .final event (some p) error := by
  have h₀ : report.world 0 = initial [(reporting, [], 1)] := rfl
  refine ⟨fun m r hrec => ?_, ⟨_, .kept rfl, rfl⟩, _, _, _, _, _, rfl, rfl, fun m x hx heq => ?_⟩
  · obtain ⟨k, e, -, hl⟩ := Execution.asked_of_recorded h₀ hrec
    exact Execution.uncancelled_ofFollow _ rfl k e r hl
  · obtain ⟨-, -, -, hlast⟩ :=
      Execution.ends_after_failure h₀ (e := 0) rfl (n := 4) rfl (t := 0) rfl rfl rfl
    -- Only the event that starts the flow is ever taken.
    have hall : ∀ y ∈ report.taken 0 (.opened 0) 4, y.event.selector = .start := by decide
    have hx : x ∈ report.taken 0 (.opened 0) 4 := by
      rcases Nat.lt_or_ge 4 m with hm | hm
      · exact (hlast m hm).1 ▸ hx
      · exact (Execution.taken_grows hm).subset hx
    have hstart := hall x hx
    rw [heq] at hstart
    cases hstart

end World

end ResourceFlow
