import ResourceFlow.Proofs.World.Course
import ResourceFlow.Proofs.World.Started
/-! # With and without a recorded cancel

  After a cancel of a flow was recorded, its events are dropped, so the flow
  enters no more states: it stays in the state in which the cancel found it
  (`World.Execution.state_of_recorded`).

  As long as no cancel of the flow is recorded, its resource is not marked, and
  no task waits to cancel it (`World.Unmarked`).
-/

namespace ResourceFlow

variable {V : Vocabulary} {I : Interface}

namespace World

variable {w w' : World V I} {e : EngineId} {f : FlowId} {r : ResourceId} {l : Label V I}

/-! ### With a recorded cancel -/

/-- What is taken of a flow whose resource is marked is dropped. -/
theorem fate_of_isCancelled (h : Orderly w) {x : Taken V} (hx : w.taken? e f l = some x)
    (hc : w.registry.isCancelled x.run.params.resourceId = true) : x.fate = .dropped := by
  cases l with
  | run t reply =>
    unfold taken? at hx
    obtain ⟨k, hk, hx⟩ := Option.bind_eq_some_iff.mp hx
    obtain ⟨d, hd, hx⟩ := Option.bind_eq_some_iff.mp hx
    obtain ⟨eng, he, rfl⟩ := desk?_eq_some hd
    have hx := (Option.filter_eq_some_iff.mp hx).1
    obtain ⟨o, g, lock, p, hw, hi⟩ := Desk.taken?_eq_some hx
    -- The task has the flow in hand with the parameters of its instance.
    have hin : k.work.inHand? = some (lock, p) := by rw [hw]; rfl
    obtain ⟨i, hj, -, hp⟩ := running?_eq_some_iff.mp (h.atWork t k lock p hk hin).1
    obtain rfl := Option.some.inj ((instance?_eq_some_iff.mpr ⟨eng, he, hi⟩).symm.trans hj)
    rw [hp] at hc
    rw [hw, Desk.taken?_of_cancelled hc hi] at hx
    rw [← Option.some.inj hx]
  | _ => cases hx

/-- Only an event that leads to a state changes the state of a flow. -/
theorem Befalls.state_eq {d : Definition V I} {h : Dispatcher V I} {x : Option (Taken V)}
    {j : Instance V} (hb : Befalls d h w e f x (some j)) (hop : w.Opened f)
    (hx : ∀ y ∈ x, y.entered? = none) : ∃ i, w.instance? e f = some i ∧ j.state = i.state := by
  generalize hy : some j = y at hb
  cases hb with
  | stays => exact ⟨j, hy.symm, rfl⟩
  | opens hn => exact absurd hop hn
  | forgets => cases hy
  | enters => cases hx _ rfl
  | hands hi =>
    obtain rfl := Option.some.inj hy
    exact ⟨_, hi, rfl⟩
  | refuses hi | drops hi | stops hi | completes hi =>
    obtain rfl := Option.some.inj hy
    exact ⟨_, hi, Instance.state_finish ..⟩

/-- The task that records a cancel takes no event. -/
theorem taken?_of_recorded (h : Orderly w) (hc : Change w l w')
    (hrec : CancelRecorded w w' r f) : w.taken? e f l = none := by
  rw [Option.eq_none_iff_forall_ne_some]
  intro x hx
  obtain ⟨t, reply, k, rfl, hk, ⟨-, lock, p, hin, -⟩, -⟩ := taken?_eq_some h hx
  obtain ⟨u, a, b, lock', ha, haw, hb, hbw⟩ := hrec
  -- A task with a flow in hand is not the one that records the cancel, which stays as it is.
  have hne : t ≠ u := by
    rintro rfl
    rw [Option.some.inj (hk.symm.trans ha), haw] at hin
    cases hin
  rw [task_of_change hc (fun reply' hl => hne (Label.run.inj hl).1) ha] at hb
  rw [← Option.some.inj hb, haw] at hbw
  cases hbw

namespace Execution

variable {E : Execution V I} {engines : List (Definition V I × List (Handler V I) × Nat)}
  {d : Definition V I} {hs : List (Handler V I)} {retention n m : Nat} {i j : Instance V}

/-- From the step that records a cancel of a flow on, the flow stays in its state. -/
theorem state_of_recorded (h₀ : E.world 0 = initial engines)
    (he : engines[e]? = some (d, hs, retention))
    (hrec : CancelRecorded (E.world m) (E.world (m + 1)) r f)
    (hi : (E.world m).instance? e f = some i) (hm : m < n) (hj : E.Shows e f n j) :
    j.state = i.state := by
  have hop := ((poised h₀ m).orderly.keyed _ _ _ hi).2
  have hmark := Marked.of_recorded (poised h₀ m).orderly (E.change m) hrec
  induction hm generalizing j with
  | refl =>
    have hnone := taken?_of_recorded (e := e) (poised h₀ m).orderly (E.change m) hrec
    have hb := hj.befalls h₀ he
    rw [hnone] at hb
    obtain ⟨i', hi', hst⟩ := hb.state_eq hop fun _ hx => by cases hx
    rw [hst, Option.some.inj (hi'.symm.trans hi)]
  | @step n hm ih =>
    -- Later, whatever is taken finds the mark.
    have hlater : Reachable (E.world (m + 1)) (E.world n) := E.reachable_of_le hm
    obtain ⟨i', hi', hst⟩ := (hj.befalls h₀ he).state_eq
      (opened_later hop (Nat.le_of_lt hm)) (by
        intro x hx
        obtain ⟨t, reply, k, hl, hk, ⟨-, lock, p, hin, hf⟩, hrun, hr⟩ :=
          taken?_eq_some (poised h₀ n).orderly hx
        have hp := running?_eq_some_iff.mpr ⟨x.run, hrun, hr, rfl⟩
        obtain ⟨hres, hst⟩ := (hmark.reachable hlater).mark _ _ hp
        have hc : (E.world n).registry.isCancelled x.run.params.resourceId = true := by
          rw [hres]
          exact decide_eq_true hst
        rw [Taken.entered?, fate_of_isCancelled (poised h₀ n).orderly hx hc])
    rw [hst, ih (.kept hi')]

end Execution

end World

/-! ### Without a recorded cancel -/

namespace Desk

/-- A flow that ends leaves no mark behind that was not there. -/
theorem status?_conclude (d : Desk V I) (p : FlowParameters) (s : FlowStatus) (now : Duration)
    (r : ResourceId) : (d.conclude p s now).registry.status? r =
      if r = p.resourceId ∧ d.registry.lanes.holds p.resourceId p.flow = true then none
      else d.registry.status? r := by
  unfold conclude discharge
  dsimp only
  split <;> exact Registry.status?_discharge ..

theorem marked_of_conclude {d : Desk V I} {p : FlowParameters} {s : FlowStatus} {now : Duration}
    {r : ResourceId} (h : (d.conclude p s now).registry.status? r = some .cancelled) :
    d.registry.status? r = some .cancelled := by
  rw [status?_conclude] at h
  split at h
  · cases h
  · exact h

/-- Only a cancel that is recorded marks a resource. -/
theorem Move.marks {d d' : Desk V I} {t : TaskId} {now : Duration} {reply : I.Reply}
    {w w' : Work V I} (h : Move d t now reply w d' w') {r : ResourceId}
    (hs : d'.registry.status? r = some .cancelled) :
    d.registry.status? r = some .cancelled ∨ ∃ lane, w = .cancel r .arriving ∧
      d.registry.lanes.lane? r = some lane ∧ w' = .cancel r (.queued lane.lock lane.flow) := by
  cases h with
  | halt _ | handlerCancelled _ | actionCancelled _ | finish _ _ =>
    exact .inl (marked_of_conclude hs)
  | @completed _ _ _ p _ _ _ _ _ =>
    have hs : (d.complete p now).1.registry.status? r = some .cancelled := hs
    unfold complete at hs
    split at hs
    · unfold discharge at hs
      rw [Registry.status?_discharge] at hs
      split at hs
      · cases hs
      · exact .inl hs
    · exact .inl (marked_of_conclude hs)
  | @refuse _ _ _ p event i _ _ _ _ =>
    have hs : (d.reject p i.state event now).1.registry.status? r = some .cancelled := hs
    unfold reject at hs
    dsimp only at hs
    split at hs
    · have hmark := marked_of_conclude hs
      exact .inl hmark
    · exact .inl hs
  | @request r' lane hl _ =>
    have hs : (d.registry.markCancelled r').status? r = some .cancelled := hs
    rw [Registry.status?_markCancelled] at hs
    split at hs
    · rename_i hr
      subst hr
      exact .inr ⟨lane, rfl, hl, rfl⟩
    · exact .inl hs
  | _ => exact .inl hs

/-- A task that waits to cancel a flow recorded its request. -/
theorem Move.queues_cancel {d d' : Desk V I} {t : TaskId} {now : Duration} {reply : I.Reply}
    {w w' : Work V I} (h : Move d t now reply w d' w') {r : ResourceId} {lock : LockId} {f : FlowId}
    (hw : w' = .cancel r (.queued lock f)) : w = .cancel r .arriving ∧
      ∃ lane, d.registry.lanes.lane? r = some lane ∧ lane.flow = f := by
  cases h with
  | request hl _ =>
    cases hw
    exact ⟨rfl, _, hl, rfl⟩
  | _ => cases hw

/-- A task that cancels did so before. -/
theorem Move.cancels {d d' : Desk V I} {t : TaskId} {now : Duration} {reply : I.Reply}
    {w w' : Work V I} (h : Move d t now reply w d' w') {r : ResourceId} {stage' : Cancelling V}
    (hw : w' = .cancel r stage') : ∃ stage, w = .cancel r stage := by
  cases h with
  | nothing | request | gone | finish =>
    cases hw
    exact ⟨_, rfl⟩
  | _ => cases hw

end Desk

namespace World

/-- If the flow runs, it runs on the resource, which is not marked, and no task waits to cancel
    it. -/
structure Unmarked (w : World V I) (r : ResourceId) (f : FlowId) : Prop where
  orderly : Orderly w
  opened : w.Opened f
  mark : ∀ e p, w.running? e f = some p → p.resourceId = r ∧ w.status? r ≠ some .cancelled
  calm : ∀ (t : TaskId) (k : Task V I) r' lock, w.tasks[t]? = some k →
    k.work ≠ .cancel r' (.queued lock f)

namespace Unmarked

variable {w w' : World V I} {r : ResourceId} {f : FlowId} {l : Label V I}

theorem addTask (h : Unmarked w r f) (e : EngineId) {work : Work V I} (hs : work.stake? = none)
    (hi : work.inHand? = none) : Unmarked (w.addTask e work) r f where
  orderly := h.orderly.addTask e hs hi
  opened := h.opened
  mark := h.mark
  calm t k r' lock hk hw := by
    rcases tasks_addTask.mp hk with hk | ⟨-, rfl⟩
    · exact h.calm t k r' lock hk hw
    · have hw : work = .cancel r' (.queued lock f) := hw
      rw [hw] at hs
      cases hs

theorem opens {e : EngineId} {serial : Nat} {q : StartRequest V} {eng : Engine V I} {g : Registry}
    (h : Unmarked w r f) (ho : OpenStep w e serial q w' eng g) : Unmarked w' r f where
  orderly := h.orderly.opens ho
  opened := ho.opened_of_opened h.opened
  mark e' p hp := by
    rw [ho.running?, if_neg fun hc => ho.ne_of_opened h.opened hc.2] at hp
    obtain ⟨hr, hs⟩ := h.mark e' p hp
    refine ⟨hr, ?_⟩
    rw [ho.status?]
    split
    · exact nofun
    · exact hs
  calm t k r' lock hk hw := by
    rcases ho.tasks.mp hk with hk | ⟨-, rfl⟩
    · exact h.calm t k r' lock hk hw
    · cases hw

section Run

variable {t : TaskId} {reply : I.Reply} {task : Task V I} {eng : Engine V I} {d' : Desk V I}
  {work' : Work V I}

theorem run (h : Unmarked w r f) (hr : RunStep w t reply w' task eng d' work')
    (hno : ¬ CancelRecorded w w' r f) : Unmarked w' r f where
  orderly := h.orderly.run hr
  opened := (hr.opened f).mpr h.opened
  mark e p hp := by
    have hran : w.running? e f = some p := by
      rcases h.orderly.effect hr with hq | ⟨q, s, hq, -, -, he⟩
      · exact hr.running?_of_quiet hq e f ▸ hp
      · rw [h.orderly.running?_quits hr hq he] at hp
        split at hp
        · cases hp
        · exact hp
    obtain ⟨hres, hs⟩ := h.mark e p hran
    refine ⟨hres, ?_⟩
    intro hs'
    rw [hr.status?] at hs'
    rcases hr.move.marks hs' with hs' | ⟨lane, hw, hl, hw'⟩
    · exact hs hs'
    · -- The flow occupies the lane, so the cancel that was recorded is one of it.
      obtain ⟨lane', hl', hf⟩ := h.orderly.occupies e f p hran
      rw [hres] at hl'
      obtain rfl := Option.some.inj (hl'.symm.trans hl)
      exact hno ⟨t, task, _, lane'.lock, hr.hasTask, hw, (hr.tasks t).trans (if_pos rfl), hf ▸ hw'⟩
  calm u k r' lock hk hw := by
    rw [hr.tasks] at hk
    split at hk
    · cases hk
      obtain ⟨hcancel, lane, hl, hf⟩ := hr.move.queues_cancel hw
      -- The flow occupies the lane that the cancel found, and that is the lane of its resource.
      obtain ⟨e, p, hp, hres⟩ := h.orderly.occupant r' lane hl
      obtain ⟨rfl, -⟩ := h.mark e p (hf ▸ hp)
      rw [hres] at hno
      exact hno ⟨t, task, _, lock, hr.hasTask, hcancel, (hr.tasks t).trans (if_pos rfl), hw⟩
    · exact h.calm u k r' lock hk hw

end Run

/-- A step that records no cancel of the flow leaves it unmarked. -/
theorem change (h : Unmarked w r f) (hc : Change w l w') (hno : ¬ CancelRecorded w w' r f) :
    Unmarked w' r f := by
  cases hc with
  | opens ho => exact h.opens ho
  | refuses _ => exact h.addTask _ rfl rfl
  | delivers => exact h.addTask _ rfl rfl
  | cancels => exact h.addTask _ rfl rfl
  | runs hr => exact h.run hr hno
  | elapses => exact ⟨h.orderly.change .elapses, h.opened, h.mark, h.calm⟩

end Unmarked

/-- A flow that was just opened is unmarked. -/
theorem OpenStep.unmarked {serial : Nat} {q : StartRequest V} {eng : Engine V I} {g : Registry}
    (ho : OpenStep w e serial q w' eng g) (h : Orderly w) :
    Unmarked w' q.resourceId (.opened serial) where
  orderly := h.opens ho
  opened := ho.opened_self
  mark e' p hp := by
    have hnew : ∀ e' p, w.running? e' (.opened serial) ≠ some p :=
      fun e' p hp => ho.ne_of_opened (h.running_keyed hp).2 rfl
    rw [ho.running?] at hp
    split at hp
    · cases hp
      refine ⟨rfl, ?_⟩
      rw [ho.status?, if_pos rfl]
      exact nofun
    · exact absurd hp (hnew _ _)
  calm t k r' lock hk hw := by
    rcases ho.tasks.mp hk with hk | ⟨-, rfl⟩
    · -- Whoever waits to cancel a flow does so after it was opened.
      exact ho.ne_of_opened (h.stakes t k lock _ hk (by rw [hw]; rfl)).2.1 rfl
    · cases hw

namespace Execution

variable {E : Execution V I} {engines : List (Definition V I × List (Handler V I) × Nat)}
  {n₀ n serial : Nat} {q : StartRequest V}

/-- Whoever cancels was asked to, at that engine. -/
theorem asked_of_cancels (h₀ : E.world 0 = initial engines) {t : TaskId} {k : Task V I}
    {stage : Cancelling V} (hk : (E.world n).tasks[t]? = some k)
    (hw : k.work = .cancel r stage) : ∃ m, m < n ∧ E.label m = .cancel k.engine r := by
  induction n generalizing t k stage with
  | zero =>
    rw [h₀] at hk
    cases hk
  | succ n ih =>
    have hbefore : ∀ {t : TaskId} {k : Task V I} {stage : Cancelling V},
        (E.world n).tasks[t]? = some k → k.work = .cancel r stage →
          ∃ m, m < n + 1 ∧ E.label m = .cancel k.engine r := by
      intro t k stage hk hw
      obtain ⟨m, hm, hl⟩ := ih hk hw
      exact ⟨m, Nat.lt_succ_of_lt hm, hl⟩
    have hc := E.change n
    generalize hw' : E.world (n + 1) = w' at hc hk
    generalize hl : E.label n = l at hc
    cases hc with
    | opens ho =>
      rcases ho.tasks.mp hk with hk | ⟨-, rfl⟩
      · exact hbefore hk hw
      · cases hw
    | refuses | delivers =>
      rcases tasks_addTask.mp hk with hk | ⟨-, rfl⟩
      · exact hbefore hk hw
      · cases hw
    | cancels =>
      rcases tasks_addTask.mp hk with hk | ⟨-, rfl⟩
      · exact hbefore hk hw
      · cases hw
        exact ⟨n, Nat.lt_succ_self n, hl⟩
    | runs hr =>
      rw [hr.tasks] at hk
      split at hk
      · cases hk
        obtain ⟨stage', hw⟩ := hr.move.cancels hw
        obtain ⟨m, hm, hl⟩ := hbefore hr.hasTask hw
        exact ⟨m, hm, hl⟩
      · exact hbefore hk hw
    | elapses => exact hbefore hk hw

/-- A cancel is recorded only after it was asked for. -/
theorem asked_of_recorded (h₀ : E.world 0 = initial engines)
    (hrec : CancelRecorded (E.world n) (E.world (n + 1)) r f) :
    ∃ m e, m < n ∧ E.label m = .cancel e r := by
  obtain ⟨t, k, -, -, hk, hw, -⟩ := hrec
  obtain ⟨m, hm, hl⟩ := asked_of_cancels h₀ hk hw
  exact ⟨m, k.engine, hm, hl⟩

/-- If no cancel is asked for in a finite run, none is ever recorded. -/
theorem unrecorded_ofFollow {w' : World V I} {ls : List (Label V I)}
    (h : (initial engines).follow ls = some w') (hls : ls.all (!·.cancels) = true) (n : Nat)
    (r : ResourceId) (f : FlowId) :
    ¬ CancelRecorded ((ofFollow h).world n) ((ofFollow h).world (n + 1)) r f := by
  intro hrec
  have h₀ : (ofFollow h).world 0 = initial engines := by
    cases ls <;> rfl
  obtain ⟨m, e, -, hl⟩ := asked_of_recorded h₀ hrec
  exact uncancelled_ofFollow h hls m e r hl

/-- As long as no cancel of it is recorded, a flow that was started on a free lane is unmarked. -/
theorem unmarked_of_start (h₀ : E.world 0 = initial engines)
    (hl : E.label n₀ = .start e serial q) (hfree : (E.world n₀).lane? q.resourceId = none)
    (hno : ∀ m, m < n → ¬ CancelRecorded (E.world m) (E.world (m + 1)) q.resourceId
      (.opened serial)) (hn : n₀ < n) : Unmarked (E.world n) q.resourceId (.opened serial) := by
  induction hn with
  | refl =>
    have hstep := E.step n₀
    rw [hl] at hstep
    obtain ⟨eng, g, ho⟩ := openStep_of_free hstep hfree
    exact ho.unmarked (orderly h₀ n₀)
  | @step n hn ih =>
    refine (ih fun m hm => hno m (Nat.lt_succ_of_lt hm)).change (E.change n) (hno n ?_)
    exact Nat.lt_succ_self n

/-- As long as no cancel of it is recorded, a flow that runs does not find its resource
    cancelled. -/
theorem isCancelled_of_start (h₀ : E.world 0 = initial engines)
    (hl : E.label n₀ = .start e serial q) (hfree : (E.world n₀).lane? q.resourceId = none)
    (hno : ∀ m, ¬ CancelRecorded (E.world m) (E.world (m + 1)) q.resourceId (.opened serial))
    {e' : EngineId} (hr : (E.world n).running? e' (.opened serial) ≠ none) :
    (E.world n).registry.isCancelled q.resourceId = false := by
  obtain ⟨p, hp⟩ := Option.ne_none_iff_exists'.mp hr
  have hn : n₀ < n := by
    rcases Nat.lt_or_ge n₀ n with hlt | hge
    · exact hlt
    · -- A flow that runs has been opened.
      have hop := opened_later ((orderly h₀ n).running_keyed hp).2 hge
      have hstep := E.step n₀
      rw [hl] at hstep
      obtain ⟨eng, g, ho⟩ := openStep_of_free hstep hfree
      exact absurd rfl (ho.ne_of_opened hop)
  have hs := ((unmarked_of_start h₀ hl hfree (fun m _ => hno m) hn).mark e' p hp).2
  exact decide_eq_false hs

end Execution

end World

end ResourceFlow
