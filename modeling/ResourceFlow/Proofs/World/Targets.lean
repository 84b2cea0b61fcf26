import ResourceFlow.Proofs.World.Marks
/-! # Which flow a cancel targets

  A cancel targets the flow that occupies the lane when the cancel is issued,
  if the engine that it is issued to runs that flow
  (`World.Execution.Targets`). What follows from it:

  - a resource is marked only for the flow that occupies its lane now
    (`World.Execution.target_of_marked`);
  - unless a handler or an action of it returned a cancellation, a flow ends
    cancelled only if a cancel targeted it (`World.Execution.target_of_ended`);
  - a cancel that waits for the lock of another flow, or is issued to an engine
    that does not run the occupant, leaves the occupant and its lane alone
    (`World.Orderly.untouched_of_late`, `World.Orderly.untouched_of_elsewhere`).

  The main result is `World.cancels_on_target`.
-/

namespace ResourceFlow

variable {V : Vocabulary} {I : Interface}

/-- Whether a handler or an action of the flow has just returned a cancellation. -/
def Work.notices (f : FlowId) : Work V I → Bool
  | .process _ g (.handling _ _ _ _ (.ended (.error e))) => g = f && e.isCancellation
  | .process _ g (.acting _ _ _ _ (.ended (.error e))) => g = f && e.isCancellation
  | _ => false

/-- A flow that ends frees its own lane and no other. -/
theorem Desk.lane?_conclude (d : Desk V I) (p : FlowParameters) (s : FlowStatus) (now : Duration)
    (r : ResourceId) : (d.conclude p s now).registry.lanes.lane? r =
      if r = p.resourceId ∧ d.registry.lanes.holds p.resourceId p.flow = true then none
      else d.registry.lanes.lane? r := by
  unfold conclude discharge
  dsimp only
  split <;> exact Registry.lane?_discharge ..

namespace World

variable {w w' : World V I} {e : EngineId} {f : FlowId} {r : ResourceId} {l : Label V I}

/-! ### What ends a flow as cancelled -/

/-- What a task that has a flow in hand finds or brings when the flow ends cancelled. -/
theorem cancelled_of_own (h : Orderly w) {t : TaskId} {reply : I.Reply} {task : Task V I}
    {eng : Engine V I} {d' : Desk V I} {work' : Work V I}
    (hr : RunStep w t reply w' task eng d' work') {lock : LockId} {i j : Instance V}
    (hin : task.work.inHand? = some (lock, i.params))
    (hi : w.instance? task.engine i.params.flow = some i) (hrun : i.status = .running)
    (hj : w'.instance? task.engine i.params.flow = some j) (hs : j.status = .cancelled) :
    w.registry.isCancelled i.params.resourceId = true ∨ task.work.notices i.params.flow = true := by
  have hst := (h.atWork t task lock _ hr.hasTask hin).2
  have hi : eng.instance? i.params.flow = some i := (hr.instance?_self _).symm.trans hi
  rw [hr.instance?, if_pos rfl] at hj
  -- A step after which the flow runs, or has ended otherwise, is none of those.
  have hkept : eng.instance? i.params.flow = some j → False := by
    intro hj
    rw [Option.some.inj (hi.symm.trans hj), hs] at hrun
    cases hrun
  have hends : ∀ {k : Instance V} {x : Option (Instance V)} {s : FlowStatus} {P : Prop},
      k.status = .running → s ≠ .cancelled → (x = some (k.finish s w.now) ∨ (P ∧ x = none)) →
      x = some j → False := by
    rintro k x s P hk hne (hx | ⟨-, hx⟩) hxj
    · rw [hx] at hxj
      rw [← Option.some.inj hxj, Instance.status_finish_of_running hk] at hs
      exact hne hs
    · rw [hx] at hxj
      cases hxj
  have hm := hr.move
  generalize task.work = work at hm hin hst ⊢
  cases hm with
  | halt hc =>
    cases hin
    exact .inl hc
  | handlerCancelled he | actionCancelled he =>
    cases hin
    obtain rfl : _ = i.params.flow := congrArg Prod.snd (Option.some.inj hst)
    exact .inr (by simp [Work.notices, he])
  | @refuse _ _ _ _ event k _ hk _ _ =>
    cases hin
    obtain rfl := Option.some.inj (hi.symm.trans hk)
    exact (hends (k := i.refused event) hrun (s := .failed) nofun
      (Desk.instance?_reject_self (d := ⟨w.registry, eng⟩) hi hrun event w.now) hj).elim
  | completed _ _ =>
    cases hin
    have hj : ((⟨w.registry, eng⟩ : Desk V I).complete i.params w.now).1.engine.instance?
        i.params.flow = some j := hj
    rw [Desk.complete_eq hi w.now] at hj
    refine (hends hrun ?_
      (Desk.instance?_conclude_self (d := ⟨w.registry, eng⟩) hi hrun _ w.now) hj).elim
    split <;> exact nofun
  | @enter _ _ _ _ event k s _ hk _ _ =>
    cases hin
    obtain rfl := Option.some.inj (hi.symm.trans hk)
    have hent := Engine.instance?_enter
      (e := eng.record (.ofEvent i.params i.state (some s) event)) hi s event
    rw [Option.some.inj (hj.symm.trans hent), Definition.status_entered, hrun] at hs
    cases hs
  | lost _ _ | hand _ _ _ | handle _ | handled | handlerFailed _ | act _ | acted _
  | actionFailed _ _ | parked _ =>
    cases hin
    exact (hkept hj).elim
  | _ => cases hin

/-- A flow that is cancelled was cancelled before, or ran and ends now: its resource was marked, a
    handler or an action of it returned a cancellation, or a cancel held its lock. -/
theorem cancelled_of_change (h : Orderly w) (hc : Change w l w') {j : Instance V}
    (hj : w'.instance? e f = some j) (hs : j.status = .cancelled) :
    w.instance? e f = some j ∨ ∃ i, w.instance? e f = some i ∧ i.status = .running ∧
      j.params = i.params ∧ ∃ (t : TaskId) (k : Task V I), w.tasks[t]? = some k ∧
        (w.registry.isCancelled i.params.resourceId = true ∨ k.work.notices f = true ∨
          (k.engine = e ∧ ∃ r lock, k.work = .cancel r (.queued lock f))) := by
  cases hc with
  | refuses _ | delivers | cancels | elapses => exact .inl hj
  | opens ho =>
    rw [ho.instance?] at hj
    split at hj
    · cases hj
      cases hs
    · exact .inl hj
  | @runs t reply _ task eng d' work' hr =>
    obtain ⟨i₀, hi₀, hp⟩ := h.kept_run hr hj
    cases h.bearing hr e f with
    | aside _ hsame => exact .inl (hsame ▸ hj)
    | forgets _ _ _ hnone =>
      rw [hnone] at hj
      cases hj
    | cancels he hw hi hrun =>
      obtain rfl := Option.some.inj (hi.symm.trans hi₀)
      exact .inr ⟨_, hi, hrun, hp, t, task, hr.hasTask, .inr (.inr ⟨he, _, _, hw⟩)⟩
    | own he hk hin hi hrun =>
      obtain rfl := Option.some.inj (hi.symm.trans hi₀)
      subst he hk
      exact .inr ⟨_, hi, hrun, hp, t, task, hr.hasTask,
        (cancelled_of_own h hr hin hi hrun hj hs).imp_right .inl⟩

/-! ### What is left alone -/

/-- The occupant of a lane, its lane and what is recorded of the resource are left alone. -/
structure Untouched (w w' : World V I) (r : ResourceId) (lane : Lane) : Prop where
  /-- The flow occupies the lane as before. -/
  occupied : w'.lane? r = some lane
  /-- What is recorded of the resource is the same. -/
  status : w'.status? r = w.status? r
  /-- The same tasks hold the lock of the lane and wait for it. -/
  lock : w'.registry.lanes.lock lane.lock = w.registry.lanes.lock lane.lock
  /-- The flow is as it was. -/
  kept : ∀ e, w'.instance? e lane.flow = w.instance? e lane.flow
  /-- Nothing more is recorded of the flow. -/
  records : ∀ e, w'.records e lane.flow = w.records e lane.flow

namespace Orderly

variable {t : TaskId} {reply : I.Reply} {task : Task V I} {eng : Engine V I} {d' : Desk V I}
  {work' : Work V I} {lane : Lane}

/-- A cancel records nothing. -/
theorem records_of_cancel (h : Orderly w) (hr : RunStep w t reply w' task eng d' work')
    {stage : Cancelling V} (hw : task.work = .cancel r stage) (e : EngineId) (f : FlowId) :
    w'.records e f = w.records e f := by
  have hnone : w.taken? e f (.run t reply) = none := by
    refine taken?_of_not_holds h hr.hasTask ?_
    rintro ⟨-, l, p, hin, -⟩
    rw [hw] at hin
    cases hin
  rw [records_of_change h (.runs hr), hnone]
  exact List.append_nil _

/-- A cancel that waits for the lock of another flow than the occupant leaves the occupant alone. -/
theorem untouched_of_late (h : Orderly w) (hr : RunStep w t reply w' task eng d' work')
    {r' : ResourceId} {lock : LockId} (hw : task.work = .cancel r' (.queued lock f))
    (hl : w.lane? r = some lane) (hne : lane.flow ≠ f) : Untouched w w' r lane := by
  -- The occupant came with another lock.
  have hlock : lane.lock ≠ lock := fun heq =>
    hne (((h.stakes t task lock f hr.hasTask (by rw [hw]; rfl)).2.2 r lane hl).mpr heq)
  have hrecords := h.records_of_cancel hr hw
  have hm := hr.move
  rw [hw] at hm
  cases hm with
  | gone _ _ =>
    refine ⟨(hr.lane? r).trans hl, hr.status? r, ?_, fun e => ?_, fun e => hrecords e _⟩
    · rw [hr.registry]
      exact (Lanes.lock_pass ..).trans (if_neg hlock)
    · rw [hr.instance?]
      split
      · rename_i he
        rw [he, hr.instance?_self]
        rfl
      · rfl
  | @finish _ _ _ i _ hi =>
    have hkey : i.params.flow = f := (h.keyed _ _ _ ((hr.instance?_self f).trans hi)).1
    -- The flow that the cancel targets does not occupy the lane any more.
    have hfree : ¬ (r = i.params.resourceId ∧
        w.registry.lanes.holds i.params.resourceId i.params.flow = true) := by
      rintro ⟨rfl, hh⟩
      obtain ⟨lane', hl', hflow⟩ := Lanes.holds_iff.mp hh
      obtain rfl := Option.some.inj (hl.symm.trans hl')
      exact hne (hflow.trans hkey)
    refine ⟨?_, ?_, ?_, fun e => ?_, fun e => hrecords e _⟩
    · rw [hr.lane?]
      exact ((Desk.lane?_conclude ..).trans (if_neg hfree)).trans hl
    · rw [hr.status?]
      exact (Desk.status?_conclude ..).trans (if_neg hfree)
    · rw [hr.registry]
      refine (Lanes.lock_pass ..).trans ((if_neg hlock).trans ?_)
      exact (Desk.Alike.conclude ..).lock lane.lock
    · rw [hr.instance?]
      split
      · rename_i he
        rw [he, hr.instance?_self]
        rcases Desk.instance?_conclude_other (d := ⟨w.registry, eng⟩) (hkey.symm ▸ hne) .cancelled
          w.now with hsame | ⟨hnone, hret⟩
        · exact hsame
        · -- Where the occupant runs it is not retired, and no other engine knows it.
          refine hnone.trans (Eq.symm (Option.eq_none_iff_forall_ne_some.mpr fun j hj => ?_))
          obtain ⟨e', p, hp, -⟩ := h.occupant r lane hl
          obtain ⟨rfl, -⟩ := h.running_single ((hr.instance?_self _).trans hj) hp
          rw [hr.running?_self, (h.retired _ eng _ hr.hasEngine hret).1] at hp
          cases hp
      · rfl

/-- A cancel that is issued to an engine that does not run the occupant leaves everything as it is,
    and comes to nothing. -/
theorem untouched_of_elsewhere (h : Orderly w) (hr : RunStep w t reply w' task eng d' work')
    (hw : task.work = .cancel r .arriving) (hl : w.lane? r = some lane)
    (hno : w.running? task.engine lane.flow = none) :
    Untouched w w' r lane ∧ work' = .cancel r (.over none) := by
  have hrecords := h.records_of_cancel hr hw
  have hm := hr.move
  rw [hw] at hm
  cases hm with
  | nothing =>
    refine ⟨⟨(hr.lane? r).trans hl, hr.status? r, ?_, fun e => ?_, fun e => hrecords e _⟩, rfl⟩
    · rw [hr.registry]
    · rw [hr.instance?]
      split
      · rename_i he
        rw [he, hr.instance?_self]
      · rfl
  | @request _ lane' hl' ho =>
    obtain rfl := Option.some.inj (hl.symm.trans hl')
    -- An engine that knows the occupant is the one at which it runs.
    obtain ⟨i, hi⟩ := Option.isSome_iff_exists.mp ho
    obtain ⟨e', p, hp, -⟩ := h.occupant r lane hl
    obtain ⟨rfl, -⟩ := h.running_single ((hr.instance?_self _).trans hi) hp
    rw [hno] at hp
    cases hp

end Orderly

/-! ### Over an execution -/

namespace Execution

variable {E : Execution V I} {engines : List (Definition V I × List (Handler V I) × Nat)}
  {n m : Nat}

/-- In step `m` a cancel of resource `r` that was asked of engine `e` targets flow `f`: the cancel
    is issued, and the flow occupies the lane and runs at that engine. -/
structure Targets (E : Execution V I) (m : Nat) (e : EngineId) (r : ResourceId) (f : FlowId) :
    Prop where
  /-- The engine was asked to cancel the flow of the resource. -/
  asked : ∃ k, k < m ∧ E.label k = .cancel e r
  /-- Now the cancel is issued, and waits for the lock of the flow. -/
  issued : ∃ t reply lock, E.label m = .run t reply ∧
    (E.world m).tasks[t]? = some ⟨e, .cancel r .arriving⟩ ∧
    (E.world (m + 1)).tasks[t]? = some ⟨e, .cancel r (.queued lock f)⟩
  /-- The flow occupies the lane of the resource. -/
  occupies : ∃ lane, (E.world m).lane? r = some lane ∧ lane.flow = f
  /-- It runs on the resource, at that engine. -/
  runs : ∃ p, (E.world m).running? e f = some p ∧ p.resourceId = r

/-- A task that begins to wait for the lock of a flow targets it. -/
theorem targets_of_queues (h₀ : E.world 0 = initial engines) {t : TaskId} {reply : I.Reply}
    {task : Task V I} {eng : Engine V I} {d' : Desk V I} {lock : LockId}
    (hl : E.label n = .run t reply)
    (hr : RunStep (E.world n) t reply (E.world (n + 1)) task eng d' (.cancel r (.queued lock f))) :
    E.Targets n task.engine r f := by
  have h := orderly h₀ n
  obtain ⟨hw, lane, hlane, hflow⟩ := hr.move.queues_cancel rfl
  have htask : (E.world n).tasks[t]? = some ⟨task.engine, .cancel r .arriving⟩ := by
    rw [hr.hasTask, ← hw]
  refine ⟨asked_of_cancels h₀ hr.hasTask hw,
    ⟨t, reply, lock, hl, htask, (hr.tasks t).trans (if_pos rfl)⟩, ⟨lane, hlane, hflow⟩, ?_⟩
  -- The engine knows the occupant, so it runs there.
  obtain ⟨i, hi⟩ := Option.isSome_iff_exists.mp (hr.move.owns_of_queued rfl)
  obtain ⟨e', p, hp, hres⟩ := h.occupant r lane hlane
  rw [hflow] at hp
  obtain ⟨rfl, -⟩ := h.running_single ((hr.instance?_self _).trans hi) hp
  exact ⟨p, hp, hres⟩

/-- Whoever waits to cancel a flow targeted it. -/
theorem target_of_queued (h₀ : E.world 0 = initial engines) {t : TaskId} {k : Task V I}
    {lock : LockId} (hk : (E.world n).tasks[t]? = some k)
    (hw : k.work = .cancel r (.queued lock f)) : ∃ m, m < n ∧ E.Targets m k.engine r f := by
  induction n generalizing t k with
  | zero =>
    rw [h₀] at hk
    cases hk
  | succ n ih =>
    have hbefore (hk : (E.world n).tasks[t]? = some k) :
        ∃ m, m < n + 1 ∧ E.Targets m k.engine r f := by
      obtain ⟨m, hm, ht⟩ := ih hk hw
      exact ⟨m, Nat.lt_succ_of_lt hm, ht⟩
    have hc := E.change n
    generalize hw' : E.world (n + 1) = w' at hc hk
    generalize hl : E.label n = l at hc
    cases hc with
    | opens ho =>
      rcases ho.tasks.mp hk with hk | ⟨-, rfl⟩
      · exact hbefore hk
      · cases hw
    | refuses | delivers | cancels =>
      rcases tasks_addTask.mp hk with hk | ⟨-, rfl⟩
      · exact hbefore hk
      · cases hw
    | elapses => exact hbefore hk
    | runs hr =>
      rw [hr.tasks] at hk
      split at hk
      · cases hk
        cases hw
        have ht := targets_of_queues h₀ hl (hw'.symm ▸ hr)
        exact ⟨n, Nat.lt_succ_self n, ht⟩
      · exact hbefore hk

/-- A resource is marked only for the flow that occupies its lane, which a cancel targeted. -/
theorem target_of_marked (h₀ : E.world 0 = initial engines)
    (hs : (E.world n).status? r = some .cancelled) :
    ∃ lane, (E.world n).lane? r = some lane ∧ ∃ m e, m < n ∧ E.Targets m e r lane.flow := by
  induction n with
  | zero =>
    rw [h₀] at hs
    cases hs
  | succ n ih =>
    have hbefore (hs : (E.world n).status? r = some .cancelled) (hl : ∀ lane,
        (E.world n).lane? r = some lane → (E.world (n + 1)).lane? r = some lane) :
        ∃ lane, (E.world (n + 1)).lane? r = some lane ∧
          ∃ m e, m < n + 1 ∧ E.Targets m e r lane.flow := by
      obtain ⟨lane, hlane, m, e, hm, ht⟩ := ih hs
      exact ⟨lane, hl lane hlane, m, e, Nat.lt_succ_of_lt hm, ht⟩
    -- As long as the resource is recorded, its lane is occupied, and nobody else can take it.
    have hocc : ((E.world (n + 1)).lane? r).isSome = true := by
      rw [← (orderly h₀ (n + 1)).recorded, hs]
      rfl
    have h := orderly h₀ n
    have hc := E.change n
    generalize hw' : E.world (n + 1) = w' at hc hs hocc hbefore ⊢
    generalize hlab : E.label n = l at hc
    cases hc with
    | refuses | delivers | cancels | elapses => exact hbefore hs fun _ hl => hl
    | opens ho =>
      rw [ho.status?] at hs
      split at hs
      · cases hs
      · rename_i hr
        exact hbefore hs fun lane hl => (ho.lane?_of_some hl).2
    | @runs t reply _ task eng d' work' hr =>
      have hlane : w'.lane? r = (E.world n).lane? r := by
        rcases h.effect hr with hq | ⟨p, s, hq, -⟩
        · exact hr.lane?_of_quiet hq r
        · rw [hr.lane?_of_quits hq] at hocc ⊢
          split at hocc
          · cases hocc
          · rename_i hn
            exact if_neg hn
      rw [hr.status?] at hs
      rcases hr.move.marks hs with hs | ⟨lane, -, hl, hwork⟩
      · exact hbefore hs fun _ hl => hlane.trans hl
      · subst hwork
        exact ⟨lane, hlane.trans hl, n, _, Nat.lt_succ_self n,
          targets_of_queues h₀ hlab (hw'.symm ▸ hr)⟩

/-- The parameters of a flow stay the same. -/
theorem params_later (h₀ : E.world 0 = initial engines) {i j : Instance V} (hm : n ≤ m)
    (hi : (E.world n).instance? e f = some i) (hj : (E.world m).instance? e f = some j) :
    j.params = i.params := by
  have hop := ((orderly h₀ n).keyed _ _ _ hi).2
  induction hm generalizing j with
  | refl => rw [Option.some.inj (hi.symm.trans hj)]
  | @step m hm ih =>
    obtain ⟨eng, he, -⟩ := instance?_eq_some_iff.mp hj
    have hlt := (List.getElem?_eq_some_iff.mp he).1
    rw [engines_length h₀] at hlt
    have hb := (Shows.kept hj).befalls h₀ (List.getElem?_eq_getElem hlt)
    generalize (E.world m).taken? e f (E.label m) = x at hb
    generalize hy : some j = y at hb
    cases hb with
    | stays => exact ih hy.symm
    | opens hn => exact absurd (opened_later hop hm) hn
    | forgets => cases hy
    | hands hk | enters hk | refuses hk | drops hk | stops hk | completes hk =>
      obtain rfl := Option.some.inj hy
      simpa [Instance.refused] using ih hk

/-- What a step shows, it shows where something may be forgotten or where there is more room. -/
theorem Shows.change (h₀ : E.world 0 = initial engines) {i : Instance V}
    (hi : E.Shows e f (n + 1) i) : ∃ w w', Orderly w ∧ Change w (E.label n) w' ∧
      w'.instance? e f = some i ∧ w.tasks = (E.world n).tasks ∧
      w.registry = (E.world n).registry ∧
      ∀ e f, w.instance? e f = (E.world n).instance? e f := by
  cases hi with
  | kept hi => exact ⟨_, _, orderly h₀ n, E.change n, hi, rfl, rfl, fun _ _ => rfl⟩
  | roomy hs hi =>
    exact ⟨_, _, (orderly h₀ n).roomy, change_of_step hs, hi, rfl, rfl, instance?_roomy _⟩

/-- A flow whose handlers and actions returned no cancellation ends cancelled only if a cancel,
    issued to its engine while it occupied its lane, targeted it. -/
theorem target_of_ended (h₀ : E.world 0 = initial engines) {i : Instance V}
    (hi : E.Shows e f n i) (hs : i.status = .cancelled)
    (hno : ∀ m, m < n → ∀ (t : TaskId) (k : Task V I), (E.world m).tasks[t]? = some k →
      k.work.notices f = false) : ∃ m, m < n ∧ E.Targets m e i.params.resourceId f := by
  induction n generalizing i with
  | zero => exact absurd hi (not_shows_zero h₀)
  | succ n ih =>
    obtain ⟨w, w', h, hc, hj, htasks, hreg, hinst⟩ := hi.change h₀
    rcases cancelled_of_change h hc hj hs with hsame | ⟨j, hrun, hst, hp, t, k, hk, hwhy⟩
    · -- It had ended before.
      obtain ⟨m, hm, ht⟩ := ih (.kept (hinst e f ▸ hsame)) hs fun m hm =>
        hno m (Nat.lt_succ_of_lt hm)
      exact ⟨m, Nat.lt_succ_of_lt hm, ht⟩
    rw [hinst] at hrun
    rw [htasks] at hk
    rw [hp]
    rcases hwhy with hmark | hnotice | ⟨rfl, r, lock, hw⟩
    · -- The mark is that of the occupant of the lane, and that is this flow.
      rw [hreg] at hmark
      obtain ⟨lane, hl, m, e', hm, ht⟩ := target_of_marked h₀ (of_decide_eq_true hmark)
      obtain ⟨lane', hl', rfl⟩ := (orderly h₀ n).occupies e f j.params
        (running?_eq_some_iff.mpr ⟨j, hrun, hst, rfl⟩)
      obtain rfl := Option.some.inj (hl.symm.trans hl')
      obtain ⟨p, hp', -⟩ := ht.runs
      obtain ⟨i', hi', -⟩ := running?_eq_some_iff.mp hp'
      obtain rfl := instance?_single h₀ hrun hi'
      exact ⟨m, Nat.lt_succ_of_lt hm, ht⟩
    · rw [hno n (Nat.lt_succ_self n) t k hk] at hnotice
      cases hnotice
    · obtain ⟨m, hm, ht⟩ := target_of_queued h₀ hk hw
      -- The cancel was issued for the resource of the flow.
      obtain ⟨p, hp', rfl⟩ := ht.runs
      obtain ⟨i', hi', -, rfl⟩ := running?_eq_some_iff.mp hp'
      rw [params_later h₀ (Nat.le_of_lt hm) hi' hrun]
      exact ⟨m, Nat.lt_succ_of_lt hm, ht⟩

end Execution

/-! ### The main result -/

/-- Every cancel hits the flow that it targets, and no other. -/
structure Execution.OnTarget (E : Execution V I) : Prop where
  /-- A resource is recorded as cancelled only if a cancel targeted the flow that occupies its lane
      now. -/
  marked : ∀ n r, (E.world n).status? r = some .cancelled →
    ∃ lane, (E.world n).lane? r = some lane ∧ ∃ m e, m < n ∧ E.Targets m e r lane.flow
  /-- A flow whose handlers and actions returned no cancellation ends cancelled only if a cancel,
      issued to its own engine while it occupied its lane, targeted it. -/
  ended : ∀ n e f i, E.Shows e f n i → i.status = .cancelled →
    (∀ m, m < n → ∀ (t : TaskId) (k : Task V I), (E.world m).tasks[t]? = some k →
      k.work.notices f = false) →
    ∃ m, m < n ∧ E.Targets m e i.params.resourceId f
  /-- A step of a cancel that was queued for the lock of an earlier flow leaves the occupant of any
      lane alone. -/
  late : ∀ n t reply e r' lock f r lane, E.label n = .run t reply →
    (E.world n).tasks[t]? = some ⟨e, .cancel r' (.queued lock f)⟩ →
    (E.world n).lane? r = some lane → lane.flow ≠ f →
    Untouched (E.world n) (E.world (n + 1)) r lane
  /-- A cancel that is issued to an engine that does not run the occupant leaves it alone, and comes
      to nothing. -/
  elsewhere : ∀ n t reply e r lane, E.label n = .run t reply →
    (E.world n).tasks[t]? = some ⟨e, .cancel r .arriving⟩ →
    (E.world n).lane? r = some lane → (E.world n).running? e lane.flow = none →
    Untouched (E.world n) (E.world (n + 1)) r lane ∧
      (E.world (n + 1)).tasks[t]? = some ⟨e, .cancel r (.over none)⟩

/-- Whatever the engines, and in whatever order flows are started, events dispatched and cancels
    issued, every cancel hits the flow that it targets, and no other. -/
theorem cancels_on_target {engines : List (Definition V I × List (Handler V I) × Nat)}
    {E : Execution V I} (h₀ : E.world 0 = initial engines) : E.OnTarget where
  marked n r hs := Execution.target_of_marked h₀ hs
  ended n e f i hi hs hno := Execution.target_of_ended h₀ hi hs hno
  late n t reply e r' lock f r lane hl hk hlane hne := by
    have hc := E.change n
    rw [hl] at hc
    cases hc with
    | runs hr =>
      obtain rfl := Option.some.inj (hr.hasTask.symm.trans hk)
      exact (Execution.orderly h₀ n).untouched_of_late hr rfl hlane hne
  elsewhere n t reply e r lane hl hk hlane hno := by
    have hc := E.change n
    rw [hl] at hc
    cases hc with
    | runs hr =>
      obtain rfl := Option.some.inj (hr.hasTask.symm.trans hk)
      obtain ⟨hun, hwork⟩ :=
        (Execution.orderly h₀ n).untouched_of_elsewhere hr rfl hlane hno
      rw [hr.tasks, if_pos rfl, hwork]
      exact ⟨hun, rfl⟩

/-- A deletion is cancelled and ends before the cancel gets its lock. The other engine starts the
    next deletion of the same environment; then the cancel gets the lock, and the first engine is
    asked to cancel once more. -/
def lateCancelRun : List (Label CascadingDelete.vocabulary Collaborators) :=
  let request := { resourceId := 7, resourceCrn := "environment", payload := default }
  let run := fun t => .run t fun _ => .error default
  [.start 0 0 request, run 0, run 0, run 0, .cancel 0 7, run 1, run 0, run 0,
    .start 1 1 request, run 1, .cancel 0 7, run 3]

/-- That run, after which only time passes. -/
def lateCancel : Execution CascadingDelete.vocabulary Collaborators :=
  .ofFollow (show (initial deletionEngines).follow lateCancelRun =
    some (((initial deletionEngines).follow lateCancelRun).get rfl) from rfl)

/-- The environment is marked, and the first deletion ends cancelled, because the first cancel
    targeted it. Neither the rest of that cancel nor the second one touches the next deletion. -/
theorem cancels_on_target_late :
    (∃ m e, m < 6 ∧ lateCancel.Targets m e 7 (.opened 0)) ∧
    (∃ m, m < 8 ∧ lateCancel.Targets m 0 7 (.opened 0)) ∧
    ∃ lane, lane.flow = .opened 1 ∧
      Untouched (lateCancel.world 9) (lateCancel.world 10) 7 lane ∧
      Untouched (lateCancel.world 11) (lateCancel.world 12) 7 lane := by
  have h := cancels_on_target (E := lateCancel)
    (show lateCancel.world 0 = initial deletionEngines from rfl)
  have hno : ∀ m, m < 8 → ∀ k ∈ (lateCancel.world m).tasks,
      k.work.notices (.opened 0) = false := by decide
  refine ⟨?_, ?_, ⟨.opened 1, "environment-deletion", 1⟩, rfl, ?_, ?_⟩
  · obtain ⟨lane, hl, m, e, hm, ht⟩ := h.marked 6 7 rfl
    cases hl
    exact ⟨m, e, hm, ht⟩
  · exact h.ended 8 0 (.opened 0) _ (.kept rfl) rfl fun m hm t k hk =>
      hno m hm k (List.mem_of_getElem? hk)
  · exact h.late 9 1 _ 0 7 0 (.opened 0) 7 _ rfl rfl rfl nofun
  · exact (h.elsewhere 11 3 _ 0 7 _ rfl rfl rfl rfl).1

end World

end ResourceFlow
