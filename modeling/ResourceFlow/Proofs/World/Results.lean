import ResourceFlow.Proofs.World.Arrivals
/-! # Results agree with the flow

  When a call on a flow returns and the engine still keeps the flow, what the
  caller is told fits what the engine shows of the flow: either it is what is
  shown, or it names the status with which the flow ended (`Outcome.Fits`).
  Several calls may be in line when the flow ends. The first one that finds it
  ended is told so, and so are all others: what is shown of a flow that has
  ended never changes (`World.Execution.final`).

  An event without transition is refused while the flow runs, and ends it. So
  over all events that ever come to a flow, one is refused at most, and one
  call is told of it (`World.Execution.refused_once`). The main result is
  `World.results_agree`.
-/

namespace ResourceFlow

variable {V : Vocabulary} {I : Interface}

/-- What a caller is told fits a flow that is seen so. -/
inductive Outcome.Fits (g : Snapshot V) : Outcome V → Prop where
  /-- It is the flow as it is seen. -/
  | seen : Fits g (.ok g)
  /-- The flow was cancelled. -/
  | cancelled (h : g.status = .cancelled) : Fits g (.error (.cancelled g.flow g.resourceId))
  /-- The flow failed in this state. -/
  | refused {selector : String} (h : g.status = .failed) :
      Fits g (.error (.illegalTransition g.flow (V.stateName g.state) selector))
  /-- The flow ended so. -/
  | ended (h : g.status ≠ .running) : Fits g (.error (.terminated g.flow g.status))

/-- What is reported fits, too: whoever started a flow that was cancelled is told of the
    cancellation. -/
theorem Outcome.Fits.report {g : Snapshot V} {outcome : Outcome V} (h : Outcome.Fits g outcome)
    {o : Origin} (ho : ∀ r, o = .started r → g.resourceId = r) :
    Outcome.Fits g (o.report g.flow outcome) := by
  unfold Origin.report
  split
  · rename_i r f
    generalize hout : (.error (.terminated f .cancelled) : Outcome V) = outcome at h
    cases h with
    | ended h =>
      injection hout with hout
      injection hout with _ hs
      rw [← ho r rfl]
      exact .cancelled hs.symm
    | _ => cases hout
  · exact h

/-- Only a cancellation is reported in place of something else. -/
theorem Origin.eq_of_report {o : Origin} {f : FlowId} {outcome told : Outcome V}
    (h : told = o.report f outcome) (ht : ∀ g r, told ≠ .error (.cancelled g r)) :
    outcome = told := by
  unfold report at h
  split at h
  · exact absurd h (ht _ _)
  · exact h.symm

/-- Whoever brings an event without transition is told so. -/
theorem Desk.told_reject (d : Desk V I) (p : FlowParameters) (s : V.State) (event : V.Event)
    (now : Duration) : (d.reject p s event now).2 =
      .error (.illegalTransition p.flow (V.stateName s) (V.selectorName event.selector)) := by
  unfold reject
  dsimp only
  split <;> rfl

/-- Whoever has waited to cancel a flow answers with what is left of it, which does not run. -/
theorem Desk.Move.answers {d d' : Desk V I} {t : TaskId} {now : Duration} {reply : I.Reply}
    {r : ResourceId} {lock : LockId} {f : FlowId} {work' : Work V I}
    (h : Move d t now reply (.cancel r (.queued lock f)) d' work')
    (hr : ∀ g ∈ d.engine.retired, d.engine.running? g = none)
    (hkey : ∀ i, d.engine.instance? f = some i → i.params.flow = f) :
    work' = .cancel r (.over (d'.engine.get? f)) ∧ d'.engine.running? f = none := by
  cases h with
  | gone hh hi =>
    refine ⟨?_, ?_⟩
    · show _ = Work.cancel r (.over (d.engine.get? f))
      rw [Engine.get?, hi]
      rfl
    · show d.engine.running? f = none
      rw [Engine.running?, hi]
  | @finish _ _ _ i hh hi =>
    refine ⟨rfl, ?_⟩
    have hcancelled : FlowStatus.cancelled ≠ .running := by decide
    have hq := (Desk.Quits.conclude hr i.params hcancelled now).running f
    rw [if_pos (hkey i hi).symm] at hq
    exact hq

namespace World

variable {w w' : World V I} {e : EngineId} {f : FlowId}

/-- What callers see of a flow at an engine. -/
def get? (w : World V I) (e : EngineId) (f : FlowId) : Option (Snapshot V) :=
  (w.engines[e]?).bind (·.get? f)

theorem get?_eq_some_iff {g : Snapshot V} :
    w.get? e f = some g ↔ ∃ i, w.instance? e f = some i ∧ i.snapshot = g := by
  unfold get? instance?
  cases w.engines[e]? with
  | none => simp
  | some eng => exact Option.map_eq_some_iff

/-! ### When a call returns -/

section Run

variable {t : TaskId} {reply : I.Reply} {task : Task V I} {eng : Engine V I} {d' : Desk V I}
  {work' : Work V I} {o : Origin} {outcome : Outcome V}

/-- What a task has in hand when it takes a step: a flow that runs, for which it works. -/
theorem RunStep.hand (hr : RunStep w t reply w' task eng d' work') (h : Orderly w)
    (lock : LockId) (p : FlowParameters) (hp : task.work.inHand? = some (lock, p)) :
    ∃ j, eng.instance? p.flow = some j ∧ j.status = .running ∧ j.params = p ∧
      task.work.stake? = some (lock, p.flow) := by
  obtain ⟨hrun, hst⟩ := h.atWork t task lock p hr.hasTask hp
  obtain ⟨j, hj, hjr, hjp⟩ := running?_eq_some_iff.mp hrun
  exact ⟨j, (hr.instance?_self _).symm.trans hj, hjr, hjp, hst⟩

/-- What a task comes to fits its flow, if the flow is still kept. -/
theorem RunStep.fits (hr : RunStep w t reply w' task eng d' (.process o f (.over outcome)))
    (h : Orderly w) {i : Instance V} (hi : w'.instance? task.engine f = some i)
    (ho : ∀ r, o = .started r → i.params.resourceId = r) : Outcome.Fits i.snapshot outcome := by
  have hkey : i.params.flow = f := (h.keyed_run hr hi).1
  have hreport : ∀ {outcome : Outcome V}, Outcome.Fits i.snapshot outcome →
      Outcome.Fits i.snapshot (o.report f outcome) := by
    intro outcome hfit
    have hfit := hfit.report (o := o) ho
    rwa [show i.snapshot.flow = f from hkey] at hfit
  rw [hr.instance?, if_pos rfl] at hi
  have hhand := hr.hand h
  -- A flow that ends is finished, if it is kept.
  have hends : ∀ {j : Instance V} {s : FlowStatus} {P : Prop}, j.status = .running →
      (some i = some (j.finish s w.now) ∨ (P ∧ some i = none)) →
      i = j.finish s w.now ∧ i.status = s := by
    rintro j s P hj (hfin | ⟨-, hno⟩)
    · obtain rfl := Option.some.inj hfin
      exact ⟨rfl, Instance.status_finish_of_running hj ..⟩
    · cases hno
  have hcancelled : ∀ {j : Instance V}, eng.instance? j.params.flow = some j →
      j.status = .running → j.params.flow = f →
      ((⟨w.registry, eng⟩ : Desk V I).finishCancelled j.params w.now).engine.instance? f = some i →
      Outcome.Fits i.snapshot (.error (.cancelled j.params.flow j.params.resourceId)) := by
    rintro j hj hjr rfl hi
    have hfin := Desk.instance?_conclude_self (d := ⟨w.registry, eng⟩) hj hjr .cancelled w.now
    obtain ⟨rfl, hs⟩ := hends hjr (hi ▸ hfin)
    have hfits := Outcome.Fits.cancelled (g := (j.finish .cancelled w.now).snapshot) hs
    simpa [Instance.snapshot] using hfits
  have hm := hr.move
  generalize task.work = work at hm hhand
  cases hm with
  | unknown hn | forgotten _ hn =>
    have hn : eng.instance? f = none := hn
    have hi : eng.instance? f = some i := hi
    rw [hn] at hi
    cases hi
  | ended hj hend | late _ hj hend =>
    have hi : eng.instance? f = some i := hi
    obtain rfl := Option.some.inj (hi.symm.trans hj)
    have hfits := hreport (Outcome.Fits.ended (g := i.snapshot) hend)
    rwa [show i.snapshot.flow = f from hkey] at hfits
  | displaced hj hrun hl =>
    -- A flow that runs occupies its lane.
    have hp : w.running? task.engine f = some _ :=
      (hr.running?_self f).trans (Engine.running?_of_instance? hj hrun)
    obtain ⟨lane, hlane, hflow⟩ := h.occupies _ _ _ hp
    rw [Lanes.holds_iff.mpr ⟨lane, hlane, hflow⟩] at hl
    cases hl
  | halt _ | handlerCancelled _ | actionCancelled _ =>
    obtain ⟨j, hj, hjr, rfl, hst⟩ := hhand _ _ rfl
    have hf : f = j.params.flow := congrArg Prod.snd (Option.some.inj hst)
    exact hreport (hcancelled hj hjr hf.symm hi)
  | lost _ hn =>
    obtain ⟨j, hj, -⟩ := hhand _ _ rfl
    have hn : eng.instance? _ = none := hn
    rw [hn] at hj
    cases hj
  | @refuse _ _ _ _ event k _ hk _ _ =>
    obtain ⟨j, hj, hjr, rfl, hst⟩ := hhand _ _ rfl
    obtain rfl : f = j.params.flow := congrArg Prod.snd (Option.some.inj hst)
    obtain rfl := Option.some.inj (hj.symm.trans hk)
    have hi : ((⟨w.registry, eng⟩ : Desk V I).reject j.params j.state event
      w.now).1.engine.instance? j.params.flow = some i := hi
    have hfin := Desk.instance?_reject_self (d := ⟨w.registry, eng⟩) hj hjr event w.now
    obtain ⟨rfl, hs⟩ := hends (j := j.refused event) hjr (hi ▸ hfin)
    have hfits : Outcome.Fits _ (.error (.illegalTransition _ _ (V.selectorName event.selector))) :=
      .refused (g := ((j.refused event).finish .failed w.now).snapshot) hs
    refine hreport ?_
    rw [Desk.told_reject]
    simpa [Instance.snapshot, Instance.refused] using hfits
  | completed _ _ =>
    obtain ⟨j, hj, hjr, rfl, hst⟩ := hhand _ _ rfl
    obtain rfl : f = j.params.flow := congrArg Prod.snd (Option.some.inj hst)
    have heq := Desk.complete_eq (d := ⟨w.registry, eng⟩) hj w.now
    have hi : ((⟨w.registry, eng⟩ : Desk V I).complete j.params w.now).1.engine.instance?
      j.params.flow = some i := hi
    rw [heq] at hi ⊢
    obtain ⟨rfl, -⟩ := hends hjr
      (hi ▸ Desk.instance?_conclude_self (d := ⟨w.registry, eng⟩) hj hjr _ w.now)
    exact hreport .seen
  | parked _ =>
    obtain ⟨j, hj, hjr, rfl, hst⟩ := hhand _ _ rfl
    obtain rfl : f = j.params.flow := congrArg Prod.snd (Option.some.inj hst)
    obtain rfl := Option.some.inj (hi.symm.trans hj)
    have hget : eng.get? i.params.flow = some i.snapshot := congrArg (Option.map _) hj
    refine hreport ?_
    show Outcome.Fits _ ((eng.get? _).elim _ _)
    rw [hget]
    exact .seen

/-- A call comes to a flow that still runs only where the flow parks: the action of a state that is
    not terminal has returned no event. -/
theorem RunStep.parks {s : Snapshot V}
    (hr : RunStep w t reply w' task eng d' (.process o f (.over (.ok s)))) (h : Poised w)
    (hs : s.status = .running) : ∃ lock p event, task.work =
      .process o f (.acting lock p event s.state (.ended (.ok none))) ∧
        eng.definition.isTerminal s.state = false := by
  have hhand := hr.hand h.orderly
  have hacts := fun s i hact hi => h.acts t task f s i hr.hasTask hact hi
  generalize hout : (.ok s : Outcome V) = outcome at hr
  have hm := hr.move
  generalize task.work = work at hm hhand hacts
  -- Whoever is told of an error is not told of the flow.
  cases hm with
  | completed _ _ =>
    obtain ⟨j, hj, hjr, -⟩ := hhand _ _ rfl
    have htold := Origin.eq_of_report hout nofun
    rw [Desk.complete_eq (d := ⟨w.registry, eng⟩) hj w.now] at htold
    injection htold with htold
    rw [← htold] at hs
    have hend := Instance.status_finish_of_running hjr
      (if j.failure.isSome then .failed else .finished) w.now
    rw [show (j.finish _ w.now).status = .running from hs] at hend
    split at hend <;> cases hend
  | @parked _ _ lock p event st hter =>
    obtain ⟨j, hj, -, -, hst⟩ := hhand _ _ rfl
    obtain rfl : f = p.flow := congrArg Prod.snd (Option.some.inj hst)
    have htold := Origin.eq_of_report hout nofun
    have hget : eng.get? p.flow = some j.snapshot := congrArg (Option.map _) hj
    rw [show (⟨w.registry, eng⟩ : Desk V I).engine.get? p.flow = _ from hget] at htold
    injection htold with htold
    have hstate : s.state = st := by
      rw [← htold]
      exact hacts st j rfl ((hr.instance?_self _).trans hj)
    exact ⟨lock, p, event, by rw [hstate], by rw [hstate]; exact hter⟩
  | refuse _ _ _ _ =>
    rw [Desk.told_reject] at hout
    cases Origin.eq_of_report hout nofun
  | _ => cases Origin.eq_of_report hout nofun

/-- Whoever has waited to cancel a flow answers with what is seen of it, and the flow does not
    run. -/
theorem RunStep.answers {r : ResourceId} {lock : LockId}
    (hr : RunStep w t reply w' task eng d' work') (h : Orderly w)
    (hw : task.work = .cancel r (.queued lock f)) :
    work' = .cancel r (.over (w'.get? task.engine f)) ∧ w'.running? task.engine f = none := by
  have hm := hr.move
  rw [hw] at hm
  obtain ⟨hwork, hnone⟩ := hm.answers (h.retired_self hr)
    fun i hi => (h.keyed _ _ i ((hr.instance?_self f).trans hi)).1
  unfold get?
  rw [hr.engines, hr.running?, if_pos rfl, if_pos rfl]
  exact ⟨hwork, hnone⟩

/-- Whoever is told of an event without transition brought one that is refused. -/
theorem RunStep.refuses {g : FlowId} {state selector : String}
    (hr : RunStep w t reply w' task eng d'
      (.process o f (.over (.error (.illegalTransition g state selector))))) (h : Orderly w) :
    ∃ x, w.taken? task.engine f (.run t reply) = some x ∧ x.fate = .refused := by
  have hhand := hr.hand h
  rw [taken?_run hr.hasTask hr.hasEngine]
  generalize hout : (.error (.illegalTransition g state selector) : Outcome V) = outcome at hr
  have hm := hr.move
  generalize task.work = work at hm hhand ⊢
  cases hm with
  | @refuse _ _ lock p event i hc hi hh ht =>
    obtain ⟨j, hj, -, rfl, hst⟩ := hhand _ _ rfl
    obtain rfl : f = j.params.flow := congrArg Prod.snd (Option.some.inj hst)
    obtain rfl := Option.some.inj (hj.symm.trans hi)
    refine ⟨⟨j, event, .refused⟩, ?_, rfl⟩
    rw [Desk.taken?_of_refused hc hi hh ht, Option.filter_some, if_pos (decide_eq_true rfl)]
  | @completed _ _ _ p _ _ _ _ _ =>
    obtain ⟨j, hj, -⟩ := hhand _ _ rfl
    rw [Desk.complete_eq (d := ⟨w.registry, eng⟩) hj w.now] at hout
    cases Origin.eq_of_report hout nofun
  | @parked _ _ _ p _ _ _ =>
    obtain ⟨j, hj, -⟩ := hhand _ _ rfl
    have hget : eng.get? p.flow = some j.snapshot := congrArg (Option.map _) hj
    rw [show (⟨w.registry, eng⟩ : Desk V I).engine.get? p.flow = _ from hget] at hout
    cases Origin.eq_of_report hout nofun
  | _ => cases Origin.eq_of_report hout nofun

end Run

/-! ### Over an execution -/

namespace Execution

variable {E : Execution V I} {engines : List (Definition V I × List (Handler V I) × Nat)}
  {d : Definition V I} {hs : List (Handler V I)} {retention n m : Nat} {t u : TaskId}
  {outcome : Outcome V}

/-- In step `n` task `t`, which processes events of flow `f` at engine `e`, returns with this
    outcome. -/
def Returns (E : Execution V I) (n : Nat) (t : TaskId) (e : EngineId) (f : FlowId)
    (outcome : Outcome V) : Prop :=
  ∃ reply o, E.label n = .run t reply ∧
    (E.world (n + 1)).tasks[t]? = some ⟨e, .process o f (.over outcome)⟩

theorem Returns.runStep (h : E.Returns n t e f outcome) : ∃ reply o task eng d',
    E.label n = .run t reply ∧ task.engine = e ∧
      RunStep (E.world n) t reply (E.world (n + 1)) task eng d' (.process o f (.over outcome)) := by
  obtain ⟨reply, o, hl, ht⟩ := h
  have hc := E.change n
  rw [hl] at hc
  cases hc with
  | @runs _ _ _ task eng d' work' hr =>
    rw [hr.tasks, if_pos rfl] at ht
    injection ht with ht
    injection ht with he hw
    exact ⟨reply, o, task, eng, d', hl, he, hw ▸ hr⟩

/-- What is kept of a flow that has ended never changes. -/
theorem final (h₀ : E.world 0 = initial engines) {i j : Instance V} (hm : n ≤ m)
    (hi : (E.world n).instance? e f = some i) (hend : i.status ≠ .running)
    (hj : (E.world m).instance? e f = some j) : j = i := by
  have hop := ((orderly h₀ n).keyed _ _ _ hi).2
  induction hm generalizing j with
  | refl => exact Option.some.inj (hj.symm.trans hi)
  | @step m hm ih =>
    obtain ⟨eng, he, -⟩ := instance?_eq_some_iff.mp hj
    have hlt := (List.getElem?_eq_some_iff.mp he).1
    rw [engines_length h₀] at hlt
    have hb := (Shows.kept hj).befalls h₀ (List.getElem?_eq_getElem hlt)
    generalize (E.world m).taken? e f (E.label m) = x at hb
    generalize hy : some j = y at hb
    cases hb with
    | stays => exact ih hy.symm
    | opens hn => exact absurd (opened_later hop hm) hn
    | forgets => cases hy
    | hands hk hrun | enters hk hrun | refuses hk hrun | drops hk hrun | stops hk hrun
    | completes hk hrun =>
      -- Anything else befalls only flows that run.
      rw [ih hk] at hrun
      exact absurd hrun hend

/-- After an event of a flow was refused no other is taken. -/
theorem not_taken_of_refused (h₀ : E.world 0 = initial engines)
    (he : engines[e]? = some (d, hs, retention)) {x y : Taken V}
    (hx : (E.world n).taken? e f (E.label n) = some x) (hfx : x.fate = .refused)
    (hy : (E.world m).taken? e f (E.label m) = some y) : ¬ n < m := by
  intro hlt
  obtain ⟨-, -, -, -, -, -, hi, -⟩ := taken?_eq_some (poised h₀ n).orderly hx
  obtain ⟨-, -, -, -, -, -, hj, hrun⟩ := taken?_eq_some (poised h₀ m).orderly hy
  have hop := opened_of_change (E.change n) ((poised h₀ n).orderly.keyed _ _ _ hi).2
  cases hkept : (E.world (n + 1)).instance? e f with
  | none =>
    rw [(instance?_stays_none h₀ hop hkept hlt).2] at hj
    cases hj
  | some i =>
    -- The refusal ended the flow.
    have hfailed := (failed_of_refused h₀ he hx hfx (.kept hkept)).1
    rw [final h₀ hlt hkept (by rw [hfailed]; exact nofun) hj, hfailed] at hrun
    cases hrun

/-- One event of a flow is refused at most. -/
theorem refused_once (h₀ : E.world 0 = initial engines)
    (he : engines[e]? = some (d, hs, retention)) {x y : Taken V}
    (hx : (E.world n).taken? e f (E.label n) = some x) (hfx : x.fate = .refused)
    (hy : (E.world m).taken? e f (E.label m) = some y) (hfy : y.fate = .refused) : n = m := by
  have h₁ := not_taken_of_refused h₀ he hx hfx hy
  have h₂ := not_taken_of_refused h₀ he hy hfy hx
  omega

/-- One call is told of an event without transition at most, whatever the engine. -/
theorem told_once (h₀ : E.world 0 = initial engines) {e' : EngineId} {g g' : FlowId}
    {state state' selector selector' : String}
    (ht : E.Returns n t e f (.error (.illegalTransition g state selector)))
    (hu : E.Returns m u e' f (.error (.illegalTransition g' state' selector'))) :
    n = m ∧ t = u := by
  obtain ⟨reply, o, task, eng, d', hl, rfl, hr⟩ := ht.runStep
  obtain ⟨reply', o', task', eng', d'', hl', rfl, hr'⟩ := hu.runStep
  obtain ⟨x, hx, hfx⟩ := hr.refuses (orderly h₀ n)
  obtain ⟨y, hy, hfy⟩ := hr'.refuses (orderly h₀ m)
  obtain ⟨-, -, -, -, -, -, hi, -⟩ := taken?_eq_some (orderly h₀ n) hx
  obtain ⟨-, -, -, -, -, -, hj, -⟩ := taken?_eq_some (orderly h₀ m) hy
  -- Both are calls of the engine that keeps the flow.
  have hee := instance?_single h₀ hi hj
  rw [← hl] at hx
  rw [← hl', ← hee] at hy
  have hlt := (List.getElem?_eq_some_iff.mp hr.hasEngine).1
  rw [engines_length h₀] at hlt
  obtain rfl := refused_once h₀ (List.getElem?_eq_getElem hlt) hx hfx hy hfy
  rw [hl] at hl'
  injection hl' with htu
  exact ⟨rfl, htu⟩

end Execution

/-! ### Agreement -/

/-- What callers are told of flow `f` of engine `e`, which has definition `d`, agrees with the flow,
    from the first step on. -/
structure Execution.ResultsAgree (E : Execution V I) (d : Definition V I) (e : EngineId)
    (f : FlowId) : Prop where
  /-- Whoever processed events of the flow is told what fits the flow as it is seen when the call
      returns, if it is still kept. -/
  returns : ∀ (n : Nat) (t : TaskId) (outcome : Outcome V) (g : Snapshot V),
    E.Returns n t e f outcome → (E.world (n + 1)).get? e f = some g → Outcome.Fits g outcome
  /-- A call comes to a flow that still runs only where the flow parks: the action of its state,
      which is not terminal, returned no event. -/
  parks : ∀ (n : Nat) (t : TaskId) (s : Snapshot V), E.Returns n t e f (.ok s) →
    s.status = .running → d.isTerminal s.state = false ∧ ∃ o lock p event,
      (E.world n).tasks[t]? =
        some ⟨e, .process o f (.acting lock p event s.state (.ended (.ok none)))⟩
  /-- A cancel of the flow that held the lock comes to the flow as it is seen when the call returns,
      if it is still kept. The flow has ended. -/
  cancels : ∀ (n : Nat) (t : TaskId) (reply : I.Reply) (r : ResourceId) (lock : LockId)
    (told : Option (Snapshot V)) (g : Snapshot V), E.label n = .run t reply →
    (E.world n).tasks[t]? = some ⟨e, .cancel r (.queued lock f)⟩ →
    (E.world (n + 1)).tasks[t]? = some ⟨e, .cancel r (.over told)⟩ →
    (E.world (n + 1)).get? e f = some g → told = some g ∧ g.status ≠ .running
  /-- What is seen of a flow that has ended never changes. -/
  final : ∀ (n m : Nat) (g g' : Snapshot V), n ≤ m → (E.world n).get? e f = some g →
    g.status ≠ .running → (E.world m).get? e f = some g' → g' = g
  /-- One call is told of an event without transition at most. -/
  told_once : ∀ (n m : Nat) (t u : TaskId) (e' : EngineId) (g g' : FlowId)
    (state state' selector selector' : String),
    E.Returns n t e f (.error (.illegalTransition g state selector)) →
    E.Returns m u e' f (.error (.illegalTransition g' state' selector')) → n = m ∧ t = u
  /-- One event is refused at most. -/
  refused_once : ∀ (n m : Nat) (x y : Taken V), (E.world n).taken? e f (E.label n) = some x →
    x.fate = .refused → (E.world m).taken? e f (E.label m) = some y → y.fate = .refused → n = m
  /-- Its record says that there is no transition, and is the last record of the flow. -/
  recorded : ∀ (n : Nat) (x : Taken V), (E.world n).taken? e f (E.label n) = some x →
    x.fate = .refused → ∃ a, a.failure = some (V.noTransition x.run.state x.event) ∧
      ∀ m, n < m → (E.world m).records e f = (E.world n).records e f ++ [a]

/-- What callers are told agrees with their flow, in any execution: whatever is started, submitted,
    dispatched and cancelled, in whatever order, and whatever actions and handlers do. -/
theorem results_agree {engines : List (Definition V I × List (Handler V I) × Nat)}
    {E : Execution V I} (h₀ : E.world 0 = initial engines) {e : EngineId} {d : Definition V I}
    {hs : List (Handler V I)} {retention : Nat}
    (he : engines[e]? = some (d, hs, retention)) (f : FlowId) : E.ResultsAgree d e f where
  returns n t outcome g ht hg := by
    obtain ⟨i, hi, rfl⟩ := get?_eq_some_iff.mp hg
    obtain ⟨reply, o, task, eng, d', hl, rfl, hr⟩ := ht.runStep
    refine hr.fits (Execution.orderly h₀ n) hi ?_
    -- Whoever started the flow did so on its resource.
    intro r ho
    obtain ⟨stage, hw⟩ := hr.move.processed rfl
    obtain ⟨m, x, -, hb, -⟩ := Execution.begun h₀ (P := fun _ _ => True) (fun _ => trivial)
      (fun _ _ _ _ => trivial) hr.hasTask rfl hw
    exact (hb.params_eq h₀ ho hi).1
  parks n t s ht hs := by
    obtain ⟨reply, o, task, eng, d', hl, rfl, hr⟩ := ht.runStep
    obtain ⟨lock, p, event, hw, hter⟩ := hr.parks (Execution.poised h₀ n) hs
    obtain ⟨eng', he', rfl, -⟩ := Execution.engine h₀ he n
    obtain rfl := Option.some.inj (he'.symm.trans hr.hasEngine)
    exact ⟨hter, o, lock, p, event, by rw [hr.hasTask, ← hw]⟩
  cancels n t reply r lock told g hl ht ht' hg := by
    obtain ⟨i, hi, rfl⟩ := get?_eq_some_iff.mp hg
    have hc := E.change n
    rw [hl] at hc
    cases hc with
    | runs hr =>
      obtain rfl := Option.some.inj (hr.hasTask.symm.trans ht)
      obtain ⟨rfl, hnone⟩ := hr.answers (Execution.orderly h₀ n) rfl
      rw [hr.tasks, if_pos rfl, hg] at ht'
      cases ht'
      refine ⟨rfl, fun hrun => ?_⟩
      rw [running?_eq_some_iff.mpr ⟨i, hi, hrun, rfl⟩] at hnone
      cases hnone
  final n m g g' hm hg hend hg' := by
    obtain ⟨i, hi, rfl⟩ := get?_eq_some_iff.mp hg
    obtain ⟨j, hj, rfl⟩ := get?_eq_some_iff.mp hg'
    rw [Execution.final h₀ hm hi hend hj]
  told_once n m t u e' g g' state state' selector selector' ht hu := Execution.told_once h₀ ht hu
  refused_once n m x y hx hfx hy hfy := Execution.refused_once h₀ he hx hfx hy hfy
  recorded n x hx hfx := by
    have hrecord : ∃ a, x.record? = some a ∧
        a.failure = some (V.noTransition x.run.state x.event) := by
      unfold Taken.record?
      rw [hfx]
      exact ⟨_, rfl, rfl⟩
    obtain ⟨a, ha, hfailure⟩ := hrecord
    refine ⟨a, hfailure, fun m hm => ?_⟩
    rw [Execution.records_of_refused h₀ he hx hfx hm,
      records_of_change (Execution.poised h₀ n).orderly (E.change n), hx, Option.bind_some, ha]
    rfl

/-- To a parked flow two events are delivered for which it has no transition. Both wait for the lane
    when the first one is taken. -/
def misdirectedRun : List (Label CascadingDelete.vocabulary Collaborators) :=
  let astray := .dispatch 0 (.opened 0) { cleared with selector := .start }
  let step (t : TaskId) := .run t fun _ => .error default
  clearingStart :: List.replicate 4 (step 0) ++
    [astray, astray, step 1, step 2, step 1, step 1, step 2]

/-- That flow, after which only time passes. -/
def misdirected : Execution CascadingDelete.vocabulary Collaborators :=
  .ofFollow (show (initial (clearingEngines none)).follow misdirectedRun =
    some (((initial (clearingEngines none)).follow misdirectedRun).get rfl) from rfl)

/-- The first caller is told that there is no transition, the second one that the flow failed. Both
    fit what is seen of the flow, which stays so, and nobody else is ever told of an event without
    transition. -/
theorem results_agree_misdirected : ∃ g : Snapshot CascadingDelete.vocabulary,
    (misdirected.world 11).get? 0 (.opened 0) = some g ∧ g.status = .failed ∧
    (∀ outcome, misdirected.Returns 10 1 0 (.opened 0) outcome → Outcome.Fits g outcome) ∧
    misdirected.Returns 10 1 0 (.opened 0) (.error (.illegalTransition (.opened 0)
      "RESOURCES_DELETING" "START_ENV_DELETE_EVENT")) ∧
    misdirected.Returns 11 2 0 (.opened 0) (.error (.terminated (.opened 0) .failed)) ∧
    (∀ n g', 11 ≤ n → (misdirected.world n).get? 0 (.opened 0) = some g' → g' = g) ∧
    ∀ n t e flow state selector, misdirected.Returns n t e (.opened 0)
      (.error (.illegalTransition flow state selector)) → n = 10 ∧ t = 1 := by
  have hagree := results_agree (E := misdirected)
    (show misdirected.world 0 = initial (clearingEngines none) from rfl) (e := 0) rfl (.opened 0)
  have hfirst : misdirected.Returns 10 1 0 (.opened 0) (.error (.illegalTransition (.opened 0)
    "RESOURCES_DELETING" "START_ENV_DELETE_EVENT")) := ⟨_, .dispatched, rfl, rfl⟩
  have hseen : ∃ g, (misdirected.world 11).get? 0 (.opened 0) = some g ∧ g.status = .failed :=
    ⟨_, rfl, rfl⟩
  obtain ⟨g, hg, hfailed⟩ := hseen
  refine ⟨g, hg, hfailed, fun outcome ht => hagree.returns 10 1 outcome g ht hg, hfirst,
    ⟨_, .dispatched, rfl, rfl⟩, fun n g' hn hg' => ?_, fun n t e flow state selector ht => ?_⟩
  · exact hagree.final 11 n g g' hn hg (by rw [hfailed]; exact nofun) hg'
  · obtain ⟨hn, hu⟩ := hagree.told_once 10 n 1 t e _ _ _ _ _ _ hfirst ht
    exact ⟨hn.symm, hu.symm⟩

end World

end ResourceFlow
