import ResourceFlow.Proofs.World.Retirement
/-! # Calls that come too late

  A call that brings an event looks for its flow when it comes, and again when
  it has got hold of the lane. If the flow does not run then, the call is over:
  it is told that there is no such flow, or how the flow ended
  (`FlowError.missing`), and nothing has changed but the line for the lane
  (`World.RunStep.misses`). In a fair execution it does come to that
  (`World.Execution.returns_missing`), since a flow that has ended does not run
  again.

  So it is with the call that opened the flow, if a cancel ends the flow before
  the call has got hold of the lane. It is told of the cancellation exactly if
  the engine still remembers the flow when the call looks for it: fewer flows of
  the engine have ended after it than the engine keeps. The main result is
  `World.cancelled_start`. Where another flow has ended meanwhile, an engine that
  keeps one tells the caller that there is no such flow
  (`World.cancelled_start_forgets`).
-/

namespace ResourceFlow

variable {V : Vocabulary} {I : Interface}

/-- What a call is told of a flow that does not run, by what is kept of it. -/
def FlowError.missing (f : FlowId) : Option (Instance V) → FlowError
  | none => .notFound f
  | some i => .terminated f i.status

/-- A call that does not find its flow running is over after the step, and lets go of the lock that
    it has waited for. -/
theorem Desk.Move.misses {d d' : Desk V I} {t : TaskId} {now : Duration} {reply : I.Reply}
    {o : Origin} {f : FlowId} {stage : Processing V I} {w' : Work V I} {x : V.Event}
    (h : Move d t now reply (.process o f stage) d' w')
    (hb : (Work.process o f stage).Brings f x) (hgone : d.engine.running? f = none) :
    w' = .process o f (.over (o.report f (.error (.missing f (d.engine.instance? f))))) ∧
      d' = { d with registry :=
        (Work.process o f stage).awaited?.elim d.registry d.registry.passLock } := by
  have hends {i : Instance V} (hi : d.engine.instance? f = some i) (hr : i.status = .running) :
      False := by
    rw [Engine.running?_of_instance? hi hr] at hgone
    cases hgone
  cases hb with
  | arriving =>
    cases h with
    | unknown hi =>
      rw [hi]
      exact ⟨rfl, rfl⟩
    | ended hi =>
      rw [hi]
      exact ⟨rfl, rfl⟩
    | displaced hi hr | queue hi hr => exact (hends hi hr).elim
  | queued =>
    cases h with
    | forgotten _ hi =>
      rw [hi]
      exact ⟨rfl, rfl⟩
    | late _ hi =>
      rw [hi]
      exact ⟨rfl, rfl⟩
    | admitted _ hi hr => exact (hends hi hr).elim

namespace World

/-- Nothing changes but the line for the lane where a call does not find its flow running. -/
theorem RunStep.misses {w w' : World V I} {t : TaskId} {reply : I.Reply} {e : EngineId}
    {o : Origin} {f : FlowId} {stage : Processing V I} {eng : Engine V I} {d' : Desk V I}
    {work' : Work V I} {x : V.Event}
    (hr : RunStep w t reply w' ⟨e, .process o f stage⟩ eng d' work')
    (hb : (Work.process o f stage).Brings f x) (hgone : w.running? e f = none) :
    w' = { w with
      registry := (Work.process o f stage).awaited?.elim w.registry w.registry.passLock
      tasks := w.tasks.set t ⟨e, .process o f
        (.over (o.report f (.error (.missing f (w.instance? e f)))))⟩ } := by
  obtain ⟨rfl, rfl⟩ := hr.move.misses hb ((hr.running?_self f).symm.trans hgone)
  have hengines : w.engines.set e eng = w.engines := by
    obtain ⟨hlt, rfl⟩ := List.getElem?_eq_some_iff.mp hr.hasEngine
    exact List.set_getElem_self hlt
  rw [hr.result, show w.instance? e f = eng.instance? f from hr.instance?_self f]
  dsimp only
  rw [hengines]

namespace Execution

variable {E : Execution V I} {engines : List (Definition V I × List (Handler V I) × Nat)}
  {d : Definition V I} {hs : List (Handler V I)} {retention n m : Nat} {t : TaskId} {e : EngineId}
  {o : Origin} {f : FlowId} {stage : Processing V I} {x : V.Event} {outcome : Outcome V}

/-- A task that is over stays so. -/
theorem over_later {k : Task V I} (hk : (E.world n).tasks[t]? = some k)
    (hover : k.work.result?.isSome = true) (hm : n ≤ m) : (E.world m).tasks[t]? = some k := by
  induction hm with
  | refl => exact hk
  | @step m _ ih =>
    refine task_of_change (E.change m) (fun reply hl => ?_) ih
    have hstep := E.step m
    rw [hl] at hstep
    obtain ⟨k', -, hk', -, hres, -⟩ := run_isSome_iff.mp (Option.isSome_iff_exists.mpr ⟨_, hstep⟩)
    obtain rfl := Option.some.inj (ih.symm.trans hk')
    rw [hover] at hres
    cases hres

/-- The step of a call that does not find its flow running. -/
theorem over_of_missing {reply : I.Reply} (hl : E.label n = .run t reply)
    (hk : (E.world n).tasks[t]? = some ⟨e, .process o f stage⟩)
    (hb : (Work.process o f stage).Brings f x) (hgone : (E.world n).running? e f = none) :
    (E.world (n + 1)).tasks[t]? = some ⟨e, .process o f
      (.over (o.report f (.error (.missing f ((E.world n).instance? e f)))))⟩ := by
  have hc := E.change n
  rw [hl] at hc
  cases hc with
  | runs hr =>
    obtain rfl := Option.some.inj (hr.hasTask.symm.trans hk)
    rw [hr.misses hb hgone]
    exact List.getElem?_set_self (List.getElem?_eq_some_iff.mp hk).1

/-- A flow that does not run, and whose id is not still to be given out, does not run later. -/
theorem gone_later (h₀ : E.world 0 = initial engines)
    (he : engines[e]? = some (d, hs, retention))
    (hknown : ∀ serial, f = .opened serial → serial < (E.world n).nextFlow)
    (hgone : (E.world n).running? e f = none) (hm : n ≤ m) : (E.world m).running? e f = none := by
  cases f with
  | opened serial => exact (ended_stays h₀ he ⟨serial, rfl, hknown serial rfl⟩ hgone hm).2
  | foreign value =>
    refine Option.eq_none_iff_forall_ne_some.mpr fun p hp => ?_
    -- What runs has been opened.
    obtain ⟨-, serial, hserial, -⟩ := (orderly h₀ m).running_keyed hp
    cases hserial

/-- A call whose flow does not run any more stands where it stood, until it has looked and is
    over. -/
theorem brings_later (hgone : ∀ j, n ≤ j → (E.world j).running? e f = none)
    (hk : (E.world n).tasks[t]? = some ⟨e, .process o f stage⟩)
    (hb : (Work.process o f stage).Brings f x) (hm : n ≤ m) :
    (E.world m).tasks[t]? = some ⟨e, .process o f stage⟩ ∨ ∃ outcome,
      (E.world m).tasks[t]? = some ⟨e, .process o f (.over outcome)⟩ := by
  induction hm with
  | refl => exact .inl hk
  | @step m hm ih =>
    rcases ih with hkm | ⟨outcome, hkm⟩
    · by_cases hl : ∃ reply, E.label m = .run t reply
      · obtain ⟨reply, hl⟩ := hl
        exact .inr ⟨_, over_of_missing hl hkm hb (hgone m hm)⟩
      · exact .inl (task_of_change (E.change m) (fun reply h => hl ⟨reply, h⟩) hkm)
    · exact .inr ⟨outcome, over_later hkm rfl (Nat.le_succ m)⟩

/-- What a call is told whose flow does not run any more. -/
theorem told_missing (hgone : ∀ j, n ≤ j → (E.world j).running? e f = none)
    (hk : (E.world n).tasks[t]? = some ⟨e, .process o f stage⟩)
    (hb : (Work.process o f stage).Brings f x) (ht : E.Returns m t e f outcome) :
    n ≤ m ∧ outcome = o.report f (.error (.missing f ((E.world m).instance? e f))) := by
  obtain ⟨reply, o', hl, hover⟩ := ht
  have hm : n ≤ m := by
    refine Nat.le_of_not_lt fun hlt => ?_
    have hk' := over_later hover rfl hlt
    rw [hk] at hk'
    cases hk'
    cases hb
  refine ⟨hm, ?_⟩
  rcases brings_later hgone hk hb hm with hkm | ⟨outcome', hkm⟩
  · rw [over_of_missing hl hkm hb (hgone m hm)] at hover
    cases hover
    rfl
  · -- Whoever is over takes no step.
    have hstep := E.step m
    rw [hl] at hstep
    obtain ⟨k, -, hk', -, hres, -⟩ := run_isSome_iff.mp (Option.isSome_iff_exists.mpr ⟨_, hstep⟩)
    obtain rfl := Option.some.inj (hkm.symm.trans hk')
    cases hres

/-- The engine of a call that waits for the lane has kept the flow. -/
theorem kept_of_queued (h₀ : E.world 0 = initial engines)
    (hk : (E.world n).tasks[t]? = some ⟨e, .process o f stage⟩)
    (hs : (Work.process o f stage).stake? ≠ none) :
    ∃ j i, (E.world j).instance? e f = some i := by
  induction n generalizing stage with
  | zero =>
    rw [h₀] at hk
    cases hk
  | succ n ih =>
    have hc := E.change n
    generalize E.world (n + 1) = w' at hc hk
    generalize E.label n = l at hc
    cases hc with
    | opens ho =>
      rcases ho.tasks.mp hk with hk | ⟨-, hnew⟩
      · exact ih hk hs
      · cases hnew
        exact absurd rfl hs
    | delivers =>
      rcases tasks_addTask.mp hk with hk | ⟨-, hnew⟩
      · exact ih hk hs
      · cases hnew
        exact absurd rfl hs
    | refuses | cancels =>
      rcases tasks_addTask.mp hk with hk | ⟨-, hnew⟩
      · exact ih hk hs
      · cases hnew
    | @runs u _ _ task _ _ _ hr =>
      rw [hr.tasks] at hk
      split at hk
      · rename_i htu
        subst htu
        obtain ⟨ke, work⟩ := task
        cases hk
        obtain ⟨stage₀, rfl⟩ := hr.move.processed rfl
        by_cases hs₀ : (Work.process o f stage₀ : Work V I).stake? = none
        · -- It asks for the lock in this step, and finds the flow.
          have hself := hr.instance?_self f
          have hmove := hr.move
          cases hmove with
          | queue hi => exact ⟨n, _, hself.trans hi⟩
          | unknown | ended | displaced => exact absurd rfl hs
          | _ => cases hs₀
        · exact ih hr.hasTask hs₀
      · exact ih hk hs
    | elapses => exact ih hk hs

/-- A call whose flow does not run any more returns. -/
theorem returns_missing (hf : E.Fair) (h₀ : E.world 0 = initial engines)
    (he : engines[e]? = some (d, hs, retention))
    (hgone : ∀ j, n ≤ j → (E.world j).running? e f = none)
    (hk : (E.world n).tasks[t]? = some ⟨e, .process o f stage⟩)
    (hb : (Work.process o f stage).Brings f x) :
    ∃ m outcome, n ≤ m ∧ E.Returns m t e f outcome := by
  -- It takes a step some time, from where it stands.
  have hstep : ∃ m reply, n ≤ m ∧ E.label m = .run t reply ∧
      (E.world m).tasks[t]? = some ⟨e, .process o f stage⟩ := by
    cases hb with
    | arriving =>
      have hlt : e < (E.world n).engines.length := by
        rw [engines_length h₀]
        exact (List.getElem?_eq_some_iff.mp he).1
      exact hf.takes_step (fun n => (orderly h₀ n).queues) (fun reply => run_isSome_iff.mpr
        ⟨_, _, hk, List.getElem?_eq_getElem hlt, rfl, fun l hl => nomatch hl⟩) hk
    | queued =>
      -- No other engine runs the flow, either.
      have hnone : ∀ e', (E.world n).running? e' f = none := by
        intro e'
        refine Option.eq_none_iff_forall_ne_some.mpr fun p hp => ?_
        obtain ⟨i, hi, -⟩ := running?_eq_some_iff.mp hp
        obtain ⟨j, i', hi'⟩ := kept_of_queued h₀ hk nofun
        obtain rfl := instance?_single h₀ hi hi'
        rw [hgone n (Nat.le_refl n)] at hp
        cases hp
      have hop := ((orderly h₀ n).stakes t _ _ f hk rfl).2.1
      have hmark : Marked (E.world n) 0 f :=
        ⟨orderly h₀ n, hop, fun e' p hp => nomatch (hnone e').symm.trans hp⟩
      obtain ⟨i, hni, hh, hki⟩ := turn_comes hf h₀ hmark hk rfl
      obtain ⟨m, reply, eng, d', work', him, hl, hr⟩ := step_of_holder hf h₀ hki rfl hh
      exact ⟨m, reply, Nat.le_trans hni him, hl, hr.hasTask⟩
  obtain ⟨m, reply, hm, hl, hkm⟩ := hstep
  exact ⟨m, _, hm, reply, o, hl, over_of_missing hl hkm hb (hgone m hm)⟩

/-- The instance that is kept of a flow that ended cancelled says so. -/
theorem cancelled_of_kept (h₀ : E.world 0 = initial engines)
    (hrun : (E.world n).running? e f ≠ none) (hgone : (E.world (n + 1)).running? e f = none)
    {i j : Instance V} (hi : E.Shows e f (n + 1) i) (hcancelled : i.status = .cancelled)
    (hm : n + 1 ≤ m) (hj : (E.world m).instance? e f = some j) : j.status = .cancelled := by
  obtain ⟨p, hp⟩ := Option.ne_none_iff_exists'.mp hrun
  have hop := opened_of_change (E.change n) ((orderly h₀ n).running_keyed hp).2
  cases hkept : (E.world (n + 1)).instance? e f with
  | none =>
    -- What is forgotten is not kept later.
    rw [(instance?_stays_none h₀ hop hkept hm).2] at hj
    cases hj
  | some k =>
    have hk : k.status = .cancelled := by
      cases hi with
      | kept hi =>
        obtain rfl := Option.some.inj (hkept.symm.trans hi)
        exact hcancelled
      | roomy hs hi =>
        exact (status_of_roomy (orderly h₀ n) (E.step n) hs hrun hgone hi hkept).symm.trans
          hcancelled
    rw [final h₀ hm hkept (by rw [hk]; exact nofun) hj, hk]

/-- Task `t` started flow `f` of resource `r` at engine `e`, which keeps `retention` flows that have
    ended, and had not got hold of the lane when a cancel had ended the flow, before step `n`: -/
structure ToldOfCancel (E : Execution V I) (e : EngineId) (retention n : Nat) (t : TaskId)
    (f : FlowId) (r : ResourceId) : Prop where
  /-- The call returns, … -/
  returns : E.Fair → ∃ m outcome, n ≤ m ∧ E.Returns m t e f outcome
  /-- … and is told of the cancellation if, when it looks for the flow, fewer flows of the engine
      have ended after it than the engine keeps. Otherwise it is told that there is no such flow. -/
  told : ∀ m outcome, E.Returns m t e f outcome → n ≤ m ∧
    ∃ before after, E.ended e m = before ++ f :: after ∧
      outcome = if after.length < retention then .error (.cancelled f r) else .error (.notFound f)

end Execution

/-! ### The main result -/

/-- Whatever the engines, how many flows they keep, and in whatever order flows are started, events
    delivered and flows cancelled: if a flow that was started in step `k` ends cancelled in step
    `n`, before the task that started it has got hold of the lane, the caller is told so, unless
    the engine has forgotten the flow by the time the task looks for it. -/
theorem cancelled_start {engines : List (Definition V I × List (Handler V I) × Nat)}
    {d : Definition V I} {hs : List (Handler V I)} {retention : Nat} {E : Execution V I}
    (h₀ : E.world 0 = initial engines) {e : EngineId}
    (he : engines[e]? = some (d, hs, retention)) {k serial : Nat} {q : StartRequest V}
    (hl : E.label k = .start e serial q) (hfree : (E.world k).lane? q.resourceId = none) {n : Nat}
    (hrun : (E.world n).running? e (.opened serial) ≠ none)
    (hgone : (E.world (n + 1)).running? e (.opened serial) = none) {i : Instance V}
    (hi : E.Shows e (.opened serial) (n + 1) i) (hcancelled : i.status = .cancelled)
    {task : Task V I} (hk : (E.world (n + 1)).tasks[(E.world k).tasks.length]? = some task)
    {x : V.Event} (hb : task.work.Brings (.opened serial) x) :
    E.ToldOfCancel e retention (n + 1) (E.world k).tasks.length (.opened serial) q.resourceId := by
  -- The task is the one that opened the flow.
  have hstart := E.step k
  rw [hl] at hstart
  obtain ⟨eng, g, ho⟩ := openStep_of_free hstart hfree
  have hown : ∃ stage, task = ⟨e, .process (.started q.resourceId) (.opened serial) stage⟩ := by
    obtain ⟨ke, work⟩ := task
    have hw : ∃ o stage, work = .process o (.opened serial) stage := by
      cases hb <;> exact ⟨_, _, rfl⟩
    obtain ⟨o, stage, rfl⟩ := hw
    obtain ⟨m, y, -, hbegins, -⟩ := Execution.begun h₀ (P := fun _ _ => True) (fun _ => trivial)
      (fun _ _ _ _ => trivial) hk rfl rfl
    obtain ⟨rfl, rfl, -⟩ := hbegins.origin_eq (.opens hl ho rfl)
    exact ⟨stage, rfl⟩
  obtain ⟨stage, rfl⟩ := hown
  have hlater (j : Nat) (hj : n + 1 ≤ j) : (E.world j).running? e (.opened serial) = none := by
    obtain ⟨p, hp⟩ := Option.ne_none_iff_exists'.mp hrun
    have hop := opened_of_change (E.change n) ((Execution.orderly h₀ n).running_keyed hp).2
    exact (Execution.ended_stays h₀ he hop hgone hj).2
  refine ⟨fun hf => Execution.returns_missing hf h₀ he hlater hk hb, fun m outcome ht => ?_⟩
  · obtain ⟨hm, rfl⟩ := Execution.told_missing hlater hk hb ht
    have hended := hlater m hm
    obtain ⟨before, after, hsplit⟩ := List.append_of_mem
      (Execution.mem_ended h₀ hrun (Nat.le_of_succ_le hm) hended)
    refine ⟨hm, before, after, hsplit, ?_⟩
    have hkept := Execution.remembered_iff h₀ he hsplit
    cases hj : (E.world m).instance? e (.opened serial) with
    | none =>
      rw [if_neg fun hlt => ?_]
      · rfl
      · obtain ⟨s, hs⟩ := Option.isSome_iff_exists.mp (hkept.mpr hlt)
        obtain ⟨j, hj', -⟩ := get?_eq_some_iff.mp hs
        rw [hj] at hj'
        cases hj'
    | some j =>
      have hstatus := Execution.cancelled_of_kept h₀ hrun hgone hi hcancelled hm hj
      rw [if_pos (hkept.mp (Option.isSome_iff_exists.mpr ⟨_, get?_eq_some_iff.mpr ⟨j, hj, rfl⟩⟩))]
      show Origin.report _ _ (.error (.terminated _ j.status)) = _
      rw [hstatus]
      rfl

/-- Of two flows that are cancelled before their tasks have taken a step, the second one is still
    remembered when its task does: the caller is told of the cancellation. -/
theorem cancelled_start_second :
    (∃ m outcome, 8 ≤ m ∧ twoCancels.Returns m 1 0 (.opened 1) outcome) ∧
    twoCancels.ended 0 9 = [.opened 0, .opened 1] ∧
    ∀ outcome, twoCancels.Returns 9 1 0 (.opened 1) outcome →
      outcome = .error (.cancelled (.opened 1) 8) := by
  have hf : twoCancels.Fair := Execution.fair_ofFollow _ (fun _ => .error default) (by decide)
  have htold := cancelled_start (E := twoCancels)
    (show twoCancels.world 0 = initial (clearingEngines none) from rfl) (e := 0) rfl (k := 1) rfl
    rfl (n := 7) nofun rfl (.kept rfl) rfl rfl .arriving
  refine ⟨htold.returns hf, rfl, fun outcome ht => ?_⟩
  obtain ⟨-, before, after, hsplit, rfl⟩ := htold.told 9 outcome ht
  have hsplit : [.opened 0, .opened 1] = before ++ .opened 1 :: after := hsplit
  -- None has ended after it.
  rw [if_pos]
  rcases before with _ | ⟨g, before⟩
  · cases hsplit
  · have hlength := congrArg List.length hsplit
    simp only [List.length_cons, List.length_nil, List.cons_append, List.length_append] at hlength
    omega

/-- The first one is forgotten by then, since the engine keeps one: its caller is told that there is
    no such flow, although the flow was cancelled before its task had taken a step. -/
theorem cancelled_start_forgets :
    ∃ (E : Execution CascadingDelete.vocabulary Collaborators) (q : StartRequest _) (i : Instance _)
      (task : Task _ _) (x : CascadingDelete.vocabulary.Event),
    E.world 0 = initial [(clearing none, [], 1)] ∧ E.label 0 = .start 0 0 q ∧
    (E.world 0).lane? q.resourceId = none ∧ (E.world 4).running? 0 (.opened 0) ≠ none ∧
    (E.world 5).running? 0 (.opened 0) = none ∧
    (E.world 5).instance? 0 (.opened 0) = some i ∧ i.status = .cancelled ∧
    (E.world 5).tasks[0]? = some task ∧ task.work.Brings (.opened 0) x ∧
    E.Returns 8 0 0 (.opened 0) (.error (.notFound (.opened 0))) :=
  ⟨twoCancels, _, _, _, _, rfl, rfl, rfl, nofun, rfl, rfl, rfl, rfl, .arriving, _, _, rfl, rfl⟩

end World

end ResourceFlow
