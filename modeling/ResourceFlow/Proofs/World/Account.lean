import ResourceFlow.Proofs.Engine.Account
import ResourceFlow.Proofs.World.Marks
/-! # What is said over an execution

  `Execution.talk` is what the tasks that process events of one flow asked
  collaborators, and what they were told, in order.

  `World.Accounted` is the invariant of a flow whose definition has an
  `Account`: one task processes its events and stands where the account
  allows, after what was said so far. Every step keeps it, with what is said
  in the step added, or ends the flow (`World.Accounted.change`). So while the
  flow runs the talk is as the account has it, every call was allowed by what
  was said before it, and after its end nothing is said.
-/

namespace ResourceFlow

variable {V : Vocabulary} {I : Interface}

namespace World

variable {w w' : World V I} {e : EngineId} {f : FlowId}

/-! ### What is said in a step -/

/-- What the tasks of engine `e` that process events of flow `f` say in a step. -/
def said (w w' : World V I) (e : EngineId) (f : FlowId) : Label V I → Talk I
  | .run t reply =>
    match w.tasks[t]?, w'.tasks[t]? with
    | some k, some k' =>
      if k.engine = e ∧ k.work.flow? = some f then Work.said w.now reply k.work k'.work else []
    | _, _ => []
  | _ => []

/-- In a step of a task only that task says something. -/
theorem RunStep.said {t : TaskId} {reply : I.Reply} {task : Task V I} {eng : Engine V I}
    {d' : Desk V I} {work' : Work V I} (hr : RunStep w t reply w' task eng d' work') :
    w.said w' e f (.run t reply) =
      if task.engine = e ∧ task.work.flow? = some f then Work.said w.now reply task.work work'
      else [] := by
  unfold World.said
  dsimp only
  rw [hr.hasTask, hr.tasks, if_pos rfl]

/-- Only a task that has a flow in hand needs anything. -/
theorem need_eq_nothing (h : Orderly w) {t : TaskId} {k : Task V I} (hk : w.tasks[t]? = some k)
    (hf : k.work.flow? = some f) (hr : w.running? k.engine f = none) :
    k.work.need = .nothing := by
  have hin : k.work.inHand? = none := by
    rw [Option.eq_none_iff_forall_ne_some]
    intro x hx
    obtain ⟨hrun, hst⟩ := h.atWork t k x.1 x.2 hk hx
    -- What the task has in hand is the flow that it processes events of.
    obtain ⟨o, g, stage, hw, hst'⟩ := Work.stake?_of_inHand? (show _ = some (x.1, x.2) from hx)
    rw [hst] at hst'
    rw [hw] at hf
    cases hst'
    rw [Option.some.inj hf, hr] at hrun
    cases hrun
  cases hw : k.work with
  | process o g stage =>
    rw [hw] at hin
    cases stage with
    | handling | acting => cases hin
    | _ => rfl
  | _ => rfl

/-- Nothing is said of a flow that does not run. -/
theorem said_of_ended (h : Orderly w) (h' : Orderly w') {l : Label V I} (hc : Change w l w')
    (hr : w.running? e f = none) (hr' : w'.running? e f = none) : w.said w' e f l = [] := by
  cases hc with
  | @runs t reply _ task eng d' work' hrun =>
    rw [hrun.said]
    split
    · rename_i hown
      obtain ⟨rfl, hf⟩ := hown
      have hneed := need_eq_nothing h hrun.hasTask hf hr
      have hneed' := need_eq_nothing (k := { task with work := work' }) h'
        ((hrun.tasks t).trans (if_pos rfl)) (hrun.move.flow?_eq.trans hf) hr'
      rw [Work.said, hneed, hneed']
      rfl
    · rfl
  | _ => rfl

/-! ### The invariant -/

variable {d : Definition V I} {h : Dispatcher V I}

/-- The flow runs, and after what was said, task `t` and no other stands where its account
    allows. -/
structure Accounted (A : Account d h) (w : World V I) (e : EngineId) (f : FlowId) (t : TaskId)
    (o : Origin) (p : FlowParameters) (i : Instance V) (talk : Talk I)
    (stage : Processing V I) : Prop where
  /-- Lanes, flows and tasks fit together. -/
  orderly : Orderly w
  /-- The flow fits its account. -/
  fits : ∃ eng, w.engines[e]? = some eng ∧ A.Fits eng f i talk stage
  /-- Its parameters stay the same. -/
  params : i.params = p
  /-- The task processes its events. -/
  task : w.tasks[t]? = some ⟨e, .process o f stage⟩
  /-- No other task does. -/
  alone : ∀ (u : TaskId) (k : Task V I), w.tasks[u]? = some k → k.work.flow? = some f → u = t

namespace Accounted

variable {A : Account d h} {t : TaskId} {o : Origin} {p : FlowParameters} {i : Instance V}
  {talk : Talk I} {stage : Processing V I}

theorem hasInstance (ha : Accounted A w e f t o p i talk stage) : w.instance? e f = some i := by
  obtain ⟨eng, he, hf⟩ := ha.fits
  exact instance?_eq_some_iff.mpr ⟨eng, he, hf.hasInstance⟩

theorem running (ha : Accounted A w e f t o p i talk stage) : i.status = .running := by
  obtain ⟨eng, he, hf⟩ := ha.fits
  exact hf.running

theorem runs (ha : Accounted A w e f t o p i talk stage) : w.running? e f = some i.params :=
  running?_eq_some_iff.mpr ⟨i, ha.hasInstance, ha.running, rfl⟩

theorem stands (ha : Accounted A w e f t o p i talk stage) : A.Stands i talk stage := by
  obtain ⟨eng, he, hf⟩ := ha.fits
  exact hf.stands

theorem addTask (ha : Accounted A w e f t o p i talk stage) (e' : EngineId) {work : Work V I}
    (hf : work.flow? ≠ some f) (hs : work.stake? = none) (hi : work.inHand? = none) :
    Accounted A (w.addTask e' work) e f t o p i talk stage where
  orderly := ha.orderly.addTask e' hs hi
  fits := ha.fits
  params := ha.params
  task := tasks_addTask.mpr (.inl ha.task)
  alone u k hk hkf := by
    rcases tasks_addTask.mp hk with hk | ⟨-, rfl⟩
    · exact ha.alone u k hk hkf
    · exact absurd hkf hf

/-- Whoever leaves the flow's instance and its task alone keeps it accounted. -/
theorem keep (ha : Accounted A w e f t o p i talk stage) {l : Label V I} (hc : Change w l w')
    (hi : w'.instance? e f = w.instance? e f) (ht : w'.tasks[t]? = w.tasks[t]?)
    (halone : ∀ (u : TaskId) (k : Task V I), w'.tasks[u]? = some k → k.work.flow? = some f →
      u = t) : Accounted A w' e f t o p i talk stage := by
  obtain ⟨eng, he, hf⟩ := ha.fits
  obtain ⟨eng', he', hi'⟩ := instance?_eq_some_iff.mp (hi.trans ha.hasInstance)
  obtain ⟨eng₀, he₀, hd, hh⟩ := engine_of_change hc he'
  obtain rfl := Option.some.inj (he₀.symm.trans he)
  exact ⟨ha.orderly.change hc, ⟨eng', he', hd.trans hf.definition, hh.trans hf.dispatcher, hi',
    hf.keyed, hf.running, hf.stands⟩, ha.params, ht.trans ha.task, halone⟩

section Run

variable {u : TaskId} {reply : I.Reply} {k : Task V I} {eng : Engine V I} {d' : Desk V I}
  {work' : Work V I}

/-- No other task processes events of the flow after a step. -/
theorem alone_run (ha : Accounted A w e f t o p i talk stage)
    (hr : RunStep w u reply w' k eng d' work') {v : TaskId} {j : Task V I}
    (hj : w'.tasks[v]? = some j) (hjf : j.work.flow? = some f) : v = t := by
  rw [hr.tasks] at hj
  split at hj
  · rename_i hv
    cases hj
    have hf : work'.flow? = some f := hjf
    rw [hr.move.flow?_eq] at hf
    rw [hv]
    exact ha.alone u k hr.hasTask hf
  · exact ha.alone v j hj hjf

/-- A step of the flow's task ends the flow, or takes it further, with what was said added; what was
    asked was allowed. -/
theorem run_self (ha : Accounted A w e f t o p i talk stage)
    (hseen : ∀ r, w.registry.isCancelled r = true → A.seen r)
    (hr : RunStep w t reply w' k eng d' work') :
    (w'.running? e f = none ∧ w.said w' e f (.run t reply) = []) ∨ ∃ i' stage',
      Accounted A w' e f t o p i' (talk ++ w.said w' e f (.run t reply)) stage' ∧
      ∀ before c q after, w.said w' e f (.run t reply) = before ++ .asked c q :: after →
        A.allows i' (talk ++ before) q := by
  have hk : k = ⟨e, .process o f stage⟩ := Option.some.inj (hr.hasTask.symm.trans ha.task)
  subst hk
  obtain ⟨eng', he, hf⟩ := ha.fits
  obtain rfl : eng = eng' := Option.some.inj (hr.hasEngine.symm.trans he)
  have hlane : w.registry.lanes.holds i.params.resourceId f = true :=
    Lanes.holds_iff.mpr (ha.orderly.occupies e f i.params ha.runs)
  rw [hr.said, if_pos ⟨rfl, rfl⟩]
  rcases Account.Fits.step (D := ⟨w.registry, eng⟩) hf hlane hseen hr.move with ⟨s, hs⟩ | hcont
  · left
    have hgone : w'.running? e f = none := by
      -- The step leaves the instance finished, or none.
      rw [Option.eq_none_iff_forall_ne_some]
      intro q hq
      obtain ⟨j, hj, hrun, -⟩ := running?_eq_some_iff.mp hq
      rw [hr.instance?, if_pos rfl] at hj
      rcases (hs.ended hf.keyed hf.hasInstance hf.running hr.move).1 with hfin | ⟨-, hnone⟩
      · obtain rfl := Option.some.inj (hj.symm.trans hfin)
        rw [Instance.status_finish_of_running hf.running] at hrun
        exact hs.status_ne hrun
      · rw [hnone] at hj
        cases hj
    have hneed := need_eq_nothing (k := ⟨e, work'⟩) (ha.orderly.run hr)
      ((hr.tasks t).trans (if_pos rfl)) hr.move.flow?_eq hgone
    refine ⟨hgone, ?_⟩
    rw [Work.said, hs.need_eq, hneed]
    rfl
  · obtain ⟨i', stage', hw, hpar, hfit, hallow⟩ := hcont
    refine .inr ⟨i', stage', ⟨ha.orderly.run hr, ?_, hpar.trans ha.params, ?_, ?_⟩, ?_⟩
    · exact ⟨d'.engine, by rw [hr.engines, if_pos rfl], hfit⟩
    · rw [hr.tasks, if_pos rfl, hw]
    · exact fun v j => ha.alone_run hr
    · intro before c q after hsaid
      obtain ⟨rfl, -, -, hneed⟩ := Work.told_of_asked hsaid
      exact hallow q hneed

/-- A step of another task leaves the flow where it is, unless it ends it, and says nothing. -/
theorem run_other (ha : Accounted A w e f t o p i talk stage)
    (hr : RunStep w u reply w' k eng d' work') (hu : u ≠ t) :
    w.said w' e f (.run u reply) = [] ∧
      (w'.running? e f = none ∨ Accounted A w' e f t o p i talk stage) := by
  constructor
  · rw [hr.said, if_neg]
    exact fun hown => hu (ha.alone u k hr.hasTask hown.2)
  · have hkeep := ha.keep (.runs hr)
    have ht : w'.tasks[t]? = w.tasks[t]? := by rw [hr.tasks, if_neg (Ne.symm hu)]
    cases ha.orderly.bearing hr e f with
    | aside _ hsame => exact .inr (hkeep hsame ht fun v j => ha.alone_run hr)
    | forgets _ hi hend =>
      obtain rfl := Option.some.inj (hi.symm.trans ha.hasInstance)
      exact absurd ha.running hend
    | cancels _ _ hi hrun hi' =>
      left
      rw [Option.eq_none_iff_forall_ne_some]
      intro q hq
      obtain ⟨j, hj, hjr, -⟩ := running?_eq_some_iff.mp hq
      rcases hi' with hi' | ⟨-, hi'⟩
      · obtain rfl := Option.some.inj (hj.symm.trans hi')
        rw [Instance.status_finish_of_running hrun] at hjr
        cases hjr
      · rw [hi'] at hj
        cases hj
    | own _ hkey hin _ _ =>
      -- The task that has the flow in hand processes its events.
      obtain ⟨o', g, stage', hw, hst⟩ := Work.stake?_of_inHand? hin
      rw [(ha.orderly.atWork u k _ _ hr.hasTask hin).2] at hst
      cases hst
      exact absurd (ha.alone u k hr.hasTask (by rw [hw, ← hkey]; rfl)) hu

end Run

/-- Every step ends the flow or keeps it accounted, with what was said added, if no event is
    delivered to it; what was asked was allowed. -/
theorem change (ha : Accounted A w e f t o p i talk stage) {l : Label V I} (hc : Change w l w')
    (hseen : ∀ r, w.registry.isCancelled r = true → A.seen r)
    (hno : ∀ e' event, l ≠ .dispatch e' f event) :
    (w'.running? e f = none ∧ w.said w' e f l = []) ∨ ∃ i' stage',
      Accounted A w' e f t o p i' (talk ++ w.said w' e f l) stage' ∧
      ∀ before c q after, w.said w' e f l = before ++ .asked c q :: after →
        A.allows i' (talk ++ before) q := by
  -- Where nothing is said, there is nothing to allow.
  have hstay : w.said w' e f l = [] → Accounted A w' e f t o p i talk stage → ∃ i' stage',
      Accounted A w' e f t o p i' (talk ++ w.said w' e f l) stage' ∧
      ∀ before c q after, w.said w' e f l = before ++ .asked c q :: after →
        A.allows i' (talk ++ before) q := by
    intro hsaid ha'
    rw [hsaid, List.append_nil]
    exact ⟨i, stage, ha', fun before c q after h => by cases before <;> cases h⟩
  cases hc with
  | opens ho =>
    have hop := (ha.orderly.running_keyed ha.runs).2
    have hne := ho.ne_of_opened hop
    refine .inr (hstay rfl (ha.keep (.opens ho) ?_ ?_ ?_))
    · rw [ho.instance?, if_neg fun hcon => hne hcon.2]
    · rw [ha.task]
      exact ho.tasks.mpr (.inl ha.task)
    · intro u k hk hkf
      rcases ho.tasks.mp hk with hk | ⟨-, rfl⟩
      · exact ha.alone u k hk hkf
      · exact absurd (Option.some.inj hkf).symm hne
  | refuses _ => exact .inr (hstay rfl (ha.addTask _ nofun rfl rfl))
  | @delivers e' g event =>
    refine .inr (hstay rfl (ha.addTask _ ?_ rfl rfl))
    intro hg
    cases hg
    exact hno e' event rfl
  | cancels => exact .inr (hstay rfl (ha.addTask _ nofun rfl rfl))
  | elapses =>
    exact .inr (hstay rfl ⟨ha.orderly.change .elapses, ha.fits, ha.params, ha.task, ha.alone⟩)
  | @runs u reply _ k eng d' work' hr =>
    by_cases hu : u = t
    · subst hu
      exact ha.run_self hseen hr
    · obtain ⟨hsaid, hrest⟩ := ha.run_other hr hu
      exact hrest.imp (fun hgone => ⟨hgone, hsaid⟩) (hstay hsaid)

/-- As long as no cancel of it is recorded, a flow does not end cancelled, unless its account lets
    it see its resource cancelled. -/
theorem not_cancelled (ha : Accounted A w e f t o p i talk stage) {r : ResourceId}
    (hu : Unmarked w r f) (hseen : ∀ r, w.registry.isCancelled r = true → A.seen r)
    (hr : ¬ A.seen r) {l : Label V I} {s : FlowStatus} (hend : w.Ending l f i s) :
    s ≠ .cancelled := by
  rintro rfl
  obtain ⟨u, reply, k, eng, -, hk, he, hd⟩ := hend
  cases hw : k.work with
  | cancel r' stage' =>
    rw [hw] at hd
    cases hd
    exact hu.calm u k _ _ hk hw
  | refused err =>
    rw [hw] at hd
    cases hd
  | process o' g stage' =>
    -- The task is the flow's own.
    have hg : g = f := by
      rw [hw] at hd
      generalize FlowStatus.cancelled = s at hd
      cases hd <;> rfl
    subst hg
    have hut := ha.alone u k hk (by rw [hw]; rfl)
    rw [hut, ha.task] at hk
    obtain rfl := Option.some.inj hk
    cases hw
    obtain ⟨eng', he', hf⟩ := ha.fits
    obtain rfl := Option.some.inj (he'.symm.trans he)
    have hres := (hu.mark e _ ha.runs).1
    exact hr (hres ▸ Account.Fits.seen_of_ending (D := ⟨w.registry, eng'⟩) hf hseen hd)

end Accounted

/-- A flow that was just opened is accounted for, if its start event may be at hand. -/
theorem OpenStep.accounted {serial : Nat} {q : StartRequest V} {eng : Engine V I} {g : Registry}
    (ho : OpenStep w e serial q w' eng g) (hw : Orderly w) (hh : Heard w (.opened serial))
    (A : Account d h) (hd : eng.definition = d) (hdisp : eng.dispatcher = h)
    (hready : A.ready (.new (q.params (.opened serial) d.flowType) d.initial) (q.event d.start)
      []) :
    Accounted A w' e (.opened serial) w.tasks.length (.started q.resourceId)
      (q.params (.opened serial) d.flowType)
      (.new (q.params (.opened serial) d.flowType) d.initial) []
      (.arriving (q.event d.start)) := by
  subst hd hdisp
  refine ⟨hw.opens ho, ?_, rfl, ho.tasks.mpr (.inr ⟨rfl, rfl⟩), ?_⟩
  · refine ⟨_, (ho.engines e).trans (if_pos rfl), rfl, rfl, ?_, rfl, rfl, hready⟩
    rw [Engine.instance?_add]
    exact if_pos rfl
  · intro u k hk hf
    rcases ho.tasks.mp hk with hk | ⟨hu, -⟩
    · -- Nobody has heard of the flow before.
      exact absurd rfl (ho.ne_of_opened (hh u k hk hf))
    · exact hu

/-! ### Over an execution -/

namespace Execution

variable {E : Execution V I}

/-- What the tasks of engine `e` that process events of flow `f` said in the first steps. -/
def talk (E : Execution V I) (e : EngineId) (f : FlowId) : Nat → Talk I
  | 0 => []
  | n + 1 => E.talk e f n ++ (E.world n).said (E.world (n + 1)) e f (E.label n)

/-- A line was said in some step, after what was said before it. -/
theorem step_of_talk {n : Nat} {before after : Talk I} {x : Entry I}
    (h : E.talk e f n = before ++ x :: after) : ∃ m a b, m < n ∧ before = E.talk e f m ++ a ∧
      (E.world m).said (E.world (m + 1)) e f (E.label m) = a ++ x :: b := by
  induction n generalizing after with
  | zero => cases before <;> cases h
  | succ n ih =>
    unfold talk at h
    rcases List.append_eq_append_iff.mp h with ⟨a, hb, hsaid⟩ | ⟨c, hn, hrest⟩
    · exact ⟨n, a, after, Nat.lt_succ_self n, hb, hsaid⟩
    · cases c with
      | nil =>
        rw [List.append_nil] at hn
        exact ⟨n, [], after, Nat.lt_succ_self n, by rw [hn, List.append_nil], hrest.symm⟩
      | cons y rest =>
        obtain ⟨rfl, -⟩ := List.cons.inj hrest
        obtain ⟨m, a, b, hm, hb, hsaid⟩ := ih hn
        exact ⟨m, a, b, Nat.lt_succ_of_lt hm, hb, hsaid⟩

section Start

variable {engines : List (Definition V I × List (Handler V I) × Nat)}
  {hs : List (Handler V I)} {retention : Nat} {n₀ serial : Nat} {q : StartRequest V}

/-- Before its first step is taken, nothing is said of a flow. -/
theorem talk_of_start (h₀ : E.world 0 = initial engines) (hl : E.label n₀ = .start e serial q)
    (hfree : (E.world n₀).lane? q.resourceId = none)
    (hno : ∀ n e' event, E.label n ≠ .dispatch e' (.opened serial) event) {n : Nat}
    (hn : n ≤ n₀ + 1) (e' : EngineId) : E.talk e' (.opened serial) n = [] := by
  induction n with
  | zero => rfl
  | succ n ih =>
    rw [talk, ih (Nat.le_of_succ_le hn), List.nil_append]
    have hunheard := @unheard_before_start V I E engines e n₀ serial q h₀ hl hfree hno n
      (Nat.le_of_succ_le_succ hn)
    cases hlab : E.label n with
    | run t reply =>
      unfold said
      dsimp only
      split
      · rename_i hk _
        rw [if_neg fun hown => hunheard hk hown.2]
      · rfl
    | _ => rfl

/-- After it was started on a free lane, a flow is accounted for, and nothing was said. -/
theorem accounted_of_start (h₀ : E.world 0 = initial engines)
    (he : engines[e]? = some (d, hs, retention)) (A : Account d (.ofList hs))
    (hready : A.ready (.new (q.params (.opened serial) d.flowType) d.initial) (q.event d.start) [])
    (hl : E.label n₀ = .start e serial q) (hfree : (E.world n₀).lane? q.resourceId = none)
    (hno : ∀ n e' event, E.label n ≠ .dispatch e' (.opened serial) event) :
    ∃ t o i stage, Accounted A (E.world (n₀ + 1)) e (.opened serial) t o
      (q.params (.opened serial) d.flowType) i (E.talk e (.opened serial) (n₀ + 1)) stage := by
  have hstep := E.step n₀
  rw [hl] at hstep
  obtain ⟨eng, g, ho⟩ := openStep_of_free hstep hfree
  obtain ⟨hd, hh⟩ := engine_of_reachable (h₀ ▸ E.reachable n₀) he ho.hasEngine
  rw [talk_of_start h₀ hl hfree hno (Nat.le_refl _)]
  exact ⟨_, _, _, _, ho.accounted (orderly h₀ n₀) (heard h₀ hno n₀) A hd hh hready⟩

end Start

/-! While it runs, a flow that is accounted for stays so. -/

section Along

variable {engines : List (Definition V I × List (Handler V I) × Nat)} {hs : List (Handler V I)}
  {retention : Nat} {A : Account d (.ofList hs)} {t : TaskId} {o : Origin} {p : FlowParameters}
  {i : Instance V} {stage : Processing V I} {n m : Nat}

/-- A flow that is accounted for is so at every later step, or has ended. -/
theorem accounted_or_ended (h₀ : E.world 0 = initial engines)
    (he : engines[e]? = some (d, hs, retention))
    (hno : ∀ n e' event, E.label n ≠ .dispatch e' f event)
    (hseen : ∀ n r, (E.world n).running? e f ≠ none →
      (E.world n).registry.isCancelled r = true → A.seen r)
    (ha : Accounted A (E.world n) e f t o p i (E.talk e f n) stage) (hm : n ≤ m) :
    (∃ i' stage', Accounted A (E.world m) e f t o p i' (E.talk e f m) stage') ∨
      ((E.world m).Opened f ∧ (E.world m).running? e f = none) := by
  induction hm with
  | refl => exact .inl ⟨i, stage, ha⟩
  | @step m _ ih =>
    rcases ih with ⟨i', stage', ha'⟩ | ⟨hop, hend⟩
    · have hrun : (E.world m).running? e f ≠ none := by
        rw [ha'.runs]
        exact nofun
      rcases ha'.change (E.change m) (fun r => hseen m r hrun) (hno m) with
        ⟨hend, -⟩ | ⟨i'', stage'', ha'', -⟩
      · have hop := (ha'.orderly.running_keyed ha'.runs).2
        exact .inr ⟨opened_of_change (E.change m) hop, hend⟩
      · exact .inl ⟨i'', stage'', ha''⟩
    · exact .inr (ended_stays h₀ he hop hend (Nat.le_succ m))

/-- Every call of a flow that is accounted for was allowed, after what was said before it, to its
    instance at that time. -/
theorem allowed_of_said (h₀ : E.world 0 = initial engines)
    (he : engines[e]? = some (d, hs, retention))
    (hno : ∀ n e' event, E.label n ≠ .dispatch e' f event)
    (hseen : ∀ n r, (E.world n).running? e f ≠ none →
      (E.world n).registry.isCancelled r = true → A.seen r)
    (ha : Accounted A (E.world n) e f t o p i (E.talk e f n) stage) (hm : n ≤ m)
    {before after : Talk I} {c : Duration} {q : I.Call}
    (hsaid : (E.world m).said (E.world (m + 1)) e f (E.label m) = before ++ .asked c q :: after) :
    ∃ i', (E.world (m + 1)).instance? e f = some i' ∧ i'.status = .running ∧ i'.params = p ∧
      A.allows i' (E.talk e f m ++ before) q := by
  -- Something is said, so the flow runs and goes on to run.
  have hne : (E.world m).said (E.world (m + 1)) e f (E.label m) ≠ [] := by
    rw [hsaid]
    cases before <;> exact nofun
  rcases accounted_or_ended h₀ he hno hseen ha hm with ⟨i', stage', ha'⟩ | ⟨hop, hend⟩
  · have hrun : (E.world m).running? e f ≠ none := by
      rw [ha'.runs]
      exact nofun
    rcases ha'.change (E.change m) (fun r => hseen m r hrun) (hno m) with
      ⟨-, hsilent⟩ | ⟨i'', stage'', ha'', hallow⟩
    · exact absurd hsilent hne
    · exact ⟨i'', ha''.hasInstance, ha''.running, ha''.params, hallow _ _ _ _ hsaid⟩
  · have hend' := (ended_stays h₀ he hop hend (Nat.le_succ m)).2
    exact absurd (said_of_ended (poised h₀ m).orderly (poised h₀ (m + 1)).orderly (E.change m) hend
      hend') hne

section Started

variable {n₀ serial : Nat} {q : StartRequest V} (h₀ : E.world 0 = initial engines)
  (he : engines[e]? = some (d, hs, retention))
  (hready : A.ready (.new (q.params (.opened serial) d.flowType) d.initial) (q.event d.start) [])
  (hl : E.label n₀ = .start e serial q) (hfree : (E.world n₀).lane? q.resourceId = none)
  (hno : ∀ n e' event, E.label n ≠ .dispatch e' (.opened serial) event)
  (hseen : ∀ n r, (E.world n).running? e (.opened serial) ≠ none →
    (E.world n).registry.isCancelled r = true → A.seen r)
include h₀ he hready hl hfree hno hseen

/-- As long as it runs, a flow that was started on a free lane is accounted for. -/
theorem accounted_of_running (hn : n₀ < n)
    (hi : (E.world n).instance? e (.opened serial) = some i) (hr : i.status = .running) :
    ∃ t o stage, Accounted A (E.world n) e (.opened serial) t o
      (q.params (.opened serial) d.flowType) i (E.talk e (.opened serial) n) stage := by
  obtain ⟨t, o, i₀, stage₀, ha₀⟩ := accounted_of_start h₀ he A hready hl hfree hno
  rcases accounted_or_ended h₀ he hno hseen ha₀ hn with ⟨i', stage, ha⟩ | ⟨-, hend⟩
  · obtain rfl := Option.some.inj (ha.hasInstance.symm.trans hi)
    exact ⟨t, o, stage, ha⟩
  · rw [running?_eq_some_iff.mpr ⟨i, hi, hr, rfl⟩] at hend
    cases hend

/-- Every call of a flow that was started on a free lane was allowed in the step in which it was
    made. -/
theorem allowed_of_step {before after : Talk I} {c : Duration} {call : I.Call}
    (hsaid : (E.world m).said (E.world (m + 1)) e (.opened serial) (E.label m) =
      before ++ .asked c call :: after) :
    ∃ i', n₀ < m ∧ (E.world (m + 1)).instance? e (.opened serial) = some i' ∧
      i'.status = .running ∧ i'.params = q.params (.opened serial) d.flowType ∧
      A.allows i' (E.talk e (.opened serial) m ++ before) call := by
  obtain ⟨t, o, i, stage, ha⟩ := accounted_of_start h₀ he A hready hl hfree hno
  rcases Nat.lt_or_ge n₀ m with hlt | hge
  · obtain ⟨i', hi', hrun, hpar, hallow⟩ := allowed_of_said h₀ he hno hseen ha hlt hsaid
    exact ⟨i', hlt, hi', hrun, hpar, hallow⟩
  · -- Nothing is said before the flow takes its first step.
    have hnil := talk_of_start h₀ hl hfree hno (Nat.succ_le_succ hge) e
    rw [talk, hsaid] at hnil
    simp at hnil

/-- Every call of a flow that was started on a free lane was allowed, after what was said before it,
    to its instance at that time. -/
theorem allowed_of_talk {before after : Talk I} {c : Duration} {call : I.Call}
    (hsaid : E.talk e (.opened serial) m = before ++ .asked c call :: after) :
    ∃ n i', n₀ < n ∧ (E.world n).instance? e (.opened serial) = some i' ∧ i'.status = .running ∧
      i'.params = q.params (.opened serial) d.flowType ∧ A.allows i' before call := by
  obtain ⟨n, a, b, -, rfl, hstep⟩ := step_of_talk hsaid
  obtain ⟨i', hn, hi', hrun, hpar, hallow⟩ :=
    allowed_of_step h₀ he hready hl hfree hno hseen hstep
  exact ⟨n + 1, i', Nat.lt_succ_of_lt hn, hi', hrun, hpar, hallow⟩

end Started

/-- A flow that was started on a free lane and of which no cancel is recorded does not end
    cancelled, if it has an account in which its resource is not seen to be cancelled. -/
theorem not_cancelled_of_start {n₀ serial : Nat} {q : StartRequest V} {s : FlowStatus}
    (h₀ : E.world 0 = initial engines) (he : engines[e]? = some (d, hs, retention))
    (hready : A.ready (.new (q.params (.opened serial) d.flowType) d.initial) (q.event d.start)
      [])
    (hl : E.label n₀ = .start e serial q) (hfree : (E.world n₀).lane? q.resourceId = none)
    (hno : ∀ n e' event, E.label n ≠ .dispatch e' (.opened serial) event)
    (hcalm : ∀ n, ¬ CancelRecorded (E.world n) (E.world (n + 1)) q.resourceId (.opened serial))
    (hseen : ∀ r, A.seen r ↔ r ≠ q.resourceId) (hn : n₀ < n)
    (hi : (E.world n).instance? e (.opened serial) = some i) (hr : i.status = .running)
    (hend : (E.world n).Ending (E.label n) (.opened serial) i s) : s ≠ .cancelled := by
  have hsees : ∀ n r, (E.world n).running? e (.opened serial) ≠ none →
      (E.world n).registry.isCancelled r = true → A.seen r := by
    intro m r hrun hcan
    rw [hseen]
    rintro rfl
    rw [isCancelled_of_start h₀ hl hfree hcalm hrun] at hcan
    cases hcan
  obtain ⟨t, o, stage, ha⟩ :=
    accounted_of_running h₀ he hready hl hfree hno hsees hn hi hr
  have hmark := unmarked_of_start h₀ hl hfree (fun m _ => hcalm m) hn
  refine ha.not_cancelled hmark (fun r => hsees n r ?_) (fun h => (hseen _).mp h rfl) hend
  rw [ha.runs]
  exact nofun

/-- When a flow has ended, nothing more is said. -/
theorem talk_of_ended (h₀ : E.world 0 = initial engines)
    (he : engines[e]? = some (d, hs, retention)) (hop : (E.world n).Opened f)
    (hr : (E.world n).running? e f = none) (hm : n ≤ m) : E.talk e f m = E.talk e f n := by
  induction hm with
  | refl => rfl
  | @step m hm ih =>
    have hend := (ended_stays h₀ he hop hr hm).2
    have hend' := (ended_stays h₀ he hop hr (Nat.le_succ_of_le hm)).2
    rw [talk, said_of_ended (poised h₀ m).orderly (poised h₀ (m + 1)).orderly (E.change m) hend
      hend', List.append_nil, ih]

/-- The step that ends a flow is silent, so all was said before it. -/
theorem talk_of_ends (h₀ : E.world 0 = initial engines)
    (he : engines[e]? = some (d, hs, retention))
    (hno : ∀ n e' event, E.label n ≠ .dispatch e' f event)
    (hseen : ∀ n r, (E.world n).running? e f ≠ none →
      (E.world n).registry.isCancelled r = true → A.seen r)
    (ha : Accounted A (E.world n) e f t o p i (E.talk e f n) stage)
    (hend : (E.world (n + 1)).running? e f = none) (hm : n ≤ m) :
    E.talk e f m = E.talk e f n := by
  have hrun : (E.world n).running? e f ≠ none := by
    rw [ha.runs]
    exact nofun
  have hop := (ha.orderly.running_keyed ha.runs).2
  rcases ha.change (E.change n) (fun r => hseen n r hrun) (hno n) with
    ⟨-, hsilent⟩ | ⟨i', stage', ha', -⟩
  · rcases Nat.eq_or_lt_of_le hm with rfl | hlt
    · rfl
    · rw [talk_of_ended h₀ he (opened_of_change (E.change n) hop) hend hlt, talk, hsilent,
        List.append_nil]
  · rw [ha'.runs] at hend
    cases hend

end Along

/-- What was said later was said in later steps. -/
theorem talk_grows {n m : Nat} (hm : n ≤ m) :
    ∃ later, E.talk e f m = E.talk e f n ++ later := by
  induction hm with
  | refl => exact ⟨[], (List.append_nil _).symm⟩
  | step _ ih =>
    obtain ⟨later, hlater⟩ := ih
    exact ⟨later ++ _, by rw [talk, hlater, List.append_assoc]⟩

/-- A line that comes after what was said until some step was said in that step or later. -/
theorem later_step_of_talk {n m : Nat} {before after : Talk I} {x : Entry I}
    (h : E.talk e f n = E.talk e f m ++ before ++ x :: after) : ∃ k a b, m ≤ k ∧
      E.talk e f m ++ before = E.talk e f k ++ a ∧
      (E.world k).said (E.world (k + 1)) e f (E.label k) = a ++ x :: b := by
  obtain ⟨k, a, b, -, hbefore, hsaid⟩ := step_of_talk h
  refine ⟨k, a, b, ?_, hbefore, hsaid⟩
  rcases Nat.lt_or_ge k m with hlt | hge
  · -- Otherwise it would be part of what was said until that step.
    obtain ⟨later, hlater⟩ := talk_grows (E := E) (e := e) (f := f) (Nat.succ_le_of_lt hlt)
    rw [talk, hsaid] at hlater
    rw [hlater] at hbefore
    have hlength := congrArg List.length hbefore
    simp only [List.length_append, List.length_cons] at hlength
    omega
  · exact hge

/-- What a flow calls after a cancel of it was recorded, it was allowed to call in the state in
    which it was then. -/
theorem allowed_after_record {engines : List (Definition V I × List (Handler V I) × Nat)}
    {hs : List (Handler V I)} {retention n₀ serial : Nat} {q : StartRequest V}
    {A : Account d (.ofList hs)} (h₀ : E.world 0 = initial engines)
    (he : engines[e]? = some (d, hs, retention))
    (hready : A.ready (.new (q.params (.opened serial) d.flowType) d.initial) (q.event d.start)
      [])
    (hl : E.label n₀ = .start e serial q) (hfree : (E.world n₀).lane? q.resourceId = none)
    (hno : ∀ n e' event, E.label n ≠ .dispatch e' (.opened serial) event)
    (hseen : ∀ n r, (E.world n).running? e (.opened serial) ≠ none →
      (E.world n).registry.isCancelled r = true → A.seen r) {m : Nat} {r : ResourceId}
    (hrec : CancelRecorded (E.world m) (E.world (m + 1)) r (.opened serial)) :
    ∃ i, (E.world m).instance? e (.opened serial) = some i ∧
      ∀ n before c call after,
        E.talk e (.opened serial) n =
          E.talk e (.opened serial) m ++ before ++ .asked c call :: after →
        ∃ j, j.state = i.state ∧ A.allows j (E.talk e (.opened serial) m ++ before) call := by
  obtain ⟨t, o, i₀, stage, hacc⟩ := accounted_of_start h₀ he _ hready hl hfree hno
  -- The flow runs at the engine at which it was started.
  obtain ⟨-, -, -, -, -, lane, -, hlane, hf, -⟩ := hrec.runStep (E.change m)
  obtain ⟨e', p, hp, -⟩ := (poised h₀ m).orderly.occupant r lane hlane
  obtain ⟨i, hi, -, -⟩ := running?_eq_some_iff.mp (hf ▸ hp)
  obtain rfl := instance?_single h₀ hacc.hasInstance hi
  refine ⟨i, hi, ?_⟩
  intro n before c call after htalk
  obtain ⟨k, a, b, hk, hbefore, hsaid⟩ := later_step_of_talk htalk
  obtain ⟨j, -, hj, -, -, ha⟩ := allowed_of_step h₀ he hready hl hfree hno hseen hsaid
  rw [hbefore]
  exact ⟨j, state_of_recorded h₀ he hrec hi (Nat.lt_succ_of_le hk) (.kept hj), ha⟩

end Execution

end World

end ResourceFlow
