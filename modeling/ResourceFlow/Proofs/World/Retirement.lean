import ResourceFlow.Proofs.World.CancelAnswers
/-! # What an engine keeps is exact

  At every moment an engine keeps the flows that run and, of those that have
  ended, the last ones, as many as its retention says: nothing else, and none
  of them is missing. The main result is `World.retention_exact`.

  A flow is retired in the step in which it ends, and only then. Of a queue
  that is full it cannot be told whether a flow went through it once, or twice,
  or not at all. So `World.retired_roomy` looks at the step where there is room:
  exactly the flow that ends comes to the end of the queue, once.
-/

namespace ResourceFlow

variable {V : Vocabulary} {I : Interface}

/-- Which flow a step ends does not depend on how many the engine keeps. -/
theorem Desk.stops?_roomy (g : Registry) (e : Engine V I) (w : Work V I) :
    (⟨g, e.roomy⟩ : Desk V I).stops? w = (⟨g, e⟩ : Desk V I).stops? w := rfl

/-- A flow that is retired where there is room comes to the end of the queue. -/
theorem Engine.retired_retire_roomy (e : Engine V I) (f : FlowId) :
    (e.roomy.retire f).retired = e.retired ++ [f] := by
  show (e.retired ++ [f]).drop ((e.retired ++ [f]).length - (e.retired.length + 1)) = _
  rw [List.length_append, List.length_singleton, Nat.sub_self, List.drop_zero]

namespace World

variable {w w' w₁ : World V I} {l : Label V I} {e : EngineId} {f : FlowId}

/-! ### Where there is room -/

/-- An engine that there is can be asked for a new flow any time. -/
theorem start_isSome_iff {serial : Nat} {q : StartRequest V} :
    (w.start e serial q).isSome = true ↔
      (w.engines[e]?).isSome = true ∧ w.nextFlow ≤ serial := by
  unfold start desk?
  cases w.engines[e]? with
  | none => simp
  | some eng =>
    by_cases hserial : serial < w.nextFlow
    · simp [hserial]
    · simp only [Option.map_some, Option.bind_eq_bind, Option.bind_some, if_neg hserial,
        Option.isSome_some, true_and]
      refine ⟨fun _ => Nat.le_of_not_lt hserial, fun _ => ?_⟩
      split <;> rfl

/-- Every step can be taken where there is room, too. -/
theorem step_roomy (hs : w.step l = some w') : ∃ w₁, w.roomy.step l = some w₁ := by
  cases l with
  | start e serial q =>
    obtain ⟨he, hserial⟩ := start_isSome_iff.mp (Option.isSome_iff_exists.mpr ⟨w', hs⟩)
    obtain ⟨eng, he⟩ := Option.isSome_iff_exists.mp he
    refine Option.isSome_iff_exists.mp (start_isSome_iff.mpr ⟨?_, hserial⟩)
    rw [engine_roomy he]
    rfl
  | run t reply => exact run_roomy hs
  | _ => exact ⟨_, rfl⟩

/-- Where there is room, exactly the flow that ends in a step comes to the end of the queue. -/
theorem retired_roomy (h : Orderly w) (hs : w.step l = some w') (hs₁ : w.roomy.step l = some w₁)
    {eng eng₁ : Engine V I} (he : w.engines[e]? = some eng) (he₁ : w₁.engines[e]? = some eng₁) :
    eng₁.retired = eng.retired ++ (w.ended? w' e l).toList := by
  have hsame (he₁ : w.roomy.engines[e]? = some eng₁) (hno : w.ended? w' e l = none) :
      eng₁.retired = eng.retired ++ (w.ended? w' e l).toList := by
    rw [engine_roomy he] at he₁
    obtain rfl := Option.some.inj he₁
    rw [hno]
    exact (List.append_nil _).symm
  have hc₁ := change_of_step hs₁
  cases hc₁ with
  | refuses | delivers | cancels | elapses => exact hsame he₁ rfl
  | @opens e₁ serial q _ eng₀ g ho =>
    by_cases hee : e = e₁
    · subst hee
      rw [ho.engines, if_pos rfl] at he₁
      obtain rfl := Option.some.inj he₁
      obtain rfl := Option.some.inj ((engine_roomy he).symm.trans ho.hasEngine)
      exact (List.append_nil _).symm
    · rw [ho.engines, if_neg hee] at he₁
      exact hsame he₁ rfl
  | @runs t reply _ task₁ eng₀ d₁ work₁ hr₁ =>
    have hc := change_of_step hs
    cases hc with
    | @runs _ _ _ task eng' d' work' hr =>
      obtain rfl : task = task₁ := Option.some.inj (hr.hasTask.symm.trans hr₁.hasTask)
      have hended := hr.ended? h e
      by_cases hee : e = task.engine
      · subst hee
        obtain rfl := Option.some.inj (hr.hasEngine.symm.trans he)
        obtain rfl := Option.some.inj ((engine_roomy he).symm.trans hr₁.hasEngine)
        rw [hr₁.engines, if_pos rfl] at he₁
        obtain rfl := Option.some.inj he₁
        rw [if_pos rfl, ← Desk.stops?_roomy] at hended
        rw [hended]
        rcases hr₁.move.stops (h.roomy.retired_self hr₁) (h.roomy.inHand_self hr₁) with
          ⟨hno, hk⟩ | ⟨f, s, hf, hret⟩
        · have hno : (⟨w.registry, eng'.roomy⟩ : Desk V I).stops? task.work = none := hno
          rw [hno]
          exact hk.retired.trans (List.append_nil _).symm
        · have hf : (⟨w.registry, eng'.roomy⟩ : Desk V I).stops? task.work = some (f, s) := hf
          rw [hf]
          exact hret.retired.trans (Engine.retired_retire_roomy ..)
      · rw [hr₁.engines, if_neg hee] at he₁
        exact hsame he₁ (hended.trans (if_neg hee))

/-- How a flow ends does not depend on how many the engine keeps. -/
theorem status_of_roomy (h : Orderly w) (hs : w.step l = some w') (hs₁ : w.roomy.step l = some w₁)
    (hrun : w.running? e f ≠ none) (hend : w'.running? e f = none) {i j : Instance V}
    (hi : w₁.instance? e f = some i) (hj : w'.instance? e f = some j) : i.status = j.status := by
  have hc := change_of_step hs
  have hended := (ended?_eq_some_iff h hc).mpr ⟨hrun, hend⟩
  cases hc with
  | @runs t reply _ task eng d' work' hr =>
    cases change_of_step hs₁ with
    | @runs _ _ _ task₁ eng₁ d₁ work₁ hr₁ =>
      obtain rfl : task = task₁ := Option.some.inj (hr.hasTask.symm.trans hr₁.hasTask)
      obtain rfl := Option.some.inj ((engine_roomy hr.hasEngine).symm.trans hr₁.hasEngine)
      rw [hr.ended? h] at hended
      obtain ⟨rfl, hstops⟩ := Option.ite_none_right_eq_some.mp hended
      rw [hr.instance?, if_pos rfl] at hj
      rw [hr₁.instance?, if_pos rfl] at hi
      rcases hr.move.stops (h.retired_self hr) (h.inHand_self hr) with ⟨hno, -⟩ | ⟨g, s, hg, hret⟩
      · rw [hno] at hstops
        cases hstops
      · rw [hg] at hstops
        obtain rfl : g = f := Option.some.inj hstops
        rcases hr₁.move.stops (h.roomy.retired_self hr₁) (h.roomy.inHand_self hr₁) with
          ⟨hno, -⟩ | ⟨g₁, s₁, hg₁, hret₁⟩
        · exact absurd (hno.symm.trans hg) nofun
        · -- Both look at the same registry, the same task and the same instances.
          obtain ⟨rfl, rfl⟩ := Prod.mk.inj (Option.some.inj (hg₁.symm.trans hg))
          exact (hret₁.status i hi).trans (hret.status j hj).symm
  | refuses | delivers | cancels | elapses | opens => cases hended

/-! ### Over an execution -/

namespace Execution

variable {E : Execution V I} {engines : List (Definition V I × List (Handler V I) × Nat)}
  {d : Definition V I} {hs : List (Handler V I)} {retention n m : Nat}

/-- What has ended, ended in the order in which it is listed. -/
theorem ended_prefix (E : Execution V I) (e : EngineId) (hm : m ≤ n) :
    E.ended e m <+: E.ended e n := by
  induction hm with
  | refl => exact List.prefix_refl _
  | step _ ih => exact ih.trans (List.prefix_append ..)

/-- What has ended ran before. -/
theorem ran_of_ended (h₀ : E.world 0 = initial engines) (hf : f ∈ E.ended e n) :
    ∃ m < n, (E.world m).running? e f ≠ none := by
  induction n with
  | zero => cases hf
  | succ n ih =>
    rcases List.mem_append.mp hf with hf | hf
    · obtain ⟨m, hm, hrun⟩ := ih hf
      exact ⟨m, Nat.lt_succ_of_lt hm, hrun⟩
    · exact ⟨n, Nat.lt_succ_self n, ((ended?_eq_some_iff (orderly h₀ n) (E.change n)).mp
        (Option.mem_toList.mp hf)).1⟩

/-! ### The main result -/

/-- What engine `e` keeps after `n` steps, of all the flows that it has run, where it keeps
    `retention` of those that have ended. -/
structure Retains (E : Execution V I) (e : EngineId) (retention n : Nat) : Prop where
  /-- Those that have ended are those that ran and do not run any more. -/
  ended : ∀ f, f ∈ E.ended e n ↔
    (∃ m < n, (E.world m).running? e f ≠ none) ∧ (E.world n).running? e f = none
  /-- Each of them has ended once. -/
  once : (E.ended e n).Nodup
  /-- Those that ended earlier come first. -/
  order : ∀ m ≤ n, E.ended e m <+: E.ended e n
  /-- The last ones of them make up the queue of the retired flows, … -/
  queue : ∃ eng, (E.world n).engines[e]? = some eng ∧ eng.retired = (E.ended e n).rtake retention
  /-- … all of them, if no more than the retention says, and else as many as that. -/
  length : ((E.ended e n).rtake retention).length = min (E.ended e n).length retention
  /-- Whoever asks for a flow is shown one exactly if it runs, or is one of those. -/
  kept : ∀ f, ((E.world n).get? e f).isSome = true ↔
    (E.world n).running? e f ≠ none ∨ f ∈ (E.ended e n).rtake retention
  /-- What is shown is that flow, with a terminal status exactly if it has ended. -/
  shown : ∀ f s, (E.world n).get? e f = some s →
    s.flow = f ∧ (s.status.isTerminal = true ↔ f ∈ E.ended e n)
  /-- A flow that runs is not forgotten: it goes on, unless it is the one that ends next. -/
  running : ∀ f, (E.world n).running? e f ≠ none →
    (E.world (n + 1)).running? e f ≠ none ∨ E.ended e (n + 1) = E.ended e n ++ [f]
  /-- Where there is room, the next step puts the flow that ends in it, if one does, at the end of
      the queue, and changes nothing else about the queue. -/
  enters : ∃ ending : Option FlowId, E.ended e (n + 1) = E.ended e n ++ ending.toList ∧
    ∃ w, (E.world n).roomy.step (E.label n) = some w ∧ ∀ eng eng',
      (E.world n).engines[e]? = some eng → w.engines[e]? = some eng' →
      eng'.retired = eng.retired ++ ending.toList

end Execution

/-- Whatever the engines, how many flows they keep, and in whatever order flows are started, events
    delivered and flows cancelled: an engine keeps exactly the flows that run and the last ones that
    have ended. -/
theorem retention_exact {engines : List (Definition V I × List (Handler V I) × Nat)}
    {d : Definition V I} {hs : List (Handler V I)} {retention : Nat} {E : Execution V I}
    (h₀ : E.world 0 = initial engines) {e : EngineId}
    (he : engines[e]? = some (d, hs, retention)) (n : Nat) : E.Retains e retention n := by
  obtain ⟨eng, hw, hrem⟩ := Execution.remembers h₀ he n
  have horderly := Execution.orderly h₀ n
  have hrunning (f : FlowId) : (E.world n).running? e f = eng.running? f := by
    unfold running?
    rw [hw]
    rfl
  have hkept (f : FlowId) : ((E.world n).get? e f).isSome = true ↔
      (E.world n).running? e f ≠ none ∨ f ∈ (E.ended e n).rtake retention := by
    rw [hrunning, ← hrem.owns]
    unfold World.get?
    rw [hw]
    exact Bool.eq_iff_iff.mp Option.isSome_map
  have hgone {f : FlowId} (hf : f ∈ E.ended e n) : (E.world n).running? e f = none :=
    (hrunning f).trans (hrem.ended f hf)
  exact {
    ended := fun f => ⟨fun hf => ⟨Execution.ran_of_ended h₀ hf, hgone hf⟩,
      fun ⟨⟨m, hm, hrun⟩, hend⟩ => Execution.mem_ended h₀ hrun (Nat.le_of_lt hm) hend⟩
    once := hrem.nodup
    order := fun m hm => E.ended_prefix e hm
    queue := ⟨eng, hw, hrem.retired⟩
    length := by
      unfold List.rtake
      rw [List.length_drop]
      omega
    kept := hkept
    shown := by
      intro f s hs
      obtain ⟨i, hi, rfl⟩ := get?_eq_some_iff.mp hs
      refine ⟨(horderly.keyed e f i hi).1, FlowStatus.isTerminal_iff.trans ⟨fun hend => ?_, ?_⟩⟩
      · -- It is kept, but not because it runs.
        rcases (hkept f).mp (by rw [hs]; rfl) with hrun | hf
        · obtain ⟨p, hp⟩ := Option.ne_none_iff_exists'.mp hrun
          obtain ⟨j, hj, hjr, -⟩ := running?_eq_some_iff.mp hp
          obtain rfl := Option.some.inj (hi.symm.trans hj)
          exact absurd hjr hend
        · exact List.mem_of_mem_drop hf
      · intro hf hrun
        have hnone := hgone hf
        rw [running?_eq_some_iff.mpr ⟨i, hi, hrun, rfl⟩] at hnone
        cases hnone
    running := by
      intro f hrun
      by_cases hend : (E.world (n + 1)).running? e f = none
      · right
        rw [Execution.ended, (ended?_eq_some_iff horderly (E.change n)).mpr ⟨hrun, hend⟩]
        rfl
      · exact .inl hend
    enters := by
      obtain ⟨w₁, hw₁⟩ := step_roomy (E.step n)
      exact ⟨_, rfl, w₁, hw₁, fun _ _ he he' => retired_roomy horderly (E.step n) hw₁ he he'⟩ }

/-- Two flows are started, and cancelled one after the other. -/
def twoCancelsRun : List (Label CascadingDelete.vocabulary Collaborators) :=
  let start := fun serial r =>
    .start 0 serial { resourceId := r, resourceCrn := "environment", payload := default }
  let step := fun t => .run t fun _ => .error default
  [start 0 7, start 1 8, .cancel 0 7, step 2, step 2, .cancel 0 8, step 3, step 3, step 0, step 1]

/-- Those flows, after which only time passes, at an engine that keeps one flow that has ended. -/
def twoCancels : Execution CascadingDelete.vocabulary Collaborators :=
  .ofFollow (show (initial (clearingEngines none)).follow twoCancelsRun =
    some (((initial (clearingEngines none)).follow twoCancelsRun).get rfl) from rfl)

/-- Of the two flows that have ended in the end, in order, the engine keeps the second one, and
    shows it only. -/
theorem retention_exact_two : twoCancels.ended 0 8 = [.opened 0, .opened 1] ∧
    (∃ eng, (twoCancels.world 8).engines[0]? = some eng ∧ eng.retired = [.opened 1]) ∧
    ((twoCancels.world 8).get? 0 (.opened 1)).isSome = true ∧
    ¬ ((twoCancels.world 8).get? 0 (.opened 0)).isSome = true := by
  have hexact := retention_exact (E := twoCancels)
    (show twoCancels.world 0 = initial (clearingEngines none) from rfl) (e := 0) rfl 8
  have hended : twoCancels.ended 0 8 = [.opened 0, .opened 1] := rfl
  have hlast : (twoCancels.ended 0 8).rtake 1 = [.opened 1] := rfl
  refine ⟨hended, hlast ▸ hexact.queue, (hexact.kept _).mpr (.inr ?_), fun h => ?_⟩
  · rw [hlast]
    exact List.mem_singleton_self _
  · rcases (hexact.kept _).mp h with hrun | hmem
    · exact hrun ((hexact.ended _).mp (hended ▸ List.mem_cons_self)).2
    · rw [hlast] at hmem
      cases hmem with
      | tail _ h => cases h

end World

end ResourceFlow
