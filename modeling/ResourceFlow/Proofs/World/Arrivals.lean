import ResourceFlow.Proofs.World.Parking
/-! # How events come to a flow

  Events of a flow come with tasks: a flow is opened together with a task that
  brings its start event, and an event from outside is delivered by a task of
  its own (`World.Execution.Begins`). What holds of a task and its event when it
  begins, and is kept by the steps of the task, holds throughout
  (`World.Execution.begun`).
-/

namespace ResourceFlow

variable {V : Vocabulary} {I : Interface}

/-- A task that processes events has done so from the start, for the same flow. -/
theorem Desk.Move.processed {d d' : Desk V I} {t : TaskId} {now : Duration} {reply : I.Reply}
    {w w' : Work V I} (h : Move d t now reply w d' w') {o : Origin} {f : FlowId}
    {stage' : Processing V I} (hw : w' = .process o f stage') :
    ∃ stage, w = .process o f stage := by
  cases h with
  | nothing | request | gone | finish => cases hw
  | _ =>
    cases hw
    exact ⟨_, rfl⟩

namespace World

namespace Execution

variable {E : Execution V I} {engines : List (Definition V I × List (Handler V I) × Nat)}
  {n m : Nat} {t : TaskId} {e : EngineId} {f : FlowId} {o : Origin} {x : V.Event}

/-- In step `n` task `t` of engine `e` begins, and brings event `x` of flow `f`. -/
inductive Begins (E : Execution V I) (n : Nat) (t : TaskId) (e : EngineId) :
    Origin → FlowId → V.Event → Prop where
  /-- The flow is opened, and the task brings its start event. -/
  | opens {serial : Nat} {q : StartRequest V} {eng : Engine V I} {g : Registry}
      (hl : E.label n = .start e serial q)
      (ho : OpenStep (E.world n) e serial q (E.world (n + 1)) eng g)
      (ht : t = (E.world n).tasks.length) :
      Begins E n t e (.started q.resourceId) (.opened serial) (q.event eng.definition.start)
  /-- The event is delivered. -/
  | delivers {f : FlowId} {x : V.Event} (hl : E.label n = .dispatch e f x)
      (ht : t = (E.world n).tasks.length) : Begins E n t e .dispatched f x

/-- A flow is opened once. -/
theorem opens_once {e' : EngineId} {serial : Nat} {q q' : StartRequest V} {eng eng' : Engine V I}
    {g g' : Registry} (ho : OpenStep (E.world n) e serial q (E.world (n + 1)) eng g)
    (ho' : OpenStep (E.world m) e' serial q' (E.world (m + 1)) eng' g') : n = m := by
  have hlater : ∀ {n m e e' q q' eng eng' g g'},
      OpenStep (E.world n) e serial q (E.world (n + 1)) eng g →
      OpenStep (E.world m) e' serial q' (E.world (m + 1)) eng' g' → ¬ n < m :=
    fun ho ho' hlt => ho'.ne_of_opened (opened_later ho.opened_self hlt) rfl
  have h₁ := hlater ho ho'
  have h₂ := hlater ho' ho
  omega

/-- No task is ever forgotten. -/
theorem tasks_length_mono (hm : n ≤ m) :
    (E.world n).tasks.length ≤ (E.world m).tasks.length := by
  induction hm with
  | refl => exact Nat.le_refl _
  | @step m _ ih =>
    refine Nat.le_trans ih ?_
    have hc := E.change m
    generalize E.label m = l at hc
    generalize E.world (m + 1) = w' at hc
    cases hc with
    | opens ho => simp [ho.result]
    | runs hr => simp [hr.result]
    | elapses => exact Nat.le_refl _
    | _ => simp [addTask]

/-- A task begins once. -/
theorem Begins.unique {e' : EngineId} {o' : Origin} {f' : FlowId} {y : V.Event}
    (h : E.Begins n t e o f x) (h' : E.Begins m t e' o' f' y) : n = m := by
  have hlength : ∀ {n e o f x}, E.Begins n t e o f x →
      (E.world n).tasks.length = t ∧ (E.world (n + 1)).tasks.length = t + 1 := by
    intro n e o f x hb
    cases hb with
    | opens _ ho ht => simp [ho.result, ht]
    | @delivers f x hl ht =>
      have hstep := E.step n
      rw [hl] at hstep
      rw [← Option.some.inj hstep, ht]
      simp [dispatch, addTask]
  obtain ⟨hn, hn'⟩ := hlength h
  obtain ⟨hm, hm'⟩ := hlength h'
  -- In between there would be too many tasks.
  rcases Nat.lt_trichotomy n m with hlt | heq | hlt
  · have := tasks_length_mono (E := E) (show n + 1 ≤ m from hlt)
    omega
  · exact heq
  · have := tasks_length_mono (E := E) (show m + 1 ≤ n from hlt)
    omega

/-- A task brings one event. -/
theorem Begins.event_eq {o' : Origin} {f' : FlowId} {y : V.Event} (h : E.Begins n t e o f x)
    (h' : E.Begins m t e o' f' y) : x = y := by
  obtain rfl := h.unique h'
  cases h with
  | opens hl ho =>
    cases h' with
    | opens hl' ho' =>
      rw [hl] at hl'
      injection hl' with _ _ hq
      rw [hq, Option.some.inj (ho.hasEngine.symm.trans ho'.hasEngine)]
    | delivers hl' =>
      rw [hl] at hl'
      cases hl'
  | delivers hl =>
    cases h' with
    | opens hl' =>
      rw [hl] at hl'
      cases hl'
    | delivers hl' =>
      rw [hl] at hl'
      injection hl'

/-- A task begins at one engine, for one flow, and in one way. -/
theorem Begins.origin_eq {e' : EngineId} {o' : Origin} {f' : FlowId} {y : V.Event}
    (h : E.Begins n t e o f x) (h' : E.Begins m t e' o' f' y) : e = e' ∧ o = o' ∧ f = f' := by
  obtain rfl := h.unique h'
  cases h with
  | opens hl =>
    cases h' with
    | opens hl' =>
      rw [hl] at hl'
      cases hl'
      exact ⟨rfl, rfl, rfl⟩
    | delivers hl' =>
      rw [hl] at hl'
      cases hl'
  | delivers hl =>
    cases h' with
    | opens hl' =>
      rw [hl] at hl'
      cases hl'
    | delivers hl' =>
      rw [hl] at hl'
      cases hl'
      exact ⟨rfl, rfl, rfl⟩

/-- A task that processes events began in some step. What holds of it when it begins, and is kept
    by each step of such a task of the engine, still holds. -/
theorem begun (h₀ : E.world 0 = initial engines) {P : V.Event → Processing V I → Prop}
    (hnew : ∀ x, P x (.arriving x))
    (hstep : ∀ {n t reply task eng d' o f x stage stage'}, task.engine = e →
      RunStep (E.world n) t reply (E.world (n + 1)) task eng d' (.process o f stage') →
      task.work = .process o f stage → P x stage → P x stage')
    {k : Task V I} {stage : Processing V I} (hk : (E.world n).tasks[t]? = some k)
    (hke : k.engine = e) (hw : k.work = .process o f stage) :
    ∃ m x, m < n ∧ E.Begins m t e o f x ∧ P x stage := by
  induction n generalizing t k stage with
  | zero =>
    rw [h₀] at hk
    cases hk
  | succ n ih =>
    have hbefore : ∀ {k : Task V I} {stage : Processing V I}, (E.world n).tasks[t]? = some k →
        k.engine = e → k.work = .process o f stage →
        ∃ m x, m < n + 1 ∧ E.Begins m t e o f x ∧ P x stage := by
      intro k stage hk hke hw
      obtain ⟨m, x, hm, hb, hx⟩ := ih hk hke hw
      exact ⟨m, x, Nat.lt_succ_of_lt hm, hb, hx⟩
    have hc := E.change n
    generalize hw' : E.world (n + 1) = w' at hc hk
    generalize hl : E.label n = l at hc
    cases hc with
    | opens ho =>
      rcases ho.tasks.mp hk with hk | ⟨ht, rfl⟩
      · exact hbefore hk hke hw
      · cases hw
        cases hke
        exact ⟨n, _, Nat.lt_succ_self n, .opens hl (hw'.symm ▸ ho) ht, hnew _⟩
    | delivers =>
      rcases tasks_addTask.mp hk with hk | ⟨ht, rfl⟩
      · exact hbefore hk hke hw
      · cases hw
        cases hke
        exact ⟨n, _, Nat.lt_succ_self n, .delivers hl ht, hnew _⟩
    | refuses | cancels =>
      rcases tasks_addTask.mp hk with hk | ⟨-, rfl⟩
      · exact hbefore hk hke hw
      · cases hw
    | @runs _ _ _ task _ _ _ hr =>
      rw [hr.tasks] at hk
      split at hk
      · rename_i ht
        subst ht
        cases hk
        cases hw
        obtain ⟨stage₀, hw₀⟩ := hr.move.processed rfl
        have hke : task.engine = e := hke
        obtain ⟨m, x, hm, hb, hx⟩ := hbefore hr.hasTask hke hw₀
        exact ⟨m, x, hm, hb, hstep hke (hw'.symm ▸ hr) hw₀ hx⟩
      · exact hbefore hk hke hw
    | elapses => exact hbefore hk hke hw

/-- Whoever has not got hold of the lane yet brings the event with which it began. -/
theorem begun_of_brings (h₀ : E.world 0 = initial engines) {k : Task V I}
    (hk : (E.world n).tasks[t]? = some k) (hx : k.work.Brings f x) :
    ∃ m o, m < n ∧ E.Begins m t k.engine o f x := by
  have hw : ∃ o stage, k.work = .process o f stage := by
    generalize k.work = work at hx
    cases hx <;> exact ⟨_, _, rfl⟩
  obtain ⟨o, stage, hw⟩ := hw
  have hkeeps : ∃ m x₀, m < n ∧ E.Begins m t k.engine o f x₀ ∧
      ∀ o y, (.process o f stage : Work V I).Brings f y → y = x₀ := by
    refine begun h₀ (P := fun x₀ stage =>
      ∀ o y, (.process o f stage : Work V I).Brings f y → y = x₀) ?_ ?_ hk rfl hw
    · intro x₀ o y hy
      cases hy
      rfl
    · intro n t reply task eng d' o g x₀ stage stage' _ hr hw hkeeps o' y hy
      have hm := hr.move
      rw [hw] at hm
      cases hm with
      | queue =>
        -- Whoever asks for the lock brings the event as before.
        cases hy
        exact hkeeps o' _ .arriving
      | _ => cases hy
  obtain ⟨m, x₀, hm, hb, hkeeps⟩ := hkeeps
  rw [hw] at hx
  exact ⟨m, o, hm, hkeeps o x hx ▸ hb⟩

/-- The resource of a flow that is opened is that of the request, from then on. -/
theorem Begins.params_eq (hb : E.Begins m t e o f x) (h₀ : E.world 0 = initial engines)
    {r : ResourceId} (ho : o = .started r) {i : Instance V}
    (hi : (E.world n).instance? e f = some i) :
    i.params.resourceId = r ∧ x.resourceId = r ∧ x.resourceCrn = i.params.resourceCrn := by
  cases hb with
  | @opens serial q eng g hl hop ht =>
    cases ho
    have hnew : (E.world (m + 1)).instance? e (.opened serial) = some _ :=
      (hop.instance? e _).trans (if_pos ⟨rfl, rfl⟩)
    -- Before it was opened the engine kept no such flow.
    have hm : m + 1 ≤ n := by
      refine Nat.lt_of_not_le fun hn => ?_
      have hopened := opened_later ((orderly h₀ n).keyed _ _ _ hi).2 hn
      exact hop.ne_of_opened hopened rfl
    rw [params_later h₀ hm hnew hi]
    exact ⟨rfl, rfl, rfl⟩
  | delivers => cases ho

end Execution

end World

end ResourceFlow
