import ResourceFlow.Flows.CascadingDelete
import ResourceFlow.Proofs.World.Queues
/-! # Who occupies a lane

  The invariant behind everything that engines promise of a resource. It ties
  the lanes to the flows that run and to the tasks at work:

  - flows are kept under their id, each by one engine, and only ended flows
    are retired;
  - a lane is occupied by a flow that runs on its resource, and every flow
    that runs occupies the lane of its resource;
  - a task that asked for a lock did so for the flow whose lane came with it;
    the lane may have been freed since and claimed by another flow, but then
    with another lock;
  - a task that processes events is at work on a flow that runs.

  With `World.Queues`, which says who holds the locks, it is kept by every
  step (`World.Orderly.change`). The main result is `World.one_flow_per_lane`.
-/

namespace ResourceFlow

namespace World

variable {V : Vocabulary} {I : Interface}

/-! ### The invariant -/

/-- Lanes, flows and tasks fit together. -/
structure Orderly (w : World V I) : Prop where
  /-- Locks and tasks fit together. -/
  queues : Queues w
  /-- An instance is kept under the id of its flow, which has been opened. -/
  keyed : ∀ e f i, w.instance? e f = some i → i.params.flow = f ∧ w.Opened f
  /-- A flow is kept by one engine. -/
  single : ∀ e e' f i i', w.instance? e f = some i → w.instance? e' f = some i' → e = e'
  /-- What is retired has been opened and does not run. -/
  retired : ∀ (e : EngineId) (eng : Engine V I) (f : FlowId), w.engines[e]? = some eng →
    f ∈ eng.retired → eng.running? f = none ∧ w.Opened f
  /-- A lane is occupied by a flow that runs on its resource. -/
  occupant : ∀ r lane, w.lane? r = some lane →
    ∃ e p, w.running? e lane.flow = some p ∧ p.resourceId = r
  /-- A flow that runs occupies the lane of its resource. -/
  occupies : ∀ e f p, w.running? e f = some p →
    ∃ lane, w.lane? p.resourceId = some lane ∧ lane.flow = f
  /-- The lock of a lane has been given out. -/
  given : ∀ r lane, w.lane? r = some lane → lane.lock < w.registry.lanes.nextLock
  /-- No two lanes came with the same lock. -/
  locks : ∀ r r' a b, w.lane? r = some a → w.lane? r' = some b → a.lock = b.lock → r = r'
  /-- A resource is recorded as long as its lane is occupied. -/
  recorded : ∀ r, (w.status? r).isSome = (w.lane? r).isSome
  /-- A task asked for the lock that came with the lane of its flow. -/
  stakes : ∀ (t : TaskId) (task : Task V I) (l : LockId) (f : FlowId),
    w.tasks[t]? = some task → task.work.stake? = some (l, f) →
    l < w.registry.lanes.nextLock ∧ w.Opened f ∧
      ∀ r lane, w.lane? r = some lane → (lane.flow = f ↔ lane.lock = l)
  /-- A task that processes events is at work on a flow that runs at its engine. -/
  atWork : ∀ (t : TaskId) (task : Task V I) (l : LockId) (p : FlowParameters),
    w.tasks[t]? = some task → task.work.inHand? = some (l, p) →
    w.running? task.engine p.flow = some p ∧ task.work.stake? = some (l, p.flow)

namespace Orderly

variable {w : World V I}

theorem running_keyed (h : Orderly w) {e : EngineId} {f : FlowId} {p : FlowParameters}
    (hp : w.running? e f = some p) : p.flow = f ∧ w.Opened f := by
  obtain ⟨i, hi, -, rfl⟩ := running?_eq_some_iff.mp hp
  exact h.keyed e f i hi

/-- A flow runs at one engine, with one set of parameters. -/
theorem running_single (h : Orderly w) {e e' : EngineId} {f : FlowId} {i : Instance V}
    {p : FlowParameters} (hi : w.instance? e f = some i) (hp : w.running? e' f = some p) :
    e' = e ∧ i.params = p := by
  obtain ⟨i', hi', -, hpar⟩ := running?_eq_some_iff.mp hp
  have he := h.single e' e f i' i hi' hi
  subst he
  rw [hi] at hi'
  cases hi'
  exact ⟨rfl, hpar⟩

/-- A flow occupies one lane at most. -/
theorem lane_unique (h : Orderly w) {r r' : ResourceId} {a b : Lane} (ha : w.lane? r = some a)
    (hb : w.lane? r' = some b) (hf : a.flow = b.flow) : r = r' := by
  obtain ⟨e, p, hp, hr⟩ := h.occupant r a ha
  obtain ⟨e', p', hp', hr'⟩ := h.occupant r' b hb
  rw [← hf] at hp'
  obtain ⟨i, hi, -, hpar⟩ := running?_eq_some_iff.mp hp
  have hs := h.running_single hi hp'
  rw [← hr, ← hr', ← hpar, hs.2]

theorem initial (engines : List (Definition V I × List (Handler V I) × Nat)) :
    Orderly (initial engines) := by
  -- There are no instances yet.
  have hnone : ∀ e f, (World.initial engines).instance? e f = none := by
    intro e f
    unfold World.instance? World.initial
    rw [List.getElem?_map]
    cases engines[e]? <;> rfl
  have hrun : ∀ e f, (World.initial engines).running? e f = none := by
    intro e f
    rw [Option.eq_none_iff_forall_ne_some]
    intro p hp
    obtain ⟨i, hi, -⟩ := running?_eq_some_iff.mp hp
    rw [hnone] at hi
    cases hi
  refine {
    queues := queues_initial engines
    keyed := ?_, single := ?_, retired := ?_, occupies := ?_
    occupant := fun _ _ h => nomatch h
    given := fun _ _ h => nomatch h
    locks := fun _ _ _ _ h => nomatch h
    recorded := fun _ => rfl
    stakes := fun _ _ _ _ h => nomatch h
    atWork := fun _ _ _ _ h => nomatch h }
  · intro e f i h
    rw [hnone] at h
    cases h
  · intro e e' f i i' h
    rw [hnone] at h
    cases h
  · intro e eng f he hf
    unfold World.initial at he
    rw [List.getElem?_map, Option.map_eq_some_iff] at he
    obtain ⟨x, -, rfl⟩ := he
    cases hf
  · intro e f p h
    rw [hrun] at h
    cases h

/-! ### Requests keep it -/

theorem addTask (h : Orderly w) (e : EngineId) {work : Work V I} (hs : work.stake? = none)
    (hi : work.inHand? = none) : Orderly (w.addTask e work) where
  queues := h.queues.addTask e hs hi
  keyed := h.keyed
  single := h.single
  retired := h.retired
  occupant := h.occupant
  occupies := h.occupies
  given := h.given
  locks := h.locks
  recorded := h.recorded
  stakes t task l f ht hf := by
    rcases tasks_addTask.mp ht with ht | ⟨-, rfl⟩
    · exact h.stakes t task l f ht hf
    · rw [hs] at hf; cases hf
  atWork t task l p ht hp := by
    rcases tasks_addTask.mp ht with ht | ⟨-, rfl⟩
    · exact h.atWork t task l p ht hp
    · rw [hi] at hp; cases hp

section Opens

variable {w' : World V I} {e : EngineId} {serial : Nat} {q : StartRequest V} {eng : Engine V I}
  {g : Registry}

/-- What ran before runs on. -/
theorem running?_opens (h : Orderly w) (ho : OpenStep w e serial q w' eng g) {e' : EngineId}
    {f : FlowId} {p : FlowParameters} (hp : w.running? e' f = some p) :
    w'.running? e' f = some p := by
  have hne : f ≠ .opened serial := ho.ne_of_opened (h.running_keyed hp).2
  rw [ho.running?, if_neg fun hc => hne hc.2]
  exact hp

theorem keyed_opens (h : Orderly w) (ho : OpenStep w e serial q w' eng g) {e' : EngineId}
    {f : FlowId} {i : Instance V} (hi : w'.instance? e' f = some i) :
    i.params.flow = f ∧ w'.Opened f := by
  rw [ho.instance?] at hi
  split at hi
  · rename_i hc
    cases hi
    rw [hc.2]
    exact ⟨rfl, ho.opened_self⟩
  · obtain ⟨hk, hf⟩ := h.keyed e' f i hi
    exact ⟨hk, ho.opened_of_opened hf⟩

theorem single_opens (h : Orderly w) (ho : OpenStep w e serial q w' eng g) {e₁ e₂ : EngineId}
    {f : FlowId} {i₁ i₂ : Instance V} (h₁ : w'.instance? e₁ f = some i₁)
    (h₂ : w'.instance? e₂ f = some i₂) : e₁ = e₂ := by
  -- Nobody has heard of the new flow.
  have hnew : ∀ e' i, w.instance? e' (.opened serial) ≠ some i :=
    fun e' i hi => ho.ne_of_opened (h.keyed _ _ _ hi).2 rfl
  rw [ho.instance?] at h₁ h₂
  split at h₁ <;> split at h₂
  · rename_i hc₁ hc₂
    rw [hc₁.1, hc₂.1]
  · rename_i hc₁ hc₂
    rw [hc₁.2] at h₂
    exact absurd h₂ (hnew _ _)
  · rename_i hc₁ hc₂
    rw [hc₂.2] at h₁
    exact absurd h₁ (hnew _ _)
  · exact h.single e₁ e₂ f i₁ i₂ h₁ h₂

theorem retired_opens (h : Orderly w) (ho : OpenStep w e serial q w' eng g) {e' : EngineId}
    {eng' : Engine V I} {f : FlowId} (he : w'.engines[e']? = some eng') (hf : f ∈ eng'.retired) :
    eng'.running? f = none ∧ w'.Opened f := by
  rw [ho.engines] at he
  split at he
  · cases he
    obtain ⟨hr, hop⟩ := h.retired e eng f ho.hasEngine hf
    refine ⟨?_, ho.opened_of_opened hop⟩
    rw [Engine.running?_add _ rfl]
    exact (if_neg (ho.ne_of_opened hop)).trans hr
  · obtain ⟨hr, hop⟩ := h.retired e' eng' f he hf
    exact ⟨hr, ho.opened_of_opened hop⟩

theorem occupant_opens (h : Orderly w) (ho : OpenStep w e serial q w' eng g) {r : ResourceId}
    {lane : Lane} (hl : w'.lane? r = some lane) :
    ∃ e p, w'.running? e lane.flow = some p ∧ p.resourceId = r := by
  rw [ho.lane?] at hl
  split at hl
  · rename_i hr
    cases hl
    exact ⟨e, _, (ho.running? e _).trans (if_pos ⟨rfl, rfl⟩), hr.symm⟩
  · obtain ⟨e', p, hp, hr⟩ := h.occupant r lane hl
    exact ⟨e', p, h.running?_opens ho hp, hr⟩

theorem occupies_opens (h : Orderly w) (ho : OpenStep w e serial q w' eng g) {e' : EngineId}
    {f : FlowId} {p : FlowParameters} (hp : w'.running? e' f = some p) :
    ∃ lane, w'.lane? p.resourceId = some lane ∧ lane.flow = f := by
  rw [ho.running?] at hp
  split at hp
  · rename_i hc
    cases hp
    exact ⟨_, (ho.lane? _).trans (if_pos rfl), hc.2.symm⟩
  · obtain ⟨lane, hl, hf⟩ := h.occupies e' f p hp
    exact ⟨lane, (ho.lane?_of_some hl).2, hf⟩

theorem locks_opens (h : Orderly w) (ho : OpenStep w e serial q w' eng g) {r r' : ResourceId}
    {a b : Lane} (ha : w'.lane? r = some a) (hb : w'.lane? r' = some b) (hab : a.lock = b.lock) :
    r = r' := by
  rw [ho.lane?] at ha hb
  -- The new lock is larger than every lock that was given out before.
  split at ha <;> split at hb
  · rename_i h₁ h₂
    rw [h₁, h₂]
  · cases ha
    exact absurd hab (Nat.ne_of_gt (h.given r' b hb))
  · cases hb
    exact absurd hab (Nat.ne_of_lt (h.given r a ha))
  · exact h.locks r r' a b ha hb hab

theorem stakes_opens (h : Orderly w) (ho : OpenStep w e serial q w' eng g) {t : TaskId}
    {task : Task V I} {l : LockId} {f : FlowId} (ht : w'.tasks[t]? = some task)
    (hf : task.work.stake? = some (l, f)) :
    l < w'.registry.lanes.nextLock ∧ w'.Opened f ∧
      ∀ r lane, w'.lane? r = some lane → (lane.flow = f ↔ lane.lock = l) := by
  rcases ho.tasks.mp ht with ht | ⟨-, rfl⟩
  · obtain ⟨hlt, hop, hiff⟩ := h.stakes t task l f ht hf
    refine ⟨ho.nextLock ▸ Nat.lt_succ_of_lt hlt, ho.opened_of_opened hop, ?_⟩
    intro r lane hl
    rw [ho.lane?] at hl
    split at hl
    · -- The new lane came with a new lock, for a new flow.
      cases hl
      exact iff_of_false (fun hc => ho.ne_of_opened hop hc.symm) (Nat.ne_of_gt hlt)
    · exact hiff r lane hl
  · cases hf

theorem opens (h : Orderly w) (ho : OpenStep w e serial q w' eng g) : Orderly w' where
  queues := h.queues.change (.opens ho)
  keyed e' f i := h.keyed_opens ho
  single e₁ e₂ f i₁ i₂ := h.single_opens ho
  retired e' eng' f := h.retired_opens ho
  occupant r lane := h.occupant_opens ho
  occupies e' f p := h.occupies_opens ho
  given r lane hl := by
    rw [ho.nextLock]
    rw [ho.lane?] at hl
    split at hl
    · cases hl
      exact Nat.lt_succ_self _
    · exact Nat.lt_succ_of_lt (h.given r lane hl)
  locks r r' a b := h.locks_opens ho
  recorded r := by
    rw [ho.status?, ho.lane?]
    split
    · rfl
    · exact h.recorded r
  stakes t task l f := h.stakes_opens ho
  atWork t task l p ht hp := by
    rcases ho.tasks.mp ht with ht | ⟨-, rfl⟩
    · obtain ⟨hrun, hst⟩ := h.atWork t task l p ht hp
      exact ⟨h.running?_opens ho hrun, hst⟩
    · cases hp

end Opens

/-! ### Steps of tasks keep it -/

section Run

variable {w' : World V I} {t : TaskId} {reply : I.Reply} {task : Task V I} {eng : Engine V I}
  {d' : Desk V I} {work' : Work V I}

/-- The task that ends a flow asked for its lock and holds it, and the flow is kept by the task's
    engine. -/
structure Ender (w : World V I) (t : TaskId) (task : Task V I) (p : FlowParameters) : Prop where
  /-- It holds the lock that it asked for on behalf of the flow. -/
  holder : ∃ l, task.work.stake? = some (l, p.flow) ∧
    (w.registry.lanes.lock l).holder = some t
  /-- The flow is kept by its engine. -/
  kept : ∃ i, w.instance? task.engine p.flow = some i ∧ i.params = p

/-- What is retired at the engine of a task does not run. -/
theorem retired_self (h : Orderly w) (hr : RunStep w t reply w' task eng d' work') :
    ∀ g ∈ eng.retired, eng.running? g = none :=
  fun g hg => (h.retired task.engine eng g hr.hasEngine hg).1

/-- What a task has in hand runs at its engine. -/
theorem inHand_self (h : Orderly w) (hr : RunStep w t reply w' task eng d' work') :
    ∀ l p, task.work.inHand? = some (l, p) → eng.running? p.flow = some p :=
  fun l p hp => (hr.running?_self _).symm.trans (h.atWork t task l p hr.hasTask hp).1

/-- A step of a task leaves the flows alone, or the task ends the flow whose lock it holds. -/
theorem effect (h : Orderly w) (hr : RunStep w t reply w' task eng d' work') :
    Desk.Quiet ⟨w.registry, eng⟩ d' ∨ ∃ p s, Desk.Quits ⟨w.registry, eng⟩ d' p s ∧
      work'.stake? = none ∧ Desk.Ends ⟨w.registry, eng⟩ t task.work p s ∧ Ender w t task p := by
  rcases hr.move.effect (h.retired_self hr) (h.inHand_self hr) with hq | ⟨p, s, hq, hst, he⟩
  · exact .inl hq
  · refine .inr ⟨p, s, hq, hst, he, ?_⟩
    rcases he with ⟨l, hp, -⟩ | ⟨r, l, flow, i, hw, -, hh, hi, rfl⟩
    · obtain ⟨hrun, hstake⟩ := h.atWork t task l p hr.hasTask hp
      obtain ⟨i, hi, -, hpar⟩ := running?_eq_some_iff.mp hrun
      exact ⟨⟨l, hstake, h.queues.inHand t task l p hr.hasTask hp⟩, i, hi, hpar⟩
    · have hi : w.instance? task.engine flow = some i := (hr.instance?_self flow).trans hi
      have hf := (h.keyed _ _ _ hi).1
      refine ⟨⟨l, ?_, Lanes.isHeldBy_iff.mp hh⟩, i, ?_, rfl⟩
      · rw [hw, hf]; rfl
      · rw [hf]; exact hi

/-- A step changes no id under which an instance is kept. -/
theorem kept_run (h : Orderly w) (hr : RunStep w t reply w' task eng d' work') {e : EngineId}
    {f : FlowId} {i' : Instance V} (hi : w'.instance? e f = some i') :
    ∃ i, w.instance? e f = some i ∧ i'.params = i.params := by
  rw [hr.instance?] at hi
  split at hi
  · rename_i he
    subst he
    rw [hr.instance?_self]
    rcases h.effect hr with hq | ⟨p, s, hq, -⟩
    · obtain ⟨i, hi, hp, -⟩ := hq.kept f i' hi
      exact ⟨i, hi, hp⟩
    · obtain ⟨i, hi, hp, -⟩ := hq.kept f i' hi
      exact ⟨i, hi, hp⟩
  · exact ⟨i', hi, rfl⟩

/-- After a step, too, a task has asked for the lock that came with the lane of its flow. -/
theorem stakes_run (h : Orderly w) (hr : RunStep w t reply w' task eng d' work') {u : TaskId}
    {k : Task V I} {l : LockId} {f : FlowId} (hk : w'.tasks[u]? = some k)
    (hs : k.work.stake? = some (l, f)) :
    l < w.registry.lanes.nextLock ∧ w.Opened f ∧
      ∀ r lane, w.lane? r = some lane → (lane.flow = f ↔ lane.lock = l) := by
  rw [hr.tasks] at hk
  by_cases hu : u = t
  · subst hu
    rw [if_pos rfl] at hk
    cases hk
    cases h.queues.lockMove hr with
    | keeps hst _ _ =>
      rw [hst] at hs
      exact h.stakes _ task l f hr.hasTask hs
    | @asks r₀ lane₀ hl _ hs' _ _ =>
      rw [hs'] at hs
      cases hs
      obtain ⟨e, p, hp, -⟩ := h.occupant r₀ lane₀ hl
      refine ⟨h.given r₀ lane₀ hl, (h.running_keyed hp).2, ?_⟩
      intro r lane hlane
      constructor
      · intro hf
        have hrr := h.lane_unique hlane hl hf
        rw [hrr] at hlane
        rw [Option.some.inj (hlane.symm.trans hl)]
      · intro hlock
        have hrr := h.locks r r₀ lane lane₀ hlane hl hlock
        rw [hrr] at hlane
        rw [Option.some.inj (hlane.symm.trans hl)]
    | passes _ _ hs' _ =>
      rw [hs'] at hs
      cases hs
  · rw [if_neg hu] at hk
    exact h.stakes u k l f hk hs

/-- What a task that processes events has in hand after a step, it has in hand for a flow that ran
    before the step. -/
theorem atWork_run (h : Orderly w) (hr : RunStep w t reply w' task eng d' work') {u : TaskId}
    {k : Task V I} {l : LockId} {p : FlowParameters} (hk : w'.tasks[u]? = some k)
    (hp : k.work.inHand? = some (l, p)) :
    w.running? k.engine p.flow = some p ∧ k.work.stake? = some (l, p.flow) := by
  rw [hr.tasks] at hk
  by_cases hu : u = t
  · subst hu
    rw [if_pos rfl] at hk
    cases hk
    -- A task that asks or passes has nothing in hand afterwards.
    cases h.queues.lockMove hr with
    | keeps hst _ _ =>
      show w.running? task.engine p.flow = some p ∧ work'.stake? = some (l, p.flow)
      rw [hst]
      rcases hr.move.inHand? hp with hp | ⟨o, flow, event, hw, hrun⟩
      · exact h.atWork _ task l p hr.hasTask hp
      · have hrun : w.running? task.engine flow = some p := (hr.running?_self flow).trans hrun
        have hf := (h.running_keyed hrun).1
        subst hf
        obtain ⟨o', f', stage, -, hst'⟩ := Work.stake?_of_inHand? hp
        have hst' := hst.symm.trans hst'
        rw [hw] at hst' ⊢
        cases hst'
        exact ⟨hrun, rfl⟩
    | asks _ _ _ hin _ =>
      rw [hin] at hp
      cases hp
    | passes _ _ hs' _ =>
      obtain ⟨o, f, stage, -, hst⟩ := Work.stake?_of_inHand? hp
      rw [hs'] at hst
      cases hst
  · rw [if_neg hu] at hk
    exact h.atWork u k l p hk hp

theorem keyed_run (h : Orderly w) (hr : RunStep w t reply w' task eng d' work') {e : EngineId}
    {f : FlowId} {i : Instance V} (hi : w'.instance? e f = some i) :
    i.params.flow = f ∧ w'.Opened f := by
  obtain ⟨i₀, hi₀, hpar⟩ := h.kept_run hr hi
  rw [hpar, hr.opened]
  exact h.keyed e f i₀ hi₀

theorem single_run (h : Orderly w) (hr : RunStep w t reply w' task eng d' work')
    {e₁ e₂ : EngineId} {f : FlowId} {i₁ i₂ : Instance V} (h₁ : w'.instance? e₁ f = some i₁)
    (h₂ : w'.instance? e₂ f = some i₂) : e₁ = e₂ := by
  obtain ⟨j₁, h₁, -⟩ := h.kept_run hr h₁
  obtain ⟨j₂, h₂, -⟩ := h.kept_run hr h₂
  exact h.single e₁ e₂ f j₁ j₂ h₁ h₂

/-! A step that leaves the flows alone. -/

theorem run_quiet (h : Orderly w) (hr : RunStep w t reply w' task eng d' work')
    (hq : Desk.Quiet ⟨w.registry, eng⟩ d') : Orderly w' where
  queues := h.queues.run hr
  keyed e f i := h.keyed_run hr
  single e₁ e₂ f i₁ i₂ := h.single_run hr
  retired e eng' f he hf := by
    rw [hr.opened]
    rw [hr.engines] at he
    split at he
    · cases he
      rw [hq.running]
      exact h.retired _ eng f hr.hasEngine (hq.retired ▸ hf)
    · exact h.retired e eng' f he hf
  occupant r lane hl := by
    simp only [hr.running?_of_quiet hq]
    exact h.occupant r lane (hr.lane?_of_quiet hq r ▸ hl)
  occupies e f p hp := by
    simp only [hr.lane?_of_quiet hq]
    exact h.occupies e f p (hr.running?_of_quiet hq e f ▸ hp)
  given r lane hl := by
    rw [hr.nextLock]
    exact h.given r lane (hr.lane?_of_quiet hq r ▸ hl)
  locks r r' a b ha hb :=
    h.locks r r' a b (hr.lane?_of_quiet hq r ▸ ha) (hr.lane?_of_quiet hq r' ▸ hb)
  recorded r := by
    rw [hr.lane?_of_quiet hq, ← h.recorded, hr.status?]
    rcases hq.status r with hs | ⟨hs, hocc⟩
    · rw [hs]
      rfl
    · rw [hs]
      exact ((h.recorded r).trans hocc).symm
  stakes u k l f hk hs := by
    obtain ⟨hlt, hop, hiff⟩ := h.stakes_run hr hk hs
    refine ⟨hr.nextLock ▸ hlt, (hr.opened f).mpr hop, ?_⟩
    intro r lane hl
    exact hiff r lane (hr.lane?_of_quiet hq r ▸ hl)
  atWork u k l p hk hp := by
    rw [hr.running?_of_quiet hq]
    exact h.atWork_run hr hk hp

/-! A step that ends a flow. -/

section Quits

variable {p : FlowParameters} {s : FlowStatus}

/-- The flow that ends runs at this engine or nowhere. -/
theorem running?_quits (h : Orderly w) (hr : RunStep w t reply w' task eng d' work')
    (hq : Desk.Quits ⟨w.registry, eng⟩ d' p s) (he : Ender w t task p) (e : EngineId)
    (f : FlowId) : w'.running? e f = if f = p.flow then none else w.running? e f := by
  obtain ⟨i, hi, -⟩ := he.kept
  rw [hr.running?]
  by_cases hee : e = task.engine
  · rw [if_pos hee, hee, hr.running?_self]
    exact hq.running f
  · rw [if_neg hee]
    split
    · rename_i hf
      subst hf
      rw [Option.eq_none_iff_forall_ne_some]
      intro q hp
      exact hee (h.running_single hi hp).1
    · rfl

/-- The lane of another flow is not the one that is freed. -/
theorem not_freed (h : Orderly w) {e : EngineId} {f : FlowId} {q : FlowParameters}
    (hp : w.running? e f = some q) (hf : f ≠ p.flow) :
    ¬ (q.resourceId = p.resourceId ∧ w.registry.lanes.holds p.resourceId p.flow = true) := by
  rintro ⟨hrp, hh⟩
  obtain ⟨lane, hl, hflow⟩ := h.occupies e f q hp
  obtain ⟨lane', hl', hflow'⟩ := Lanes.holds_iff.mp hh
  have hl' : w.lane? q.resourceId = some lane' := hrp ▸ hl'
  rw [Option.some.inj (hl.symm.trans hl')] at hflow
  exact hf (hflow.symm.trans hflow')

theorem retired_quits (h : Orderly w) (hr : RunStep w t reply w' task eng d' work')
    (hq : Desk.Quits ⟨w.registry, eng⟩ d' p s) (he : Ender w t task p) {e : EngineId}
    {eng' : Engine V I} {f : FlowId} (heng : w'.engines[e]? = some eng') (hf : f ∈ eng'.retired) :
    eng'.running? f = none ∧ w'.Opened f := by
  obtain ⟨i, hi, -⟩ := he.kept
  rw [hr.opened]
  rw [hr.engines] at heng
  split at heng
  · cases heng
    rw [hq.running]
    rcases hq.retired f hf with hf | hf
    · refine ⟨if_pos hf, ?_⟩
      rw [hf]
      exact (h.keyed _ _ _ hi).2
    · obtain ⟨hnone, hop⟩ := h.retired _ eng f hr.hasEngine hf
      exact ⟨by rw [hnone, ite_self], hop⟩
  · exact h.retired e eng' f heng hf

theorem occupant_quits (h : Orderly w) (hr : RunStep w t reply w' task eng d' work')
    (hq : Desk.Quits ⟨w.registry, eng⟩ d' p s) (he : Ender w t task p) {r : ResourceId}
    {lane : Lane} (hl : w'.lane? r = some lane) :
    ∃ e q, w'.running? e lane.flow = some q ∧ q.resourceId = r := by
  have hl₀ := hr.lane?_before_quits hq hl
  obtain ⟨e, q, hp, hres⟩ := h.occupant r lane hl₀
  refine ⟨e, q, ?_, hres⟩
  rw [h.running?_quits hr hq he, if_neg]
  · exact hp
  · -- Otherwise the lane would have been freed.
    intro hf
    rw [hf] at hp
    obtain ⟨i, hi, hpar⟩ := he.kept
    have hqp : i.params = q := (h.running_single hi hp).2
    have hrp : r = p.resourceId := by rw [← hres, ← hqp, hpar]
    rw [hr.lane?_of_quits hq, if_pos] at hl
    · cases hl
    · exact ⟨hrp, Lanes.holds_iff.mpr ⟨lane, hrp ▸ hl₀, hf⟩⟩

theorem occupies_quits (h : Orderly w) (hr : RunStep w t reply w' task eng d' work')
    (hq : Desk.Quits ⟨w.registry, eng⟩ d' p s) (he : Ender w t task p) {e : EngineId} {f : FlowId}
    {q : FlowParameters} (hp : w'.running? e f = some q) :
    ∃ lane, w'.lane? q.resourceId = some lane ∧ lane.flow = f := by
  rw [h.running?_quits hr hq he] at hp
  split at hp
  · cases hp
  · rename_i hf
    obtain ⟨lane, hl, hflow⟩ := h.occupies e f q hp
    refine ⟨lane, ?_, hflow⟩
    rw [hr.lane?_of_quits hq, if_neg (h.not_freed hp hf)]
    exact hl

theorem atWork_quits (h : Orderly w) (hr : RunStep w t reply w' task eng d' work')
    (hq : Desk.Quits ⟨w.registry, eng⟩ d' p s) (hst : work'.stake? = none)
    (he : Ender w t task p) {u : TaskId} {k : Task V I} {l : LockId} {q : FlowParameters}
    (hk : w'.tasks[u]? = some k) (hp : k.work.inHand? = some (l, q)) :
    w'.running? k.engine q.flow = some q ∧ k.work.stake? = some (l, q.flow) := by
  obtain ⟨hqrun, hqst⟩ := h.atWork_run hr hk hp
  refine ⟨?_, hqst⟩
  rw [h.running?_quits hr hq he, if_neg]
  · exact hqrun
  · -- The lock of the flow has one holder, and that is the task that ends it.
    intro hf
    obtain ⟨l', hst', hh⟩ := he.holder
    obtain ⟨lane, hl, hflow⟩ := h.occupies _ _ _ hqrun
    have hl₁ : lane.lock = l := ((h.stakes_run hr hk hqst).2.2 _ lane hl).mp hflow
    have hl₂ : lane.lock = l' :=
      ((h.stakes t task l' p.flow hr.hasTask hst').2.2 _ lane hl).mp (hflow.trans hf)
    have hu : u ≠ t := by
      rintro rfl
      rw [hr.tasks, if_pos rfl] at hk
      cases hk
      rw [hst] at hqst
      cases hqst
    rw [hr.tasks, if_neg hu] at hk
    have hh' := h.queues.inHand u k l q hk hp
    rw [← hl₁, hl₂, hh] at hh'
    exact hu (Option.some.inj hh').symm

theorem run_quits (h : Orderly w) (hr : RunStep w t reply w' task eng d' work')
    (hq : Desk.Quits ⟨w.registry, eng⟩ d' p s) (hst : work'.stake? = none)
    (he : Ender w t task p) : Orderly w' where
  queues := h.queues.run hr
  keyed e f i := h.keyed_run hr
  single e₁ e₂ f i₁ i₂ := h.single_run hr
  retired e eng' f := h.retired_quits hr hq he
  occupant r lane := h.occupant_quits hr hq he
  occupies e f q := h.occupies_quits hr hq he
  given r lane hl := by
    rw [hr.nextLock]
    exact h.given r lane (hr.lane?_before_quits hq hl)
  locks r r' a b ha hb :=
    h.locks r r' a b (hr.lane?_before_quits hq ha) (hr.lane?_before_quits hq hb)
  recorded r := by
    rw [hr.lane?_of_quits hq, hr.status?_of_quits hq]
    split
    · rfl
    · exact h.recorded r
  stakes u k l f hk hs := by
    obtain ⟨hlt, hop, hiff⟩ := h.stakes_run hr hk hs
    refine ⟨hr.nextLock ▸ hlt, (hr.opened f).mpr hop, ?_⟩
    intro r lane hl
    exact hiff r lane (hr.lane?_before_quits hq hl)
  atWork u k l q := h.atWork_quits hr hq hst he

end Quits

theorem run (h : Orderly w) (hr : RunStep w t reply w' task eng d' work') : Orderly w' := by
  rcases h.effect hr with hq | ⟨p, s, hq, hst, -, he⟩
  · exact h.run_quiet hr hq
  · exact h.run_quits hr hq hst he

end Run

theorem change {w' : World V I} {l : Label V I} (h : Orderly w) (hc : Change w l w') :
    Orderly w' := by
  cases hc with
  | opens ho => exact h.opens ho
  | refuses _ => exact h.addTask _ rfl rfl
  | delivers => exact h.addTask _ rfl rfl
  | cancels => exact h.addTask _ rfl rfl
  | runs hr => exact h.run hr
  | elapses =>
    exact ⟨h.queues.change .elapses, h.keyed, h.single, h.retired, h.occupant, h.occupies, h.given,
      h.locks, h.recorded, h.stakes, h.atWork⟩

end Orderly

/-- The invariant holds in every world that can come to be from an orderly one. -/
theorem Orderly.reachable {w₀ w : World V I} (h : Orderly w₀) (hr : Reachable w₀ w) :
    Orderly w := by
  induction hr with
  | refl => exact h
  | step l _ hs ih => exact ih.change (change_of_step hs)

/-! ### What follows -/

/-- The flow `f` runs at engine `e` on resource `r`. -/
def Runs (w : World V I) (e : EngineId) (f : FlowId) (r : ResourceId) : Prop :=
  ∃ i, w.instance? e f = some i ∧ i.status = .running ∧ i.params.resourceId = r

end World

/-- The flow and the resource with which a task is inside an action or a handler. -/
def Work.inside? {V : Vocabulary} {I : Interface} : Work V I → Option (FlowId × ResourceId)
  | .process _ flow (.handling _ p ..) => some (flow, p.resourceId)
  | .process _ flow (.acting _ p ..) => some (flow, p.resourceId)
  | _ => none

theorem Work.inHand?_of_inside? {V : Vocabulary} {I : Interface} {w : Work V I} {f : FlowId}
    {r : ResourceId} (h : w.inside? = some (f, r)) :
    ∃ l p, w.inHand? = some (l, p) ∧ w.stake? = some (l, f) ∧ p.resourceId = r := by
  cases w with
  | process o flow stage =>
    cases stage <;> simp only [inside?, Option.some.injEq, Prod.mk.injEq, reduceCtorEq] at h <;>
      obtain ⟨rfl, rfl⟩ := h <;> exact ⟨_, _, rfl, rfl, rfl⟩
  | cancel r stage => cases h
  | refused e => cases h

namespace World

variable {V : Vocabulary} {I : Interface}

theorem runs_iff {w : World V I} {e : EngineId} {f : FlowId} {r : ResourceId} :
    w.Runs e f r ↔ ∃ p, w.running? e f = some p ∧ p.resourceId = r := by
  unfold Runs
  constructor
  · rintro ⟨i, hi, hs, hr⟩
    exact ⟨i.params, running?_eq_some_iff.mpr ⟨i, hi, hs, rfl⟩, hr⟩
  · rintro ⟨p, hp, hr⟩
    obtain ⟨i, hi, hs, rfl⟩ := running?_eq_some_iff.mp hp
    exact ⟨i, hi, hs, hr⟩

namespace Orderly

variable {w : World V I}

/-- One flow runs on a resource at most, whatever the engine. -/
theorem runs_unique (h : Orderly w) {r : ResourceId} {e e' : EngineId} {f f' : FlowId}
    (hf : w.Runs e f r) (hf' : w.Runs e' f' r) : e = e' ∧ f = f' := by
  obtain ⟨p, hp, hr⟩ := runs_iff.mp hf
  obtain ⟨p', hp', hr'⟩ := runs_iff.mp hf'
  obtain ⟨lane, hl, rfl⟩ := h.occupies e f p hp
  obtain ⟨lane', hl', rfl⟩ := h.occupies e' f' p' hp'
  rw [hr] at hl
  rw [hr', hl] at hl'
  obtain rfl := Option.some.inj hl'
  obtain ⟨i, hi, -, -⟩ := running?_eq_some_iff.mp hp
  exact ⟨(h.running_single hi hp').1.symm, rfl⟩

/-- A lane is occupied by the flow that runs on its resource. -/
theorem activeFlow?_iff (h : Orderly w) (r : ResourceId) (f : FlowId) :
    w.registry.lanes.activeFlow? r = some f ↔ ∃ e, w.Runs e f r := by
  rw [Lanes.activeFlow?_eq_some_iff]
  constructor
  · rintro ⟨lane, hl, rfl⟩
    obtain ⟨e, p, hp, hr⟩ := h.occupant r lane hl
    exact ⟨e, runs_iff.mpr ⟨p, hp, hr⟩⟩
  · rintro ⟨e, hf⟩
    obtain ⟨p, hp, hr⟩ := runs_iff.mp hf
    obtain ⟨lane, hl, hflow⟩ := h.occupies e f p hp
    exact ⟨lane, hr ▸ hl, hflow⟩

/-- Whoever is inside an action or a handler is there for the flow that occupies the lane, and
    holds the lane's lock. -/
theorem inside_lane (h : Orderly w) {t : TaskId} {a : Task V I} {f : FlowId} {r : ResourceId}
    (ha : w.tasks[t]? = some a) (hf : a.work.inside? = some (f, r)) :
    ∃ lane p, w.lane? r = some lane ∧ lane.flow = f ∧
      a.work.inHand? = some (lane.lock, p) := by
  obtain ⟨l, p, hp, hst, hr⟩ := Work.inHand?_of_inside? hf
  obtain ⟨hrun, hst'⟩ := h.atWork t a l p ha hp
  rw [hst] at hst'
  cases hst'
  obtain ⟨lane, hl, hflow⟩ := h.occupies _ _ _ hrun
  have hlock := ((h.stakes t a l _ ha hst).2.2 _ lane hl).mp hflow
  exact ⟨lane, p, hr ▸ hl, hflow, hlock ▸ hp⟩

theorem inside_unique (h : Orderly w) {t u : TaskId} {a b : Task V I} {f g : FlowId}
    {r : ResourceId} (ha : w.tasks[t]? = some a) (hb : w.tasks[u]? = some b)
    (hf : a.work.inside? = some (f, r)) (hg : b.work.inside? = some (g, r)) : t = u := by
  obtain ⟨lane, p, hl, -, hp⟩ := h.inside_lane ha hf
  obtain ⟨lane', q, hl', -, hq⟩ := h.inside_lane hb hg
  obtain rfl := Option.some.inj (hl.symm.trans hl')
  exact h.queues.holder_unique ha hb hp hq

end Orderly

/-- At most one flow runs on a resource over all engines, the lane of a resource is occupied by a
    flow if and only if it runs on the resource at exactly one engine, and at most one task is
    inside an action or a handler for a resource, on behalf of the flow that occupies its lane:
    in every world that can come to be, whatever the engines and the order of steps. -/
theorem one_flow_per_lane (engines : List (Definition V I × List (Handler V I) × Nat))
    {w : World V I} (hw : (initial engines).Reachable w) (r : ResourceId) :
    (∀ e e' f f', w.Runs e f r → w.Runs e' f' r → e = e' ∧ f = f') ∧
    (∀ f, w.registry.lanes.activeFlow? r = some f ↔
      ∃ e, w.Runs e f r ∧ ∀ e' r', w.Runs e' f r' → e' = e) ∧
    (∀ (t : TaskId) (a : Task V I) (f : FlowId), w.tasks[t]? = some a →
      a.work.inside? = some (f, r) → w.registry.lanes.activeFlow? r = some f ∧
        ∀ (u : TaskId) (b : Task V I) (g : FlowId), w.tasks[u]? = some b →
          b.work.inside? = some (g, r) → u = t) := by
  have h := (Orderly.initial engines).reachable hw
  refine ⟨fun e e' f f' => h.runs_unique, ?_, ?_⟩
  · intro f
    rw [h.activeFlow?_iff]
    constructor
    · rintro ⟨e, hf⟩
      refine ⟨e, hf, ?_⟩
      intro e' r' hf'
      obtain ⟨i, hi, -⟩ := hf
      obtain ⟨p, hp, -⟩ := runs_iff.mp hf'
      exact (h.running_single hi hp).1
    · rintro ⟨e, hf, -⟩
      exact ⟨e, hf⟩
  · intro t a f ha hf
    obtain ⟨lane, p, hl, hflow, -⟩ := h.inside_lane ha hf
    refine ⟨Lanes.activeFlow?_eq_some_iff.mpr ⟨lane, hl, hflow⟩, ?_⟩
    intro u b g hb hg
    exact h.inside_unique hb ha hg hf

/-- Two engines that delete environments, on one registry. -/
def deletionEngines : List (Definition CascadingDelete.vocabulary Collaborators ×
    List (Handler CascadingDelete.vocabulary Collaborators) × Nat) :=
  [(CascadingDelete.definition ⟨1, 10, false⟩, [], 1),
    (CascadingDelete.definition ⟨1, 10, false⟩, [], 1)]

/-- Both engines are asked to delete the same environment, and the first deletion begins. -/
def rivalDeletions : List (Label CascadingDelete.vocabulary Collaborators) :=
  let request := { resourceId := 7, resourceCrn := "environment", payload := default }
  [.start 0 0 request, .start 1 1 request,
    .run 0 fun _ => .error default, .run 0 fun _ => .error default, .run 0 fun _ => .error default]

/-- With the first deletion inside an action, the lane of the environment is its own, and it runs
    at one engine only. -/
theorem one_flow_per_lane_deletions : ∃ w, (initial deletionEngines).Reachable w ∧
    (∃ a, w.tasks[0]? = some a ∧ a.work.inside? = some (.opened 0, 7)) ∧
    w.registry.lanes.activeFlow? 7 = some (.opened 0) ∧
    ∃ e, w.Runs e (.opened 0) 7 ∧ ∀ e' r', w.Runs e' (.opened 0) r' → e' = e := by
  have hf : ((initial deletionEngines).follow rivalDeletions).map
      (fun w => w.tasks[0]?.map fun a => a.work.inside?) = some (some (some (.opened 0, 7))) := rfl
  obtain ⟨w, hw, hv⟩ := Option.map_eq_some_iff.mp hf
  obtain ⟨a, ha, hin⟩ := Option.map_eq_some_iff.mp hv
  have hr := reachable_of_follow hw
  have hlane := ((one_flow_per_lane deletionEngines hr 7).2.2 0 a _ ha hin).1
  exact ⟨w, hr, ⟨a, ha, hin⟩, hlane, ((one_flow_per_lane deletionEngines hr 7).2.1 _).mp hlane⟩

end World

end ResourceFlow
