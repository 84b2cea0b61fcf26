import ResourceFlow.Engine.World
import ResourceFlow.Proofs.Engine.Effects
/-! # The steps of a world

  `World.Change` lists what can happen to a world under each label, with the
  guards; `World.change_of_step` says that nothing else can. A request adds a
  task, one that opens a flow also takes the lane; a step of a task is a
  `Desk.Move` at the desk of its engine.
-/

namespace ResourceFlow

namespace World

variable {V : Vocabulary} {I : Interface}

/-! ### What can happen -/

/-- A task takes a step: it was there, and made a move at the desk of its engine. -/
structure RunStep (w : World V I) (t : TaskId) (reply : I.Reply) (w' : World V I)
    (task : Task V I) (eng : Engine V I) (d' : Desk V I) (work' : Work V I) : Prop where
  /-- The task. -/
  hasTask : w.tasks[t]? = some task
  /-- Its engine. -/
  hasEngine : w.engines[task.engine]? = some eng
  /-- The move. -/
  move : Desk.Move ⟨w.registry, eng⟩ t w.now reply task.work d' work'
  /-- What it leaves. -/
  result : w' = { w with
    registry := d'.registry
    engines := w.engines.set task.engine d'.engine
    tasks := w.tasks.set t { task with work := work' } }

/-- A flow is opened: the engine was there, the serial number new and the lane free. -/
structure OpenStep (w : World V I) (e : EngineId) (serial : Nat) (q : StartRequest V)
    (w' : World V I) (eng : Engine V I) (g : Registry) : Prop where
  /-- The engine. -/
  hasEngine : w.engines[e]? = some eng
  /-- The serial number is new. -/
  fresh : w.nextFlow ≤ serial
  /-- The flow takes the lane. -/
  enrolled : w.registry.Enrolled g q.resourceId (.opened serial) eng.definition.flowType
  /-- What it leaves. -/
  result : w' = { w with
    registry := g
    engines := w.engines.set e (eng.add
      (Instance.new (q.params (.opened serial) eng.definition.flowType) eng.definition.initial))
    tasks := w.tasks ++ [⟨e, .process (.started q.resourceId) (.opened serial)
      (.arriving (q.event eng.definition.start))⟩]
    nextFlow := serial + 1 }

/-- What can happen under a label. -/
inductive Change (w : World V I) : Label V I → World V I → Prop where
  /-- A flow is opened. -/
  | opens {e : EngineId} {serial : Nat} {q : StartRequest V} {w' : World V I} {eng : Engine V I}
      {g : Registry} (h : OpenStep w e serial q w' eng g) : Change w (.start e serial q) w'
  /-- A flow cannot be opened. -/
  | refuses {e : EngineId} {serial : Nat} {q : StartRequest V} (error : FlowError) :
      Change w (.start e serial q) (w.addTask e (.refused error))
  /-- An event is delivered. -/
  | delivers {e : EngineId} {flow : FlowId} {event : V.Event} :
      Change w (.dispatch e flow event) (w.addTask e (.process .dispatched flow (.arriving event)))
  /-- A cancel is asked for. -/
  | cancels {e : EngineId} {r : ResourceId} :
      Change w (.cancel e r) (w.addTask e (.cancel r .arriving))
  /-- A task takes a step. -/
  | runs {t : TaskId} {reply : I.Reply} {w' : World V I} {task : Task V I} {eng : Engine V I}
      {d' : Desk V I} {work' : Work V I} (h : RunStep w t reply w' task eng d' work') :
      Change w (.run t reply) w'
  /-- Time passes. -/
  | elapses {d : Duration} : Change w (.elapse d) { w with now := w.now + d }

theorem desk?_eq_some {w : World V I} {e : EngineId} {d : Desk V I} (h : w.desk? e = some d) :
    ∃ eng, w.engines[e]? = some eng ∧ d = ⟨w.registry, eng⟩ := by
  obtain ⟨eng, he, rfl⟩ := Option.map_eq_some_iff.mp h
  exact ⟨eng, he, rfl⟩

theorem change_of_start {w w' : World V I} {e : EngineId} {serial : Nat} {q : StartRequest V}
    (h : w.start e serial q = some w') : Change w (.start e serial q) w' := by
  unfold start at h
  obtain ⟨d, hd, h⟩ := Option.bind_eq_some_iff.mp h
  obtain ⟨eng, he, rfl⟩ := desk?_eq_some hd
  split at h
  · cases h
  · rename_i hs
    unfold Desk.start at h
    dsimp only at h
    cases hg : w.registry.enroll q.resourceId (.opened serial) eng.definition.flowType with
    | error err =>
      simp only [StartRequest.params, hg, Option.some.injEq] at h
      subst h
      exact .refuses err
    | ok g =>
      simp only [StartRequest.params, hg, Option.some.injEq] at h
      exact .opens ⟨he, Nat.le_of_not_lt hs, Registry.enrolled_of_enroll hg, h.symm⟩

theorem change_of_run {w w' : World V I} {t : TaskId} {reply : I.Reply}
    (h : w.run t reply = some w') : Change w (.run t reply) w' := by
  unfold run at h
  obtain ⟨task, ht, h⟩ := Option.bind_eq_some_iff.mp h
  obtain ⟨d, hd, h⟩ := Option.bind_eq_some_iff.mp h
  obtain ⟨eng, he, rfl⟩ := desk?_eq_some hd
  obtain ⟨⟨d', work'⟩, hw, h⟩ := Option.bind_eq_some_iff.mp h
  exact .runs ⟨ht, he, Desk.move_of_work hw, (Option.some.inj h).symm⟩

/-- Nothing else can happen. -/
theorem change_of_step {w w' : World V I} {l : Label V I} (h : w.step l = some w') :
    Change w l w' := by
  cases l with
  | start e serial q => exact change_of_start h
  | dispatch e flow event => cases h; exact .delivers
  | cancel e r => cases h; exact .cancels
  | run t reply => exact change_of_run h
  | elapse d => cases h; exact .elapses

/-! ### Views -/

/-- The instance of a flow at an engine. -/
def instance? (w : World V I) (e : EngineId) (f : FlowId) : Option (Instance V) :=
  (w.engines[e]?).bind (·.instance? f)

/-- The parameters of a flow, if it runs at an engine. -/
def running? (w : World V I) (e : EngineId) (f : FlowId) : Option FlowParameters :=
  (w.engines[e]?).bind (·.running? f)

/-- The lane of a resource. -/
def lane? (w : World V I) (r : ResourceId) : Option Lane := w.registry.lanes.lane? r

/-- What is recorded of a resource. -/
def status? (w : World V I) (r : ResourceId) : Option RunStatus := w.registry.status? r

/-- The flow has been opened. -/
def Opened (w : World V I) (f : FlowId) : Prop := ∃ n, f = .opened n ∧ n < w.nextFlow

theorem running?_eq_some_iff {w : World V I} {e : EngineId} {f : FlowId} {p : FlowParameters} :
    w.running? e f = some p ↔
      ∃ i, w.instance? e f = some i ∧ i.status = .running ∧ i.params = p := by
  unfold running? instance?
  cases w.engines[e]? with
  | none => simp
  | some eng => exact Engine.running?_eq_some_iff

/-! ### Several steps -/

/-- What several things lead to, one after the other. -/
def follow (w : World V I) : List (Label V I) → Option (World V I)
  | [] => some w
  | l :: rest => (w.step l).bind fun w' => w'.follow rest

theorem Reachable.head {w w₁ w₂ : World V I} {l : Label V I} (h : w.step l = some w₁)
    (hr : Reachable w₁ w₂) : Reachable w w₂ := by
  induction hr with
  | refl => exact .step l .refl h
  | step l' _ hs ih => exact .step l' ih hs

theorem reachable_of_follow {w w' : World V I} {ls : List (Label V I)}
    (h : w.follow ls = some w') : Reachable w w' := by
  induction ls generalizing w with
  | nil => cases h; exact .refl
  | cons l rest ih =>
    obtain ⟨w₁, hs, hf⟩ := Option.bind_eq_some_iff.mp h
    exact (ih hf).head hs

/-! ### What is there afterwards -/

theorem tasks_addTask {w : World V I} {e : EngineId} {work : Work V I} {t : TaskId}
    {task : Task V I} :
    (w.addTask e work).tasks[t]? = some task ↔
      w.tasks[t]? = some task ∨ (t = w.tasks.length ∧ task = ⟨e, work⟩) :=
  getElem?_snoc_iff

namespace RunStep

variable {w w' : World V I} {t : TaskId} {reply : I.Reply} {task : Task V I} {eng : Engine V I}
  {d' : Desk V I} {work' : Work V I}

theorem tasks (h : RunStep w t reply w' task eng d' work') (u : TaskId) :
    w'.tasks[u]? = if u = t then some { task with work := work' } else w.tasks[u]? := by
  obtain ⟨ht, -, -, rfl⟩ := h
  have hlt : t < w.tasks.length := (List.getElem?_eq_some_iff.mp ht).1
  by_cases hu : u = t
  · subst hu; simp [hlt]
  · simp [hu, Ne.symm hu]

theorem engines (h : RunStep w t reply w' task eng d' work') (e : EngineId) :
    w'.engines[e]? = if e = task.engine then some d'.engine else w.engines[e]? := by
  obtain ⟨-, he, -, rfl⟩ := h
  have hlt : task.engine < w.engines.length := (List.getElem?_eq_some_iff.mp he).1
  by_cases hu : e = task.engine
  · subst hu; simp [hlt]
  · simp [hu, Ne.symm hu]

theorem registry (h : RunStep w t reply w' task eng d' work') : w'.registry = d'.registry := by
  rw [h.result]

theorem nextFlow (h : RunStep w t reply w' task eng d' work') : w'.nextFlow = w.nextFlow := by
  rw [h.result]

theorem opened (h : RunStep w t reply w' task eng d' work') (f : FlowId) :
    w'.Opened f ↔ w.Opened f := by
  unfold Opened; rw [h.nextFlow]

theorem instance?_self (h : RunStep w t reply w' task eng d' work') (f : FlowId) :
    w.instance? task.engine f = eng.instance? f := by
  unfold World.instance?; rw [h.hasEngine]; rfl

theorem running?_self (h : RunStep w t reply w' task eng d' work') (f : FlowId) :
    w.running? task.engine f = eng.running? f := by
  unfold World.running?; rw [h.hasEngine]; rfl

theorem instance? (h : RunStep w t reply w' task eng d' work') (e : EngineId) (f : FlowId) :
    w'.instance? e f = if e = task.engine then d'.engine.instance? f else w.instance? e f := by
  unfold World.instance?; rw [h.engines]; split <;> rfl

theorem running? (h : RunStep w t reply w' task eng d' work') (e : EngineId) (f : FlowId) :
    w'.running? e f = if e = task.engine then d'.engine.running? f else w.running? e f := by
  unfold World.running?; rw [h.engines]; split <;> rfl

theorem lane? (h : RunStep w t reply w' task eng d' work') (r : ResourceId) :
    w'.lane? r = d'.registry.lanes.lane? r := by
  unfold World.lane?; rw [h.registry]

theorem status? (h : RunStep w t reply w' task eng d' work') (r : ResourceId) :
    w'.status? r = d'.registry.status? r := by
  unfold World.status?; rw [h.registry]

/-- Only openings give out locks. -/
theorem nextLock (h : RunStep w t reply w' task eng d' work') :
    w'.registry.lanes.nextLock = w.registry.lanes.nextLock := by
  rw [h.registry]
  exact h.move.fixed.2.2

/-! A quiet step, and one that ends a flow. -/

theorem running?_of_quiet (h : RunStep w t reply w' task eng d' work')
    (hq : Desk.Quiet ⟨w.registry, eng⟩ d') (e : EngineId) (f : FlowId) :
    w'.running? e f = w.running? e f := by
  rw [h.running?]
  split
  · rename_i he
    rw [he, h.running?_self]
    exact hq.running f
  · rfl

theorem lane?_of_quiet (h : RunStep w t reply w' task eng d' work')
    (hq : Desk.Quiet ⟨w.registry, eng⟩ d') (r : ResourceId) : w'.lane? r = w.lane? r :=
  (h.lane? r).trans (hq.lane r)

theorem lane?_of_quits (h : RunStep w t reply w' task eng d' work') {p : FlowParameters}
    {s : FlowStatus} (hq : Desk.Quits ⟨w.registry, eng⟩ d' p s) (r : ResourceId) :
    w'.lane? r = if r = p.resourceId ∧ w.registry.lanes.holds p.resourceId p.flow = true
      then none else w.lane? r :=
  (h.lane? r).trans (hq.lane r)

theorem status?_of_quits (h : RunStep w t reply w' task eng d' work') {p : FlowParameters}
    {s : FlowStatus} (hq : Desk.Quits ⟨w.registry, eng⟩ d' p s) (r : ResourceId) :
    w'.status? r = if r = p.resourceId ∧ w.registry.lanes.holds p.resourceId p.flow = true
      then none else w.status? r :=
  (h.status? r).trans (hq.status r)

/-- A lane that is occupied after the step was occupied before, by the same flow. -/
theorem lane?_before_quits (h : RunStep w t reply w' task eng d' work') {p : FlowParameters}
    {s : FlowStatus} (hq : Desk.Quits ⟨w.registry, eng⟩ d' p s) {r : ResourceId} {lane : Lane}
    (hl : w'.lane? r = some lane) : w.lane? r = some lane := by
  rw [h.lane?_of_quits hq] at hl
  split at hl
  · cases hl
  · exact hl

end RunStep

namespace OpenStep

variable {w w' : World V I} {e : EngineId} {serial : Nat} {q : StartRequest V} {eng : Engine V I}
  {g : Registry}

theorem tasks (h : OpenStep w e serial q w' eng g) {u : TaskId} {task : Task V I} :
    w'.tasks[u]? = some task ↔ w.tasks[u]? = some task ∨ (u = w.tasks.length ∧ task =
      ⟨e, .process (.started q.resourceId) (.opened serial)
        (.arriving (q.event eng.definition.start))⟩) := by
  rw [h.result]
  exact tasks_addTask

theorem engines (h : OpenStep w e serial q w' eng g) (e' : EngineId) :
    w'.engines[e']? = if e' = e then some (eng.add
      (Instance.new (q.params (.opened serial) eng.definition.flowType) eng.definition.initial))
      else w.engines[e']? := by
  obtain ⟨he, -, -, rfl⟩ := h
  have hlt : e < w.engines.length := (List.getElem?_eq_some_iff.mp he).1
  by_cases hu : e' = e
  · subst hu; simp [hlt]
  · simp [hu, Ne.symm hu]

theorem registry (h : OpenStep w e serial q w' eng g) : w'.registry = g := by
  rw [h.result]

theorem nextFlow (h : OpenStep w e serial q w' eng g) : w'.nextFlow = serial + 1 := by
  rw [h.result]

theorem opened_of_opened (h : OpenStep w e serial q w' eng g) {f : FlowId} (hf : w.Opened f) :
    w'.Opened f := by
  obtain ⟨n, rfl, hn⟩ := hf
  have := h.fresh
  exact ⟨n, rfl, by rw [h.nextFlow]; omega⟩

theorem opened_self (h : OpenStep w e serial q w' eng g) : w'.Opened (.opened serial) :=
  ⟨serial, rfl, by rw [h.nextFlow]; omega⟩

theorem ne_of_opened (h : OpenStep w e serial q w' eng g) {f : FlowId} (hf : w.Opened f) :
    f ≠ .opened serial := by
  obtain ⟨n, rfl, hn⟩ := hf
  have := h.fresh
  intro hs
  cases hs
  omega

theorem instance? (h : OpenStep w e serial q w' eng g) (e' : EngineId) (f : FlowId) :
    w'.instance? e' f = if e' = e ∧ f = .opened serial then
      some (Instance.new (q.params (.opened serial) eng.definition.flowType) eng.definition.initial)
      else w.instance? e' f := by
  unfold World.instance?
  rw [h.engines]
  by_cases he : e' = e
  · subst he
    rw [if_pos rfl, h.hasEngine, Option.bind_some, Option.bind_some, Engine.instance?_add]
    by_cases hf : f = .opened serial <;> simp [Instance.new, StartRequest.params, hf]
  · simp [he]

theorem running? (h : OpenStep w e serial q w' eng g) (e' : EngineId) (f : FlowId) :
    w'.running? e' f = if e' = e ∧ f = .opened serial then
      some (q.params (.opened serial) eng.definition.flowType) else w.running? e' f := by
  unfold World.running?
  rw [h.engines]
  by_cases he : e' = e
  · subst he
    rw [if_pos rfl, h.hasEngine, Option.bind_some, Option.bind_some, Engine.running?_add _ rfl]
    by_cases hf : f = .opened serial <;> simp [Instance.new, StartRequest.params, hf]
  · simp [he]

/-- A flow is opened on a free lane. -/
theorem free (h : OpenStep w e serial q w' eng g) : w.lane? q.resourceId = none :=
  h.enrolled.free

theorem lane? (h : OpenStep w e serial q w' eng g) (r : ResourceId) :
    w'.lane? r = if r = q.resourceId then
      some ⟨.opened serial, eng.definition.flowType, w.registry.lanes.nextLock⟩
      else w.lane? r := by
  unfold World.lane?
  rw [h.registry]
  exact h.enrolled.lane r

theorem status? (h : OpenStep w e serial q w' eng g) (r : ResourceId) :
    w'.status? r = if r = q.resourceId then some .running else w.status? r := by
  unfold World.status?
  rw [h.registry]
  exact h.enrolled.status r

theorem nextLock (h : OpenStep w e serial q w' eng g) :
    w'.registry.lanes.nextLock = w.registry.lanes.nextLock + 1 := by
  rw [h.registry]
  exact h.enrolled.nextLock

/-- A lane that was occupied is occupied by the same flow afterwards. -/
theorem lane?_of_some (h : OpenStep w e serial q w' eng g) {r : ResourceId} {lane : Lane}
    (hl : w.lane? r = some lane) : r ≠ q.resourceId ∧ w'.lane? r = some lane := by
  have hr : r ≠ q.resourceId := by
    intro hr
    rw [hr, h.free] at hl
    cases hl
  rw [h.lane?, if_neg hr]
  exact ⟨hr, hl⟩

end OpenStep

/-- A flow that has been opened stays opened. -/
theorem opened_of_change {w w' : World V I} {l : Label V I} (hc : Change w l w') {f : FlowId}
    (hf : w.Opened f) : w'.Opened f := by
  cases hc with
  | opens ho => exact ho.opened_of_opened hf
  | runs hr => exact (hr.opened f).mpr hf
  | _ => exact hf

/-- A step changes no engine's definition, and no handlers. -/
theorem engine_of_change {w w' : World V I} {l : Label V I} (hc : Change w l w')
    {e : EngineId} {eng' : Engine V I} (he : w'.engines[e]? = some eng') :
    ∃ eng, w.engines[e]? = some eng ∧ eng'.definition = eng.definition ∧
      eng'.dispatcher = eng.dispatcher := by
  cases hc with
  | refuses _ => exact ⟨eng', he, rfl, rfl⟩
  | delivers => exact ⟨eng', he, rfl, rfl⟩
  | cancels => exact ⟨eng', he, rfl, rfl⟩
  | elapses => exact ⟨eng', he, rfl, rfl⟩
  | opens ho =>
    rw [ho.engines] at he
    split at he
    · rename_i hee
      subst hee
      cases he
      exact ⟨_, ho.hasEngine, rfl, rfl⟩
    · exact ⟨eng', he, rfl, rfl⟩
  | runs hr =>
    rw [hr.engines] at he
    split at he
    · rename_i hee
      subst hee
      cases he
      exact ⟨_, hr.hasEngine, hr.move.fixed.1, hr.move.fixed.2.1⟩
    · exact ⟨eng', he, rfl, rfl⟩

/-- An engine keeps what it was built of. -/
theorem engine_of_reachable {engines : List (Definition V I × List (Handler V I) × Nat)}
    {w : World V I} (hr : (initial engines).Reachable w) {e : EngineId} {d : Definition V I}
    {hs : List (Handler V I)} {retention : Nat} (he : engines[e]? = some (d, hs, retention))
    {eng : Engine V I} (hw : w.engines[e]? = some eng) :
    eng.definition = d ∧ eng.dispatcher = .ofList hs := by
  induction hr generalizing eng with
  | refl =>
    unfold initial at hw
    rw [List.getElem?_map, he] at hw
    cases hw
    exact ⟨rfl, rfl⟩
  | step l _ hstep ih =>
    obtain ⟨eng₀, hw₀, hd, hh⟩ := engine_of_change (change_of_step hstep) hw
    obtain ⟨hd₀, hh₀⟩ := ih hw₀
    exact ⟨hd.trans hd₀, hh.trans hh₀⟩

end World

end ResourceFlow
