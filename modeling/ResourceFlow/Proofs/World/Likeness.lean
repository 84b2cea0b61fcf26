import Mathlib.Data.List.Forall2
import ResourceFlow.Proofs.Engine.Likeness
import ResourceFlow.Proofs.World.Executions
/-! # Executions that differ in payloads and times only

  Two executions go side by side if the same happens in each step, but for
  alike payloads and answers, and for how much time passes, where times need
  not be the same (`Execution.Beside`). If the engines are oblivious of the
  difference, the worlds stay alike (`World.Resembles.step`,
  `World.resembles_of_beside`). So each engine records the same, callers see
  the same of each flow, and each call has the same result, times aside
  (`World.indistinguishable_beside`).
-/

namespace ResourceFlow

variable {V : Vocabulary} {I : Interface}

/-! ### Lists -/

section Lists

variable {α β : Type} {R : α → β → Prop} {l : List α} {l' : List β}

theorem rel_getElem? (h : List.Forall₂ R l l') (i : Nat) : Option.Rel R l[i]? l'[i]? := by
  induction h generalizing i with
  | nil => exact .none
  | cons hab _ ih =>
    cases i with
    | zero => exact .some hab
    | succ i => exact ih i

theorem forall₂_set (h : List.Forall₂ R l l') {a : α} {b : β} (hab : R a b) (i : Nat) :
    List.Forall₂ R (l.set i a) (l'.set i b) := by
  induction h generalizing i with
  | nil => exact .nil
  | cons hxy hrest ih =>
    cases i with
    | zero => exact .cons hab hrest
    | succ i => exact .cons hxy (ih i)

theorem rel_getD (h : List.Forall₂ R l l') {a : α} {b : β} (hab : R a b) (i : Nat) :
    R (l.getD i a) (l'.getD i b) := by
  have hi := rel_getElem? h i
  rw [List.getD_eq_getElem?_getD, List.getD_eq_getElem?_getD]
  generalize l[i]? = x at hi ⊢
  generalize l'[i]? = y at hi ⊢
  cases hi with
  | none => exact hab
  | some hxy => exact hxy

theorem forall₂_replicate {a : α} {b : β} (hab : R a b) (k : Nat) :
    List.Forall₂ R (List.replicate k a) (List.replicate k b) := by
  induction k with
  | zero => exact .nil
  | succ k ih => exact .cons hab ih

end Lists

/-! ### Worlds -/

/-- What happens is the same, but for alike payloads and answers, and for how much time passes,
    where times need not be the same. -/
inductive Label.Resembles (L : Likeness V I) : Label V I → Label V I → Prop where
  /-- A flow is asked for. -/
  | start {e : EngineId} {serial : Nat} {q q' : StartRequest V}
      (hp : L.payload q.payload q'.payload) (hq : q' = { q with payload := q'.payload }) :
      Resembles L (.start e serial q) (.start e serial q')
  /-- An event is delivered. -/
  | dispatch {e : EngineId} {f : FlowId} {event event' : V.Event} (he : L.Event event event') :
      Resembles L (.dispatch e f event) (.dispatch e f event')
  /-- A cancel is asked for. -/
  | cancel {e : EngineId} {r : ResourceId} : Resembles L (.cancel e r) (.cancel e r)
  /-- A task takes a step. -/
  | run {t : TaskId} {ρ ρ' : I.Reply} (hρ : L.reply ρ ρ') : Resembles L (.run t ρ) (.run t ρ')
  /-- Time passes. -/
  | elapse {d d' : Duration} (hd : L.timed → d' = d) : Resembles L (.elapse d) (.elapse d')

/-- The tasks call the same engine and are alike. -/
structure Task.Resembles (L : Likeness V I) (k k' : Task V I) : Prop where
  /-- The engine. -/
  engine : k'.engine = k.engine
  /-- The work. -/
  work : k.work.Resembles L k'.work

/-- What a sink that logs each record makes of it. -/
def AuditRecord.logged (a : AuditRecord) : String × FlowId × Json := (a.level, a.flow, a.toJson)

/-- What came of a task, but for the times of ends. -/
def TaskResult.untimed : TaskResult V → TaskResult V
  | .processed outcome => .processed (outcome.map Snapshot.untimed)
  | .cancelled snapshot => .cancelled (snapshot.map Snapshot.untimed)

/-- The results of tasks that are alike. -/
theorem Work.Resembles.result? {L : Likeness V I} {work work' : Work V I}
    (h : work.Resembles L work') :
    work'.result?.map TaskResult.untimed = work.result?.map TaskResult.untimed := by
  cases h with
  | process hs =>
    cases hs with
    | «over» ho =>
      cases ho with
      | ok hs => exact congrArg (fun s => some (TaskResult.processed (.ok s))) hs
      | error e => rfl
    | _ => rfl
  | «over» ho => exact congrArg (fun s => some (TaskResult.cancelled s)) ho
  | _ => rfl

namespace World

/-- The worlds are the same, but for alike payloads, and times. -/
structure Resembles (L : Likeness V I) (w w' : World V I) : Prop where
  /-- The registries. -/
  registry : w'.registry = w.registry
  /-- The engines. -/
  engines : List.Forall₂ (Engine.Resembles L) w.engines w'.engines
  /-- The tasks. -/
  tasks : List.Forall₂ (Task.Resembles L) w.tasks w'.tasks
  /-- Which flows were opened. -/
  nextFlow : w'.nextFlow = w.nextFlow
  /-- The time, where times are the same. -/
  now : L.timed → w'.now = w.now

namespace Resembles

variable {L : Likeness V I} {w w' : World V I}

/-- The desks of an engine are alike. -/
theorem desk? (h : Resembles L w w') (e : EngineId) :
    Option.Rel (Desk.Resembles L) (w.desk? e) (w'.desk? e) := by
  have he := rel_getElem? h.engines e
  unfold World.desk?
  generalize w.engines[e]? = a at he ⊢
  generalize w'.engines[e]? = b at he ⊢
  cases he with
  | none => exact .none
  | some he => exact .some ⟨h.registry, he⟩

theorem putDesk (h : Resembles L w w') (e : EngineId) {D D' : Desk V I} (hd : D.Resembles L D') :
    Resembles L (w.putDesk e D) (w'.putDesk e D') where
  registry := hd.registry
  engines := forall₂_set h.engines hd.engine e
  tasks := h.tasks
  nextFlow := h.nextFlow
  now := h.now

theorem addTask (h : Resembles L w w') (e : EngineId) {work work' : Work V I}
    (hw : work.Resembles L work') : Resembles L (w.addTask e work) (w'.addTask e work') where
  registry := h.registry
  engines := h.engines
  tasks := List.rel_append h.tasks (.cons ⟨rfl, hw⟩ .nil)
  nextFlow := h.nextFlow
  now := h.now

/-! What can happen to both. -/

theorem start (h : Resembles L w w') (e : EngineId) (serial : Nat) {q q' : StartRequest V}
    (hp : L.payload q.payload q'.payload) (hq : q' = { q with payload := q'.payload }) :
    Option.Rel (Resembles L) (w.start e serial q) (w'.start e serial q') := by
  have hd := h.desk? e
  unfold World.start
  generalize w.desk? e = x at hd
  generalize w'.desk? e = x' at hd
  cases hd with
  | none => exact .none
  | @some D D' hd =>
    show Option.Rel _ (if serial < w.nextFlow then none else _)
      (if serial < w'.nextFlow then none else _)
    rw [h.nextFlow]
    split
    · exact .none
    · -- Opening the flow does not look at the payload.
      have hparams : ∀ f flowType, q'.params f flowType = q.params f flowType := by
        rw [hq]
        exact fun _ _ => rfl
      have hr : q'.resourceId = q.resourceId := by rw [hq]
      unfold Desk.start
      rw [hparams, hr, hd.registry, hd.engine.definition]
      dsimp only
      cases D.registry.enroll q.resourceId (.opened serial)
          (q.params (.opened serial) D.engine.definition.flowType).flowType with
      | error error => exact .some (h.addTask e .refused)
      | ok g =>
        have hopened : Desk.Resembles L
            ⟨g, D.engine.add (.new (q.params (.opened serial) D.engine.definition.flowType)
              D.engine.definition.initial)⟩
            ⟨g, D'.engine.add (.new (q.params (.opened serial) D.engine.definition.flowType)
              D.engine.definition.initial)⟩ := ⟨rfl, hd.engine.add _⟩
        have hw := h.putDesk e hopened
        have hw' : Resembles L { w.putDesk e _ with nextFlow := serial + 1 }
            { w'.putDesk e _ with nextFlow := serial + 1 } :=
          ⟨hw.registry, hw.engines, hw.tasks, rfl, hw.now⟩
        refine .some (hw'.addTask e (.process (.arriving ⟨hp, ?_⟩)))
        rw [hq]
        rfl

theorem run (h : Resembles L w w') (t : TaskId) {ρ ρ' : I.Reply} (hρ : L.reply ρ ρ') :
    Option.Rel (Resembles L) (w.run t ρ) (w'.run t ρ') := by
  have ht := rel_getElem? h.tasks t
  unfold World.run
  generalize w.tasks[t]? = x at ht
  generalize w'.tasks[t]? = x' at ht
  cases ht with
  | none => exact .none
  | @some k k' hk =>
    have hd := h.desk? k.engine
    show Option.Rel _ ((w.desk? k.engine).bind _) ((w'.desk? k'.engine).bind _)
    rw [hk.engine]
    generalize w.desk? k.engine = y at hd
    generalize w'.desk? k.engine = y' at hd
    cases hd with
    | none => exact .none
    | @some D D' hd =>
      have hstep := hd.work t h.now hρ hk.work
      show Option.Rel _ ((D.work t w.now ρ k.work).bind _) ((D'.work t w'.now ρ' k'.work).bind _)
      generalize D.work t w.now ρ k.work = z at hstep
      generalize D'.work t w'.now ρ' k'.work = z' at hstep
      cases hstep with
      | none => exact .none
      | @some a b hab =>
        obtain ⟨d, work⟩ := a
        obtain ⟨d', work'⟩ := b
        have hw := h.putDesk k.engine hab.1
        have hk' : Task.Resembles L ⟨k.engine, work⟩ ⟨k.engine, work'⟩ := ⟨rfl, hab.2⟩
        exact .some ⟨hw.registry, hw.engines, forall₂_set hw.tasks hk' t, hw.nextFlow, hw.now⟩

/-- What happens keeps the worlds alike. -/
theorem step (h : Resembles L w w') {l l' : Label V I} (hl : l.Resembles L l') :
    Option.Rel (Resembles L) (w.step l) (w'.step l') := by
  cases hl with
  | start hp hq => exact h.start _ _ hp hq
  | dispatch he => exact .some (h.addTask _ (.process (.arriving he)))
  | cancel => exact .some (h.addTask _ .arriving)
  | run hρ => exact h.run _ hρ
  | elapse hd =>
    refine .some ⟨h.registry, h.engines, h.tasks, h.nextFlow, fun ht => ?_⟩
    exact congrArg₂ (· + ·) (h.now ht) (hd ht)

end Resembles

/-! ### What is seen of a world -/

/-- Audit trail, log, snapshots and results of calls are the same, times aside. -/
structure Indistinguishable (w w' : World V I) : Prop where
  /-- What each engine recorded, in memory. -/
  recorded : ∀ e : EngineId, (w'.engines[e]?).map Engine.trail = (w.engines[e]?).map Engine.trail
  /-- What it logged. -/
  logged : ∀ e : EngineId, (w'.engines[e]?).map (·.trail.map AuditRecord.logged) =
    (w.engines[e]?).map (·.trail.map AuditRecord.logged)
  /-- What can be seen of each flow. -/
  snapshot : ∀ (e : EngineId) f, (w'.engines[e]?.bind (·.get? f)).map Snapshot.untimed =
    (w.engines[e]?.bind (·.get? f)).map Snapshot.untimed
  /-- What came of each call. -/
  result : ∀ t : TaskId, (w'.tasks[t]?.bind (·.work.result?)).map TaskResult.untimed =
    (w.tasks[t]?.bind (·.work.result?)).map TaskResult.untimed

variable {L : Likeness V I}

/-- Worlds that are alike cannot be told apart. -/
theorem Resembles.indistinguishable {w w' : World V I} (h : Resembles L w w') :
    Indistinguishable w w' := by
  have hrecorded : ∀ e : EngineId,
      (w'.engines[e]?).map Engine.trail = (w.engines[e]?).map Engine.trail := by
    intro e
    have he := rel_getElem? h.engines e
    generalize w.engines[e]? = a at he ⊢
    generalize w'.engines[e]? = b at he ⊢
    cases he with
    | none => rfl
    | some he => exact congrArg some he.trail
  refine ⟨hrecorded, fun e => ?_, fun e f => ?_, fun t => ?_⟩
  · have hlogged := congrArg (Option.map (List.map AuditRecord.logged)) (hrecorded e)
    rwa [Option.map_map, Option.map_map] at hlogged
  · have he := rel_getElem? h.engines e
    generalize w.engines[e]? = a at he ⊢
    generalize w'.engines[e]? = b at he ⊢
    cases he with
    | none => rfl
    | some he => exact he.get? f
  · have ht := rel_getElem? h.tasks t
    generalize w.tasks[t]? = a at ht ⊢
    generalize w'.tasks[t]? = b at ht ⊢
    cases ht with
    | none => rfl
    | some ht => exact ht.work.result?

/-! ### Executions -/

variable {engines : List (Definition V I × List (Handler V I) × Nat)} {E E' : Execution V I}

theorem resembles_initial (hob : ∀ d hs k, (d, hs, k) ∈ engines → d.Oblivious (.ofList hs) L) :
    Resembles L (initial engines) (initial engines) where
  registry := rfl
  engines := by
    refine List.forall₂_same.mpr fun a ha => ?_
    obtain ⟨⟨d, hs, k⟩, hd, rfl⟩ := List.mem_map.mp ha
    exact ⟨rfl, rfl, rfl, hob d hs k hd, fun _ => rfl, rfl, rfl⟩
  tasks := .nil
  nextFlow := rfl
  now _ := rfl

/-- In each step the same happens, but for alike payloads and answers, and for how much time
    passes, where times need not be the same. -/
def Execution.Beside (L : Likeness V I) (E E' : Execution V I) : Prop :=
  ∀ n, (E.label n).Resembles L (E'.label n)

/-- Executions that go side by side lead to worlds that are alike. -/
theorem resembles_of_beside (hob : ∀ d hs k, (d, hs, k) ∈ engines → d.Oblivious (.ofList hs) L)
    (h₀ : E.world 0 = initial engines) (h₀' : E'.world 0 = initial engines)
    (hb : E.Beside L E') (n : Nat) : Resembles L (E.world n) (E'.world n) := by
  induction n with
  | zero =>
    rw [h₀, h₀']
    exact resembles_initial hob
  | succ n ih =>
    have hstep := ih.step (hb n)
    rw [E.step n, E'.step n] at hstep
    cases hstep with
    | some h => exact h

/-- The worlds that labels lead through, as far as each can happen. -/
def courseOf (w : World V I) (label : Nat → Label V I) : Nat → World V I
  | 0 => w
  | n + 1 => ((courseOf w label n).step (label n)).getD (courseOf w label n)

/-- Whatever happens beside an execution can happen: it is no matter what the payloads and
    answers are. -/
theorem exists_beside (hob : ∀ d hs k, (d, hs, k) ∈ engines → d.Oblivious (.ofList hs) L)
    (h₀ : E.world 0 = initial engines) {label : Nat → Label V I}
    (hl : ∀ n, (E.label n).Resembles L (label n)) :
    ∃ E' : Execution V I, E'.world 0 = initial engines ∧ E'.label = label := by
  have hstep : ∀ n, Resembles L (E.world n) (courseOf (initial engines) label n) →
      ∃ w, (courseOf (initial engines) label n).step (label n) = some w ∧
        courseOf (initial engines) label (n + 1) = w ∧ Resembles L (E.world (n + 1)) w := by
    intro n h
    have hs := h.step (hl n)
    rw [E.step n] at hs
    generalize hw : (courseOf (initial engines) label n).step (label n) = x at hs
    cases hs with
    | @some _ w h =>
      refine ⟨w, rfl, ?_, h⟩
      show ((courseOf (initial engines) label n).step (label n)).getD _ = w
      rw [hw]
      rfl
  have hall : ∀ n, Resembles L (E.world n) (courseOf (initial engines) label n) := by
    intro n
    induction n with
    | zero =>
      rw [h₀]
      exact resembles_initial hob
    | succ n ih =>
      obtain ⟨w, -, hw, h⟩ := hstep n ih
      rwa [hw]
  refine ⟨⟨courseOf (initial engines) label, label, fun n => ?_⟩, rfl, rfl⟩
  obtain ⟨w, hw, hnext, -⟩ := hstep n (hall n)
  rw [hw, hnext]

/-- So it can happen, and what it leads through cannot be told apart from the execution. -/
theorem indistinguishable_beside
    (hob : ∀ d hs k, (d, hs, k) ∈ engines → d.Oblivious (.ofList hs) L)
    (h₀ : E.world 0 = initial engines) {label : Nat → Label V I}
    (hl : ∀ n, (E.label n).Resembles L (label n)) :
    (∃ E' : Execution V I, E'.world 0 = initial engines ∧ E'.label = label) ∧
    ∀ E' : Execution V I, E'.world 0 = initial engines → E'.label = label →
      ∀ n, (E.world n).Indistinguishable (E'.world n) := by
  refine ⟨exists_beside hob h₀ hl, fun E' h₀' hl' n => ?_⟩
  have hb : E.Beside L E' := fun n => hl' ▸ hl n
  exact (resembles_of_beside hob h₀ h₀' hb n).indistinguishable

end World

end ResourceFlow
