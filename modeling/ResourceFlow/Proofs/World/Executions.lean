import ResourceFlow.Proofs.World.Queues
/-! # Executions and fairness

  An execution is an endless sequence of steps. It is fair if a task that can
  take a step from some time on takes one, and if time goes on. In particular
  every call to a collaborator returns: the step that a task takes while it
  waits for an answer comes with an answer.

  The workhorse is `Execution.Fair.takes_step`: what a task can do, only the
  task itself can change, so it takes its next step some time, from where it
  stands.
-/

namespace ResourceFlow

variable {V : Vocabulary} {I : Interface}

/-- Whether an event is delivered from outside. -/
def Label.delivers : Label V I → Bool
  | .dispatch .. => true
  | _ => false

/-- Whether a cancel is asked for. -/
def Label.cancels : Label V I → Bool
  | .cancel .. => true
  | _ => false

/-! ### When a task can take a step -/

/-- The lock that a task waits for. -/
def Work.awaited? : Work V I → Option LockId
  | .process _ _ (.queued lock _) => some lock
  | .cancel _ (.queued lock _) => some lock
  | _ => none

/-- A task can take a step unless it is over or waits for a lock that it does not hold. -/
theorem Desk.work_isSome_iff {d : Desk V I} {t : TaskId} {now : Duration} {reply : I.Reply}
    {w : Work V I} : (d.work t now reply w).isSome = true ↔
      w.result?.isSome = false ∧
        ∀ l, w.awaited? = some l → d.registry.lanes.isHeldBy l t = true := by
  cases w with
  | process o flow stage =>
    unfold Desk.work
    rw [Option.isSome_map]
    cases stage with
    | queued lock event =>
      unfold Desk.process
      by_cases hh : d.registry.lanes.isHeldBy lock t = true <;>
        simp [hh, Work.result?, Work.awaited?]
    | handling lock p event h a =>
      cases a <;> simp [Desk.process, Work.result?, Work.awaited?]
    | acting lock p event s a =>
      cases a <;> simp [Desk.process, Work.result?, Work.awaited?]
    | _ => simp [Desk.process, Work.result?, Work.awaited?]
  | cancel r stage =>
    unfold Desk.work
    rw [Option.isSome_map]
    cases stage with
    | queued lock flow =>
      unfold Desk.cancel
      by_cases hh : d.registry.lanes.isHeldBy lock t = true <;>
        simp [hh, Work.result?, Work.awaited?]
    | _ => simp [Desk.cancel, Work.result?, Work.awaited?]
  | refused e => simp [Desk.work, Work.result?]

namespace World

theorem run_isSome_iff {w : World V I} {t : TaskId} {reply : I.Reply} :
    (w.run t reply).isSome = true ↔ ∃ task eng, w.tasks[t]? = some task ∧
      w.engines[task.engine]? = some eng ∧ task.work.result?.isSome = false ∧
      ∀ l, task.work.awaited? = some l → (w.registry.lanes.lock l).holder = some t := by
  constructor
  · intro h
    obtain ⟨w', hw'⟩ := Option.isSome_iff_exists.mp h
    unfold run at hw'
    obtain ⟨task, ht, hw'⟩ := Option.bind_eq_some_iff.mp hw'
    obtain ⟨d, hd, hw'⟩ := Option.bind_eq_some_iff.mp hw'
    obtain ⟨eng, he, rfl⟩ := desk?_eq_some hd
    obtain ⟨x, hx, -⟩ := Option.bind_eq_some_iff.mp hw'
    have hw := Desk.work_isSome_iff.mp (Option.isSome_iff_exists.mpr ⟨x, hx⟩)
    exact ⟨task, eng, ht, he, hw.1, fun l hl => Lanes.isHeldBy_iff.mp (hw.2 l hl)⟩
  · rintro ⟨task, eng, ht, he, hr, hl⟩
    have hd : w.desk? task.engine = some ⟨w.registry, eng⟩ := by
      unfold desk?
      rw [he]
      rfl
    have hw : ((⟨w.registry, eng⟩ : Desk V I).work t w.now reply task.work).isSome = true :=
      Desk.work_isSome_iff.mpr ⟨hr, fun l h => Lanes.isHeldBy_iff.mpr (hl l h)⟩
    obtain ⟨x, hx⟩ := Option.isSome_iff_exists.mp hw
    unfold run
    rw [ht, Option.bind_eq_bind, Option.bind_some, hd, Option.bind_eq_bind, Option.bind_some, hx]
    rfl

/-- The task can take a step, whatever it is answered. -/
def CanRun (w : World V I) (t : TaskId) : Prop := ∀ reply, (w.run t reply).isSome = true

/-! ### What stays until a task takes its step -/

section Change

variable {w w' : World V I} {l : Label V I} {t : TaskId}

theorem now_le_of_change (hc : Change w l w') : w.now ≤ w'.now := by
  cases hc with
  | opens ho => exact ho.result ▸ Nat.le_refl _
  | runs hr => exact hr.result ▸ Nat.le_refl _
  | elapses => exact Nat.le_add_right ..
  | _ => exact Nat.le_refl _

theorem engines_length_of_change (hc : Change w l w') :
    w'.engines.length = w.engines.length := by
  cases hc with
  | opens ho => rw [ho.result, List.length_set]
  | runs hr => rw [hr.result, List.length_set]
  | _ => rfl

/-- Only the task itself changes what it does. -/
theorem task_of_change (hc : Change w l w') (hl : ∀ reply, l ≠ .run t reply) {task : Task V I}
    (ht : w.tasks[t]? = some task) : w'.tasks[t]? = some task := by
  cases hc with
  | opens ho => exact ho.tasks.mpr (.inl ht)
  | refuses _ => exact tasks_addTask.mpr (.inl ht)
  | delivers => exact tasks_addTask.mpr (.inl ht)
  | cancels => exact tasks_addTask.mpr (.inl ht)
  | @runs u reply _ _ _ _ _ hr =>
    rw [hr.tasks, if_neg]
    · exact ht
    · rintro rfl
      exact hl reply rfl
  | elapses => exact ht

/-- Only the holder of a lock lets go of it. -/
theorem holder_of_change (hq : Queues w) (hc : Change w l w') (hl : ∀ reply, l ≠ .run t reply)
    {lock : LockId} (hh : (w.registry.lanes.lock lock).holder = some t) :
    (w'.registry.lanes.lock lock).holder = some t := by
  cases hc with
  | opens ho =>
    rw [ho.registry, ho.enrolled.lock]
    exact hh
  | @runs u reply _ task eng d' work' hr =>
    rw [hr.registry]
    cases hq.lockMove hr with
    | keeps _ hk _ =>
      rw [hk]
      exact hh
    | asks _ _ _ _ hk =>
      -- Whoever asks for a lock that is held waits behind the holder.
      rw [hk]
      split
      · exact Lock.holder_ask hh u
      · exact hh
    | @passes lock' _ _ hu _ hk =>
      rw [hk, if_neg]
      · exact hh
      · -- A lock has one holder.
        rintro rfl
        have hu := Lanes.isHeldBy_iff.mp hu
        have htu : u = t := Option.some.inj (hu.symm.trans hh)
        exact hl reply (htu ▸ rfl)
  | _ => exact hh

/-- What a task can do, it can do until it does it. -/
theorem canRun_of_change (hq : Queues w) (hc : Change w l w') (hl : ∀ reply, l ≠ .run t reply)
    (h : w.CanRun t) : w'.CanRun t := by
  intro reply
  obtain ⟨task, eng, ht, he, hr, hh⟩ := run_isSome_iff.mp (h reply)
  have hlt : task.engine < w'.engines.length := by
    rw [engines_length_of_change hc]
    exact (List.getElem?_eq_some_iff.mp he).1
  refine run_isSome_iff.mpr
    ⟨task, _, task_of_change hc hl ht, List.getElem?_eq_getElem hlt, hr, ?_⟩
  intro lock hlock
  exact holder_of_change hq hc hl (hh lock hlock)

end Change

/-! ### Executions -/

/-- An endless sequence of steps. -/
structure Execution (V : Vocabulary) (I : Interface) where
  /-- The worlds in turn. -/
  world : Nat → World V I
  /-- What happens between one and the next. -/
  label : Nat → Label V I
  /-- Each step leads to the next world. -/
  step : ∀ n, (world n).step (label n) = some (world (n + 1))

namespace Execution

/-- Every task that can take a step from some time on takes one, and time goes on. -/
structure Fair (E : Execution V I) : Prop where
  /-- What a task can do, it does some time. -/
  runs : ∀ n t, (∀ m, n ≤ m → (E.world m).CanRun t) →
    ∃ m reply, n ≤ m ∧ E.label m = .run t reply
  /-- Every time comes. -/
  time : ∀ d, ∃ n, d ≤ (E.world n).now

variable {E : Execution V I}

theorem change (E : Execution V I) (n : Nat) :
    Change (E.world n) (E.label n) (E.world (n + 1)) :=
  change_of_step (E.step n)

theorem reachable_of_le (E : Execution V I) {n m : Nat} (h : n ≤ m) :
    Reachable (E.world n) (E.world m) := by
  induction h with
  | refl => exact .refl
  | @step m _ ih => exact .step _ ih (E.step m)

theorem reachable (E : Execution V I) (n : Nat) : Reachable (E.world 0) (E.world n) :=
  E.reachable_of_le (Nat.zero_le n)

theorem now_mono (E : Execution V I) (n m : Nat) (h : n ≤ m) :
    (E.world n).now ≤ (E.world m).now := by
  induction h with
  | refl => exact Nat.le_refl _
  | @step m _ ih => exact Nat.le_trans ih (now_le_of_change (E.change m))

/-- Until it takes a step, a task that can take one stands still. -/
theorem stands_still (hq : ∀ n, Queues (E.world n)) {n m : Nat} {t : TaskId} {task : Task V I}
    (hc : (E.world n).CanRun t) (ht : (E.world n).tasks[t]? = some task) (hm : n ≤ m)
    (hno : ∀ j, n ≤ j → j < m → ∀ reply, E.label j ≠ .run t reply) :
    (E.world m).CanRun t ∧ (E.world m).tasks[t]? = some task := by
  induction hm with
  | refl => exact ⟨hc, ht⟩
  | @step m hm ih =>
    obtain ⟨hcan, htask⟩ := ih fun j hj hjm => hno j hj (Nat.lt_succ_of_lt hjm)
    have hl := hno m hm (Nat.lt_succ_self m)
    exact ⟨canRun_of_change (hq m) (E.change m) hl hcan, task_of_change (E.change m) hl htask⟩

/-- A task that can take a step takes a first one. -/
theorem Fair.first_step (hf : E.Fair) (hq : ∀ n, Queues (E.world n)) {n : Nat} {t : TaskId}
    {task : Task V I} (hc : (E.world n).CanRun t) (ht : (E.world n).tasks[t]? = some task) :
    ∃ m reply, n ≤ m ∧ E.label m = .run t reply ∧
      ∀ j, n ≤ j → j < m → ∀ reply, E.label j ≠ .run t reply := by
  refine Classical.byContradiction fun hno => ?_
  have hnever : ∀ m, n ≤ m → ∀ reply, E.label m ≠ .run t reply := by
    intro m
    induction m using Nat.strongRecOn with
    | ind m ih =>
      intro hm reply hl
      exact hno ⟨m, reply, hm, hl, fun j hj hjm => ih j hjm hj⟩
  -- Fairness speaks of tasks that can take a step from some time on, and this one always could.
  obtain ⟨m, reply, hm, hl⟩ := hf.runs n t fun m hm =>
    (stands_still hq hc ht hm fun j hj _ => hnever j hj).1
  exact hnever m hm reply hl

/-- A task that can take a step takes it some time, from where it stands. -/
theorem Fair.takes_step (hf : E.Fair) (hq : ∀ n, Queues (E.world n)) {n : Nat} {t : TaskId}
    {task : Task V I} (hc : (E.world n).CanRun t) (ht : (E.world n).tasks[t]? = some task) :
    ∃ m reply, n ≤ m ∧ E.label m = .run t reply ∧ (E.world m).tasks[t]? = some task := by
  obtain ⟨m, reply, hm, hl, hfirst⟩ := hf.first_step hq hc ht
  exact ⟨m, reply, hm, hl, (stands_still hq hc ht hm hfirst).2⟩

/-! ### Finite runs -/

/-- The worlds of a finite run, after which only time passes. -/
def play (w : World V I) : List (Label V I) → Nat → World V I
  | _, 0 => w
  | [], n + 1 => { w with now := w.now + (n + 1) }
  | l :: ls, n + 1 =>
    match w.step l with
    | some w' => play w' ls n
    | none => w

theorem play_step {w w' : World V I} {ls : List (Label V I)} (h : w.follow ls = some w') (n : Nat) :
    (play w ls n).step (ls.getD n (.elapse 1)) = some (play w ls (n + 1)) := by
  induction ls generalizing w n with
  | nil => cases n <;> rfl
  | cons l ls ih =>
    obtain ⟨w₁, hs, hf⟩ := Option.bind_eq_some_iff.mp h
    cases n with
    | zero =>
      show w.step l = some (play w (l :: ls) 1)
      simp only [play, hs]
    | succ n =>
      simp only [play, hs]
      exact ih hf n

/-- After the run only the time changes. -/
theorem play_after {w w' : World V I} {ls : List (Label V I)} (h : w.follow ls = some w')
    (k : Nat) : play w ls (ls.length + k) = { w' with now := w'.now + k } := by
  -- One step of the run is one step of the execution.
  induction ls generalizing w with
  | nil =>
    cases h
    cases k <;> simp [play]
  | cons l ls ih =>
    obtain ⟨w₁, hs, hf⟩ := Option.bind_eq_some_iff.mp h
    have hlen : (l :: ls).length + k = (ls.length + k) + 1 := by
      rw [List.length_cons]
      omega
    rw [hlen]
    simp only [play, hs]
    exact ih hf

/-- A finite run, after which only time passes. -/
def ofFollow {w w' : World V I} {ls : List (Label V I)} (h : w.follow ls = some w') :
    Execution V I where
  world := play w ls
  label n := ls.getD n (.elapse 1)
  step := play_step h

/-- What is true of the labels of a finite run and of the passing of time, is true of all labels. -/
theorem all_ofFollow {w w' : World V I} {ls : List (Label V I)} (h : w.follow ls = some w')
    {p : Label V I → Bool} (hls : ls.all p = true) (hp : p (.elapse 1) = true) (n : Nat) :
    p ((ofFollow h).label n) = true := by
  show p (ls.getD n (.elapse 1)) = true
  rw [List.getD_eq_getElem?_getD]
  cases hl : ls[n]? with
  | none => exact hp
  | some l => exact List.all_eq_true.mp hls l (List.mem_of_getElem? hl)

/-- If a finite run delivers no event from outside, none is ever delivered. -/
theorem undelivered_ofFollow {w w' : World V I} {ls : List (Label V I)}
    (h : w.follow ls = some w') (hls : ls.all (!·.delivers) = true) (f : FlowId) (n : Nat)
    (e : EngineId) (event : V.Event) : (ofFollow h).label n ≠ .dispatch e f event := by
  intro hn
  have hdelivers := all_ofFollow h hls rfl n
  rw [hn] at hdelivers
  cases hdelivers

/-- If no cancel is asked for in a finite run, none ever is. -/
theorem uncancelled_ofFollow {w w' : World V I} {ls : List (Label V I)}
    (h : w.follow ls = some w') (hls : ls.all (!·.cancels) = true) (n : Nat) (e : EngineId)
    (r : ResourceId) : (ofFollow h).label n ≠ .cancel e r := by
  intro hn
  have hcancels := all_ofFollow h hls rfl n
  rw [hn] at hcancels
  cases hcancels

/-- After a finite run that leaves all tasks over, no task can take a step. -/
theorem not_canRun_ofFollow {w w' : World V I} {ls : List (Label V I)} (h : w.follow ls = some w')
    (reply : I.Reply) (hover : ∀ k ∈ w'.tasks, k.work.result?.isSome = true) {n : Nat}
    (hn : ls.length ≤ n) (t : TaskId) : ¬ ((ofFollow h).world n).CanRun t := by
  intro hc
  obtain ⟨j, rfl⟩ := Nat.exists_eq_add_of_le hn
  obtain ⟨k, eng, hk, -, hres, -⟩ := run_isSome_iff.mp (hc reply)
  have hk : (play w ls (ls.length + j)).tasks[t]? = some k := hk
  rw [play_after h] at hk
  rw [hover k (List.mem_of_getElem? hk)] at hres
  cases hres

/-- A finite run after which all tasks are over is fair. -/
theorem fair_ofFollow {w w' : World V I} {ls : List (Label V I)} (h : w.follow ls = some w')
    (reply : I.Reply) (hover : ∀ k ∈ w'.tasks, k.work.result?.isSome = true) :
    (ofFollow h).Fair where
  runs n t hc := by
    -- No task can always take a step.
    exact absurd (hc (ls.length + n) (Nat.le_add_left ..))
      (not_canRun_ofFollow h reply hover (Nat.le_add_right ..) t)
  time d := by
    refine ⟨ls.length + d, ?_⟩
    show d ≤ (play w ls (ls.length + d)).now
    rw [play_after h]
    exact Nat.le_add_left ..

end Execution

end World

end ResourceFlow
