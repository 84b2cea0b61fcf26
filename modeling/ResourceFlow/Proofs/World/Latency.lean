import ResourceFlow.Proofs.World.GivingWay
/-! # How soon a flow ends after a cancel

  An execution is prompt for a flow if time does not pass its tasks by: no task
  is late for a time that it waits for, and none is kept waiting while it needs
  nothing (`World.Execution.Prompt`). How long calls take is left open.

  If a cancel of a flow is recorded while a task is inside a wait of it, the
  task ends the flow as cancelled: at once when it needs nothing
  (`World.Execution.ends_of_idle`), after the pause when it pauses
  (`World.Execution.ends_of_pausing`), and when its call is back after at most
  one more pause (`World.Execution.ends_of_callEnds`). The main result is
  `World.Execution.cancelled_in_time`.
-/

namespace ResourceFlow

variable {V : Vocabulary} {I : Interface} {polling : Polling} {r : ResourceId}

/-- The task is inside a wait. -/
def Work.InWait : Work V I → Prop
  | .process _ _ (.handling _ _ _ _ (.waiting _ _)) => True
  | .process _ _ (.acting _ _ _ _ (.waiting _ _)) => True
  | _ => False

theorem Work.inHand?_of_inWait {w : Work V I} (h : w.InWait) :
    ∃ lock p, w.inHand? = some (lock, p) := by
  unfold InWait at h
  split at h
  · exact ⟨_, _, rfl⟩
  · exact ⟨_, _, rfl⟩
  · exact absurd h id

/-- Whether a task at this work may rest until then: it waits for an answer, or for a time that is
    not over by then. -/
def Work.rests (w : Work V I) (later : Duration) : Bool :=
  match w.need with
  | .nothing => false
  | .answer _ => true
  | .time due => decide (later ≤ due)

/-- A task inside a wait that gives way to cancels of the resource is closing. -/
theorem Work.closing_of_inWait {d : Definition V I} {w : Work V I} {now : Duration}
    (h : w.InWait) (hgives : w.GivesWay d polling now)
    (hr : ∀ lock p, w.inHand? = some (lock, p) → p.resourceId = r)
    (hx : ∀ o f lock p x hd a, w = .process o f (.handling lock p x hd a) →
      x.resourceId = p.resourceId) : w.Closing d polling r now := by
  unfold InWait at h
  split at h
  · rw [← hr _ _ rfl, ← hx _ _ _ _ _ _ _ rfl]
    exact hgives
  · rw [← hr _ _ rfl]
    refine ⟨Bool.eq_false_iff.mpr fun hs => ?_, hgives.1⟩
    obtain ⟨res, hres⟩ := hgives.2 hs
    cases hres
  · exact absurd h id

/-! ### Steps of the task -/

namespace Desk.Move

variable {d : Definition V I} {D D' : Desk V I} {t : TaskId} {now later due : Duration}
  {reply : I.Reply} {w w' : Work V I} {lock : LockId} {p : FlowParameters}

/-- A step before the time that is waited for leaves the task as it is. -/
theorem unmoved_of_early (hm : Move D t now reply w D' w') (hneed : w.need = .time due)
    (hd : now < due) : w' = w := by
  cases hm with
  | handle => rw [Activity.step_early (m := D.moment now) hneed hd]
  | act => rw [Activity.step_early (m := D.moment now) hneed hd]
  | _ => cases hneed

/-- A task that needs something keeps its flow in hand. -/
theorem inHand?_of_busy (hm : Move D t now reply w D' w') (hneed : w.need ≠ .nothing) :
    w'.inHand? = w.inHand? := by
  cases hm with
  | handle | act => rfl
  | _ => exact absurd rfl hneed

/-- After the time that was waited for, the wait is over, if the resource is cancelled. -/
theorem over_of_late (hm : Move D t later reply w D' w') (h : w.Closing d polling r now)
    (hneed : w.need = .time due) (hd : due ≤ later) (hc : D.registry.isCancelled r = true) :
    w'.need = .nothing := by
  cases hm with
  | handle =>
    obtain ⟨res, hres⟩ := Activity.Closing.step_late (m := D.moment later) h hneed hd hc reply
    show Activity.need _ = _
    rw [hres]
    rfl
  | act =>
    obtain ⟨res, hres⟩ := h.2.step_late (m := D.moment later) hneed hd hc reply
    show Activity.need _ = _
    rw [hres]
    rfl
  | _ => cases hneed

/-- A task that needs nothing ends the flow, if the resource is cancelled, or is about to take an
    event. -/
theorem ends_or_ready (hm : Move D t now reply w D' w') (hin : w.inHand? = some (lock, p))
    (hc : D.registry.isCancelled p.resourceId = true) (hd : D.engine.definition = d)
    (h : w.Closing d polling r now) (hneed : w.need = .nothing) {f : FlowId} {i : Instance V}
    (hi : i.params = p) (hf : w.flow? = some f) :
    Ending D t f i w .cancelled ∨ ∃ o x, w' = .process o f (.ready lock p x) := by
  subst hi
  cases hm with
  | halt =>
    cases hin
    cases hf
    exact .inl (.halt hc)
  | lost hnot | hand hnot | refuse hnot | enter hnot =>
    cases hin
    rw [hc] at hnot
    cases hnot
  | handled | handlerFailed | acted | actionFailed =>
    cases hin
    cases hf
    exact .inr ⟨_, _, rfl⟩
  | handlerCancelled he =>
    cases hin
    cases hf
    exact .inl (.handler he)
  | actionCancelled he =>
    cases hin
    cases hf
    exact .inl (.action he)
  | handle hn | act hn =>
    obtain ⟨res, rfl⟩ := Activity.ended_of_need hneed
    exact absurd rfl (hn res)
  | completed _ hs =>
    rw [hd, h.1] at hs
    cases hs
  | parked => exact absurd (h.2 none rfl) nofun
  | _ => cases hin

end Desk.Move

namespace World

theorem Orderly.flow?_of_holds {w : World V I} (h : Orderly w) {t : TaskId} {k : Task V I}
    {e : EngineId} {f : FlowId} (hk : w.tasks[t]? = some k) (hold : k.Holds e f) :
    k.work.flow? = some f := by
  obtain ⟨-, lock, p, hin, rfl⟩ := hold
  exact h.flow?_of_inHand hk hin

namespace CancelRecorded

variable {w w' : World V I} {f : FlowId} {l : Label V I}

/-- The step that records a cancel is not one of a task that processes events. -/
theorem label_ne (hrec : CancelRecorded w w' r f) (hc : Change w l w') {t : TaskId}
    {k : Task V I} {g : FlowId} (hk : w.tasks[t]? = some k) (hf : k.work.flow? = some g)
    (reply : I.Reply) : l ≠ .run t reply := by
  rintro rfl
  obtain ⟨u, a, b, lock, ha, haw, hb, hbw⟩ := hrec
  have hu : t ≠ u := by
    rintro rfl
    rw [Option.some.inj (hk.symm.trans ha), haw] at hf
    cases hf
  -- A task that takes no step does not record anything.
  rw [task_of_change hc (fun reply' hl => hu (Label.run.inj hl).1) ha] at hb
  rw [← Option.some.inj hb, haw] at hbw
  cases hbw

/-- The task that records a cancel says nothing. -/
theorem said (hrec : CancelRecorded w w' r f) (hc : Change w l w') (e : EngineId) (g : FlowId) :
    w.said w' e g l = [] := by
  cases hc with
  | runs hr =>
    rw [hr.said, if_neg]
    rintro ⟨-, hown⟩
    exact hrec.label_ne (.runs hr) hr.hasTask hown _ rfl
  | _ => rfl

theorem now_eq (hrec : CancelRecorded w w' r f) (hc : Change w l w') : w'.now = w.now := by
  obtain ⟨t, reply, task, eng, d', lane, hr, -⟩ := hrec.runStep hc
  rw [hr.result]

end CancelRecorded

namespace Execution

variable {E : Execution V I} {engines : List (Definition V I × List (Handler V I) × Nat)}
  {d : Definition V I} {hs : List (Handler V I)} {retention c n m : Nat} {t : TaskId}
  {e : EngineId} {f : FlowId} {k : Task V I} {due : Duration}

/-! ### Prompt executions -/

/-- Time does not pass the tasks of the flow by: as far as it passes, each of them that can take a
    step may rest. -/
def Prompt (E : Execution V I) (f : FlowId) : Prop :=
  ∀ (n : Nat) (t : TaskId) (k : Task V I), (E.world n).now < (E.world (n + 1)).now →
    (E.world n).tasks[t]? = some k → k.work.flow? = some f → (E.world n).CanRun t →
    k.work.rests (E.world (n + 1)).now = true

/-- A finite run after which all tasks are over is prompt if time passes no task of the flow by in
    the course of it. -/
theorem prompt_ofFollow {w w' : World V I} {ls : List (Label V I)} (h : w.follow ls = some w')
    (reply : I.Reply) (hover : ∀ k ∈ w'.tasks, k.work.result?.isSome = true)
    (hrests : ∀ n, n < ls.length → (play w ls n).now < (play w ls (n + 1)).now →
      ∀ k ∈ (play w ls n).tasks, k.work.flow? = some f →
        k.work.rests (play w ls (n + 1)).now = true) : (ofFollow h).Prompt f := by
  intro n t k hlt hk hf hcan
  rcases Nat.lt_or_ge n ls.length with hn | hn
  · exact hrests n hn hlt k (List.mem_of_getElem? hk) hf
  · exact absurd hcan (not_canRun_ofFollow h reply hover hn t)

/-- As long as a task that waits for no answer takes no step, the time is not past the one that it
    waits for. -/
theorem Prompt.now_le (hp : E.Prompt f) (hq : ∀ n, Queues (E.world n))
    (hc : (E.world n).CanRun t) (hk : (E.world n).tasks[t]? = some k)
    (hf : k.work.flow? = some f) (hanswer : ∀ q, k.work.need ≠ .answer q)
    (hdue : ∀ later, k.work.need = .time later → later ≤ due) (hm : n ≤ m)
    (hno : ∀ j, n ≤ j → j < m → ∀ reply, E.label j ≠ .run t reply) :
    (E.world m).now ≤ max (E.world n).now due := by
  induction hm with
  | refl => exact Nat.le_max_left ..
  | @step m hm ih =>
    have hbefore : ∀ j, n ≤ j → j < m → ∀ reply, E.label j ≠ .run t reply :=
      fun j hj hjm => hno j hj (Nat.lt_succ_of_lt hjm)
    rcases Nat.lt_or_ge (E.world m).now (E.world (m + 1)).now with hlt | hge
    · obtain ⟨hcan, htask⟩ := stands_still hq hc hk hm hbefore
      have hrests := hp m t k hlt htask hf hcan
      unfold Work.rests at hrests
      split at hrests
      · cases hrests
      · rename_i q hneed
        exact absurd hneed (hanswer q)
      · rename_i later hneed
        exact Nat.le_trans (of_decide_eq_true hrests)
          (Nat.le_trans (hdue later hneed) (Nat.le_max_right ..))
    · exact Nat.le_trans hge (ih hbefore)

/-! ### Calls and ends -/

/-- The end of the call that task `t` waits for in step `n`, which is when it takes its next step;
    without such a call, the time of step `n`. -/
inductive CallEnds (E : Execution V I) (n : Nat) (t : TaskId) : Duration → Prop where
  /-- There is no call. -/
  | idle {k : Task V I} (hk : (E.world n).tasks[t]? = some k)
      (hn : ∀ q, k.work.need ≠ .answer q) : CallEnds E n t (E.world n).now
  /-- The call is answered in step `m`. -/
  | answered {k : Task V I} {q : I.Call} {m : Nat} {reply : I.Reply}
      (hk : (E.world n).tasks[t]? = some k) (hn : k.work.need = .answer q) (hm : n ≤ m)
      (hl : E.label m = .run t reply)
      (hfirst : ∀ j, n ≤ j → j < m → ∀ reply, E.label j ≠ .run t reply) :
      CallEnds E n t (E.world m).now

/-- After step `n` the call of a task that took no step is as it was, if no time has passed. -/
theorem CallEnds.later {back : Duration} (h : E.CallEnds n t back)
    (hl : ∀ reply, E.label n ≠ .run t reply) (hnow : (E.world (n + 1)).now = (E.world n).now) :
    E.CallEnds (n + 1) t back := by
  cases h with
  | idle hk hn =>
    rw [← hnow]
    exact .idle (task_of_change (E.change n) hl hk) hn
  | @answered k q m reply hk hn hm hlm hfirst =>
    have hlt : n < m := by
      refine Nat.lt_of_le_of_ne hm fun heq => ?_
      exact hl reply (heq ▸ hlm)
    exact .answered (task_of_change (E.change n) hl hk) hn hlt hlm
      fun j hj => hfirst j (Nat.le_of_succ_le hj)

/-- From step `n` on the flow ends, as cancelled and not later than at this time. -/
def EndsBy (E : Execution V I) (e : EngineId) (f : FlowId) (n : Nat) (latest : Duration) : Prop :=
  ∃ m i, n ≤ m ∧ E.EndsIn e f m i ∧ i.status = .cancelled ∧ (E.world m).now ≤ latest

theorem EndsBy.mono {latest later : Duration} (h : E.EndsBy e f m latest) (hm : n ≤ m)
    (hl : latest ≤ later) : E.EndsBy e f n later := by
  obtain ⟨j, i, hj, hends, hst, hnow⟩ := h
  exact ⟨j, i, Nat.le_trans hm hj, hends, hst, Nat.le_trans hnow hl⟩

/-! ### From the wait to the end -/

/-- In step `n` task `t`, which has flow `f` in hand, takes a step while the flow winds up. -/
structure Winds (E : Execution V I) (d : Definition V I) (polling : Polling) (r : ResourceId)
    (f : FlowId) (n : Nat) (t : TaskId) (reply : I.Reply) (k : Task V I) (eng : Engine V I)
    (d' : Desk V I) (work' : Work V I) (lock : LockId) (i : Instance V) : Prop where
  /-- The step. -/
  step : RunStep (E.world n) t reply (E.world (n + 1)) k eng d' work'
  /-- The definition of the flow. -/
  definition : eng.definition = d
  /-- What the task has in hand. -/
  inHand : k.work.inHand? = some (lock, i.params)
  /-- It is the flow whose events it processes. -/
  flow : k.work.flow? = some f
  /-- The flow is kept. -/
  kept : (E.world n).instance? k.engine f = some i
  /-- It runs. -/
  running : i.status = .running
  /-- Its resource is cancelled. -/
  cancelled : i.params.resourceId = r ∧ (E.world n).registry.isCancelled r = true
  /-- The task is inside the wait or past it. -/
  closing : k.work.Closing d polling r (E.world n).now

namespace Winds

variable {reply : I.Reply} {eng : Engine V I} {d' : Desk V I} {work' : Work V I} {lock : LockId}
  {i : Instance V}

theorem isCancelled (h : E.Winds d polling r f n t reply k eng d' work' lock i) :
    (E.world n).registry.isCancelled i.params.resourceId = true := by
  rw [h.cancelled.1]
  exact h.cancelled.2

theorem now_eq (h : E.Winds d polling r f n t reply k eng d' work' lock i) :
    (E.world (n + 1)).now = (E.world n).now := by
  rw [h.step.result]

/-- What the task is at after the step. -/
theorem task (h : E.Winds d polling r f n t reply k eng d' work' lock i) :
    (E.world (n + 1)).tasks[t]? = some { k with work := work' } :=
  (h.step.tasks t).trans (if_pos rfl)

/-- A task that needs something has the flow in hand after the step, too. -/
theorem holds (h : E.Winds d polling r f n t reply k eng d' work' lock i) (hold : k.Holds e f)
    (hneed : k.work.need ≠ .nothing) : Task.Holds { k with work := work' } e f := by
  obtain ⟨hke, lock, p, hin, hp⟩ := hold
  exact ⟨hke, lock, p, (h.step.move.inHand?_of_busy hneed).trans hin, hp⟩

/-- If the step ends the flow, the flow ends as cancelled. -/
theorem ends (h : E.Winds d polling r f n t reply k eng d' work' lock i)
    (ho : Orderly (E.world n)) (hl : E.label n = .run t reply)
    (hend : Desk.Ending ⟨(E.world n).registry, eng⟩ t f i k.work .cancelled) :
    E.EndsBy k.engine f n (E.world n).now :=
  ⟨n, _, Nat.le_refl _, endsIn_of_runStep hl h.step ho h.kept h.running hend,
    Instance.status_finish_of_running h.running .., Nat.le_refl _⟩

end Winds

section Winding

variable (h₀ : E.world 0 = initial engines) (he : engines[e]? = some (d, hs, retention))
  (hwind : ∀ n, c < n → Winding (E.world n) d polling r f)
include h₀ he hwind

/-- After the record, every step of the task that has the flow in hand is one. -/
theorem winds_of_holds (hn : c < n) (hk : (E.world n).tasks[t]? = some k) (hold : k.Holds e f)
    {reply : I.Reply} (hl : E.label n = .run t reply) :
    ∃ eng d' work' lock i, E.Winds d polling r f n t reply k eng d' work' lock i := by
  have ho := orderly h₀ n
  obtain ⟨eng, heng, hdef, -⟩ := engine h₀ he n
  obtain ⟨rfl, lock, p, hin, rfl⟩ := hold
  obtain ⟨i, hi, hst, rfl⟩ := running?_eq_some_iff.mp (ho.atWork t k lock p hk hin).1
  have hflow := ho.flow?_of_inHand hk hin
  have hc := E.change n
  rw [hl] at hc
  cases hc with
  | runs hr =>
    obtain rfl := Option.some.inj (hr.hasTask.symm.trans hk)
    obtain rfl := Option.some.inj (hr.hasEngine.symm.trans heng)
    exact ⟨_, _, _, lock, i, hr, hdef, hin, hflow, hi, hst,
      (hwind n hn).marked.isCancelled hk hin rfl, (hwind n hn).closing t _ hk hflow⟩

variable (hfair : E.Fair) (hprompt : E.Prompt f)
include hfair hprompt

/-- The first step of a task that waits for no answer is one, and comes in time. -/
theorem winds_in_time (hn : c < n) (hk : (E.world n).tasks[t]? = some k) (hold : k.Holds e f)
    (hanswer : ∀ q, k.work.need ≠ .answer q)
    (hdue : ∀ later, k.work.need = .time later → later ≤ due) :
    ∃ m reply eng d' work' lock i, n ≤ m ∧ E.label m = .run t reply ∧
      (E.world m).now ≤ max (E.world n).now due ∧
      E.Winds d polling r f m t reply k eng d' work' lock i := by
  have hq : ∀ n, Queues (E.world n) := fun n => (orderly h₀ n).queues
  have hcan := canRun_of_holds h₀ he hk hold
  have hflow := (orderly h₀ n).flow?_of_holds hk hold
  obtain ⟨m, reply, hm, hl, hfirst⟩ := hfair.first_step hq hcan hk
  have hkm := (stands_still hq hcan hk hm hfirst).2
  obtain ⟨eng, d', work', lock, i, hwinds⟩ :=
    winds_of_holds h₀ he hwind (Nat.lt_of_lt_of_le hn hm) hkm hold hl
  exact ⟨m, reply, eng, d', work', lock, i, hm, hl,
    hprompt.now_le hq hcan hk hflow hanswer hdue hm hfirst, hwinds⟩

/-- The first step of a task that needs nothing is one, and comes at once. -/
theorem winds_at_once (hn : c < n) (hk : (E.world n).tasks[t]? = some k) (hold : k.Holds e f)
    (hneed : k.work.need = .nothing) :
    ∃ m reply eng d' work' lock i, n ≤ m ∧ E.label m = .run t reply ∧
      (E.world m).now ≤ (E.world n).now ∧
      E.Winds d polling r f m t reply k eng d' work' lock i := by
  have hdue : ∀ later, k.work.need = .time later → later ≤ (E.world n).now := by
    intro later htime
    rw [hneed] at htime
    cases htime
  obtain ⟨m, reply, eng, d', work', lock, i, hm, hl, hnow, hwinds⟩ :=
    winds_in_time h₀ he hwind hfair hprompt hn hk hold (by rw [hneed]; exact nofun) hdue
  rw [Nat.max_self] at hnow
  exact ⟨m, reply, eng, d', work', lock, i, hm, hl, hnow, hwinds⟩

/-- A task that is about to take an event ends the flow as cancelled at once. -/
theorem ends_of_ready (hn : c < n) (hk : (E.world n).tasks[t]? = some k) (hold : k.Holds e f)
    {o : Origin} {g : FlowId} {lock : LockId} {p : FlowParameters} {x : V.Event}
    (hw : k.work = .process o g (.ready lock p x)) : E.EndsBy e f n (E.world n).now := by
  obtain ⟨m, reply, eng, d', work', lock', i, hm, hl, hnow, hwinds⟩ :=
    winds_at_once h₀ he hwind hfair hprompt hn hk hold (by rw [hw]; rfl)
  have hend : Desk.Ending ⟨(E.world m).registry, eng⟩ t f i k.work .cancelled := by
    have hin := hwinds.inHand
    have hflow := hwinds.flow
    rw [hw] at hin hflow ⊢
    cases hin
    cases hflow
    exact .halt hwinds.isCancelled
  rw [← hold.1]
  exact (hwinds.ends (orderly h₀ m) hl hend).mono hm hnow

/-- A task that needs nothing ends the flow as cancelled at once. -/
theorem ends_of_idle (hn : c < n) (hk : (E.world n).tasks[t]? = some k) (hold : k.Holds e f)
    (hneed : k.work.need = .nothing) : E.EndsBy e f n (E.world n).now := by
  obtain ⟨m, reply, eng, d', work', lock, i, hm, hl, hnow, hwinds⟩ :=
    winds_at_once h₀ he hwind hfair hprompt hn hk hold hneed
  rcases hwinds.step.move.ends_or_ready hwinds.inHand hwinds.isCancelled hwinds.definition
    hwinds.closing hneed rfl hwinds.flow with hend | ⟨o, x, rfl⟩
  · rw [← hold.1]
    exact (hwinds.ends (orderly h₀ m) hl hend).mono hm hnow
  · -- It is about to take the next event of the same flow.
    have hp : i.params.flow = f := (orderly h₀ m).flow_eq hwinds.step.hasTask hwinds.inHand
      hwinds.flow
    have hready := ends_of_ready h₀ he hwind hfair hprompt
      (Nat.lt_succ_of_lt (Nat.lt_of_lt_of_le hn hm)) hwinds.task
      ⟨hold.1, lock, i.params, rfl, hp⟩ rfl
    rw [hwinds.now_eq] at hready
    exact hready.mono (Nat.le_succ_of_le hm) hnow

/-- A task that pauses ends the flow as cancelled when the pause is over. -/
theorem ends_of_pausing (hn : c < n) (hk : (E.world n).tasks[t]? = some k) (hold : k.Holds e f)
    (hneed : k.work.need = .time due) : E.EndsBy e f n (max (E.world n).now due) := by
  obtain ⟨last, hlast⟩ := hfair.time due
  -- The induction is on the steps that are left until the time comes.
  induction hj : last - n using Nat.strongRecOn generalizing n with
  | ind j ih =>
    obtain ⟨m, reply, eng, d', work', lock, i, hm, hl, hnow, hwinds⟩ :=
      winds_in_time h₀ he hwind hfair hprompt hn hk hold (by rw [hneed]; exact nofun)
        (by rw [hneed]; rintro _ ⟨⟩; exact Nat.le_refl due)
    have hn' : c < m + 1 := Nat.lt_succ_of_lt (Nat.lt_of_lt_of_le hn hm)
    have hold' := hwinds.holds hold (by rw [hneed]; exact nofun)
    rcases Nat.lt_or_ge (E.world m).now due with hearly | hlate
    · -- A step before that time changes nothing.
      obtain rfl := hwinds.step.move.unmoved_of_early hneed hearly
      have hbefore : m < last := by
        refine Nat.lt_of_not_le fun hle => ?_
        exact Nat.not_lt.mpr (Nat.le_trans hlast (E.now_mono last m hle)) hearly
      refine (ih (last - (m + 1)) (by omega) hn' hwinds.task rfl).mono
        (Nat.le_succ_of_le hm) (Nat.max_le.mpr ⟨?_, Nat.le_max_right ..⟩)
      rw [hwinds.now_eq]
      exact hnow
    · have hover := hwinds.step.move.over_of_late hwinds.closing hneed hlate hwinds.cancelled.2
      have hends := ends_of_idle h₀ he hwind hfair hprompt hn' hwinds.task hold' hover
      rw [hwinds.now_eq] at hends
      exact hends.mono (Nat.le_succ_of_le hm) hnow

/-- A task that waits for no answer ends the flow as cancelled within the interval. -/
theorem ends_of_unasked (hn : c < n) (hk : (E.world n).tasks[t]? = some k) (hold : k.Holds e f)
    (hanswer : ∀ q, k.work.need ≠ .answer q) :
    E.EndsBy e f n ((E.world n).now + polling.interval) := by
  cases hneed : k.work.need with
  | nothing =>
    exact (ends_of_idle h₀ he hwind hfair hprompt hn hk hold hneed).mono (Nat.le_refl _)
      (Nat.le_add_right ..)
  | answer q => exact absurd hneed (hanswer q)
  | time due =>
    have hflow := (orderly h₀ n).flow?_of_holds hk hold
    have hdue := ((hwind n hn).closing t k hk hflow).due_le hneed
    exact (ends_of_pausing h₀ he hwind hfair hprompt hn hk hold hneed).mono (Nat.le_refl _)
      (Nat.max_le.mpr ⟨Nat.le_add_right .., hdue⟩)

/-- A task ends the flow as cancelled within the interval after its call is back. -/
theorem ends_of_callEnds (hn : c < n) (hk : (E.world n).tasks[t]? = some k) (hold : k.Holds e f)
    {back : Duration} (hback : E.CallEnds n t back) :
    E.EndsBy e f n (back + polling.interval) := by
  cases hback with
  | idle hk' hanswer =>
    obtain rfl := Option.some.inj (hk.symm.trans hk')
    exact ends_of_unasked h₀ he hwind hfair hprompt hn hk hold hanswer
  | @answered k' q m reply hk' hneed hm hl hfirst =>
    obtain rfl := Option.some.inj (hk.symm.trans hk')
    have hkm := (stands_still (fun n => (orderly h₀ n).queues) (canRun_of_holds h₀ he hk hold) hk
      hm hfirst).2
    have hm' : c < m := Nat.lt_of_lt_of_le hn hm
    obtain ⟨eng, d', work', lock, i, hwinds⟩ := winds_of_holds h₀ he hwind hm' hkm hold hl
    have hold' := hwinds.holds hold (by rw [hneed]; exact nofun)
    -- With the answer the attempt is over, and a further one is cancelled.
    have hanswer := ((hwind m hm').move hwinds.step hwinds.flow).2
    have hends := ends_of_unasked h₀ he hwind hfair hprompt (Nat.lt_succ_of_lt hm') hwinds.task
      hold' hanswer
    rw [hwinds.now_eq] at hends
    exact hends.mono (Nat.le_succ_of_le hm) (Nat.le_refl _)

end Winding

/-! ### When the cancel is recorded -/

section Recorded

variable (h₀ : E.world 0 = initial engines) (he : engines[e]? = some (d, hs, retention))
  (hb : d.Builds (.ofList hs)) (hno : ∀ n e' x, E.label n ≠ .dispatch e' f x)
include h₀ he hb hno

/-- If no event is delivered to the flow, handlers are called with events of its resource. -/
theorem resource_of_handling (hk : (E.world n).tasks[t]? = some k) (hke : k.engine = e)
    {o : Origin} {lock : LockId} {p : FlowParameters} {x : V.Event} {hd : Handler V I}
    {a : Activity I (Except ActionError V.Event)}
    (hw : k.work = .process o f (.handling lock p x hd a)) : x.resourceId = p.resourceId := by
  have hin : k.work.inHand? = some (lock, p) := by rw [hw]; rfl
  obtain rfl := (orderly h₀ n).flow_eq hk hin (by rw [hw]; rfl)
  obtain ⟨i, hi, -, rfl⟩ :=
    running?_eq_some_iff.mp ((orderly h₀ n).atWork t k lock p hk hin).1
  obtain ⟨m, y, -, hbegins, hy, -⟩ := stems_of_process h₀ he hb hk hke hw
  cases o with
  | started r =>
    obtain ⟨hr, hid, -⟩ := hbegins.params_eq h₀ rfl (hke ▸ hi)
    rw [hy.resourceId, hid, hr]
  | dispatched =>
    cases hbegins with
    | delivers hl => exact absurd hl (hno m e y)

variable (hd : d.GivesWay (.ofList hs) polling)
  (hrec : CancelRecorded (E.world c) (E.world (c + 1)) r f)
  (hk : (E.world c).tasks[t]? = some k) (hke : k.engine = e) (hflow : k.work.flow? = some f)
  (hwait : k.work.InWait)
include hd hrec hk hke hflow hwait

/-- After the record the flow winds up. -/
theorem winding_of_recorded (hn : c < n) : Winding (E.world n) d polling r f := by
  induction hn with
  | refl =>
    have hmark := Marked.of_recorded (orderly h₀ c) (E.change c) hrec
    have ho := hmark.orderly
    refine ⟨hmark, fun u b hb' hf => ?_⟩
    cases hin' : b.work.inHand? with
    | none => exact .of_inHand? hin'
    | some x =>
      -- The task inside the wait is the only one that has the flow in hand.
      have hk' := task_of_change (E.change c) (hrec.label_ne (E.change c) hk hflow) hk
      obtain ⟨lock, p, hin⟩ := Work.inHand?_of_inWait hwait
      obtain rfl : u = t := ho.holds_unique hb' hk'
        ⟨rfl, x.1, x.2, hin', ho.flow_eq hb' hin' hf⟩ ⟨rfl, lock, p, hin, ho.flow_eq hk' hin hflow⟩
      obtain rfl := Option.some.inj (hb'.symm.trans hk')
      refine Work.closing_of_inWait hwait (givesWay h₀ he hd hk' hke) ?_ ?_
      · intro lock p hin
        exact (hmark.isCancelled hk' hin (ho.flow_eq hk' hin hflow)).1
      · intro o g lock p x hd a hw
        obtain rfl : g = f := by
          rw [hw] at hflow
          exact Option.some.inj hflow
        exact resource_of_handling h₀ he hb hno hk hke hw
  | step _ ih => exact ih.change (E.change _)

end Recorded

/-! ### The main result -/

/-- What follows if a cancel of flow `f` at engine `e` is recorded in step `c`, while task `t` is
    inside a wait of it with this polling interval. -/
structure CancelledInTime (E : Execution V I) (e : EngineId) (f : FlowId) (t : TaskId) (c : Nat)
    (interval : Duration) : Prop where
  /-- The call that the wait is in the middle of then, if any, ends. -/
  returns : ∃ back, E.CallEnds c t back
  /-- The flow ends as cancelled within the interval, counted from the record or from the end of
      that call. -/
  ends : ∀ back, E.CallEnds c t back → E.EndsBy e f (c + 1) (max (E.world c).now back + interval)
  /-- From the record on, no call is made for the flow. -/
  silent : ∀ n, c ≤ n → ∀ e' time q,
    .asked time q ∉ (E.world n).said (E.world (n + 1)) e' f (E.label n)
  /-- From the record on, nothing is recorded of the flow. -/
  unrecorded : ∀ n, c ≤ n → ∀ e', (E.world n).records e' f = (E.world c).records e' f

/-- In fair executions the call that a task waits for ends. -/
theorem exists_callEnds (h₀ : E.world 0 = initial engines)
    (he : engines[e]? = some (d, hs, retention)) (hfair : E.Fair)
    (hk : (E.world n).tasks[t]? = some k) (hold : k.Holds e f) :
    ∃ back, E.CallEnds n t back := by
  by_cases hanswer : ∃ q, k.work.need = .answer q
  · obtain ⟨q, hq⟩ := hanswer
    obtain ⟨m, reply, hm, hl, hfirst⟩ := hfair.first_step (fun n => (orderly h₀ n).queues)
      (canRun_of_holds h₀ he hk hold) hk
    exact ⟨_, .answered hk hq hm hl hfirst⟩
  · exact ⟨_, .idle hk fun q hq => hanswer ⟨q, hq⟩⟩

/-- If a cancel of a flow is recorded while a task is inside a wait of it, the flow ends as
    cancelled within the polling interval after its call, if the definition gives way to cancels and
    builds its events, and no event is delivered to the flow. -/
theorem cancelled_in_time (h₀ : E.world 0 = initial engines)
    (he : engines[e]? = some (d, hs, retention)) (hb : d.Builds (.ofList hs))
    (hd : d.GivesWay (.ofList hs) polling) (hfair : E.Fair) (hprompt : E.Prompt f)
    (hno : ∀ n e' x, E.label n ≠ .dispatch e' f x)
    (hrec : CancelRecorded (E.world c) (E.world (c + 1)) r f)
    (hk : (E.world c).tasks[t]? = some k) (hke : k.engine = e) (hflow : k.work.flow? = some f)
    (hwait : k.work.InWait) : E.CancelledInTime e f t c polling.interval := by
  have hwind : ∀ n, c < n → Winding (E.world n) d polling r f :=
    fun n hn => winding_of_recorded h₀ he hb hno hd hrec hk hke hflow hwait hn
  have hold : k.Holds e f := by
    obtain ⟨lock, p, hin⟩ := Work.inHand?_of_inWait hwait
    exact ⟨hke, lock, p, hin, (orderly h₀ c).flow_eq hk hin hflow⟩
  have hl := hrec.label_ne (E.change c) hk hflow
  refine ⟨exists_callEnds h₀ he hfair hk hold, ?_, ?_, ?_⟩
  · intro back hback
    have hlater := hback.later hl (hrec.now_eq (E.change c))
    exact (ends_of_callEnds h₀ he hwind hfair hprompt (Nat.lt_succ_self c)
      (task_of_change (E.change c) hl hk) hold hlater).mono (Nat.le_refl _)
      (Nat.add_le_add_right (Nat.le_max_right ..) _)
  · intro n hn e' time q hasked
    rcases Nat.eq_or_lt_of_le hn with rfl | hlt
    · rw [hrec.said (E.change c)] at hasked
      cases hasked
    · exact (hwind n hlt).silent (E.change n) e' time q hasked
  · intro n hn e'
    induction hn with
    | refl => rfl
    | @step n hn ih =>
      refine Eq.trans ?_ ih
      rcases Nat.eq_or_lt_of_le hn with rfl | hlt
      · rw [records_of_change (orderly h₀ c) (E.change c),
          taken?_of_recorded (orderly h₀ c) (E.change c) hrec]
        exact List.append_nil _
      · exact (hwind n hlt).marked.records (E.change n) e'

end Execution

end World

end ResourceFlow
