import ResourceFlow.Proofs.World.Memory
import ResourceFlow.Proofs.World.Results
import ResourceFlow.Proofs.World.Targets
import ResourceFlow.Proofs.World.Turns
/-! # What a cancel answers

  A cancel of a resource comes to nothing if the engine does not run the flow
  that occupies the lane. Otherwise it waits for the lock of that flow, comes to
  hold it, and ends the flow, unless that has ended meanwhile.

  Only then it looks for the flow, to answer with a snapshot. The flow has been
  retired by that time, so the answer is a snapshot of it, with the status with
  which it ended, exactly if the engine still remembers it: fewer flows of the
  engine have ended after it than the engine keeps. The main result is
  `World.cancel_answers`. An engine that keeps none has forgotten the flow that
  the cancel itself has just ended (`World.cancel_forgets`).
-/

namespace ResourceFlow

variable {V : Vocabulary} {I : Interface}

/-- A cancel of a flow that the engine knows is recorded, and waits for the lock. -/
theorem Desk.work_of_owns {d : Desk V I} {r : ResourceId} {lane : Lane}
    (hl : d.registry.lanes.lane? r = some lane) (ho : d.engine.owns lane.flow = true) (t : TaskId)
    (now : Duration) (reply : I.Reply) :
    d.work t now reply (.cancel r .arriving) =
      some ({ d with registry := (d.registry.markCancelled r).askLock lane.lock t },
        .cancel r (.queued lane.lock lane.flow)) := by
  have hh : d.registry.lanes.holds r lane.flow = true := Lanes.holds_iff.mpr ⟨lane, hl, rfl⟩
  show some ((d.requestCancel t r).1, Work.cancel r (d.requestCancel t r).2) = _
  unfold requestCancel
  simp only [hl, ho, if_true, Registry.requestCancel, Registry.withHolder, hh]

namespace World

/-- A cancel of a flow that the engine knows waits for the lock after its first step. -/
theorem queued_of_run {w w' : World V I} {t : TaskId} {reply : I.Reply} {e : EngineId}
    {r : ResourceId} {lane : Lane} {i : Instance V} (hstep : w.run t reply = some w')
    (hk : w.tasks[t]? = some ⟨e, .cancel r .arriving⟩) (hl : w.lane? r = some lane)
    (hi : w.instance? e lane.flow = some i) :
    w'.tasks[t]? = some ⟨e, .cancel r (.queued lane.lock lane.flow)⟩ := by
  obtain ⟨eng, he, hi⟩ := instance?_eq_some_iff.mp hi
  have hd : w.desk? e = some ⟨w.registry, eng⟩ := by
    unfold desk?
    rw [he]
    rfl
  have hwork := Desk.work_of_owns (d := ⟨w.registry, eng⟩) hl
    (Option.isSome_iff_exists.mpr ⟨i, hi⟩) t w.now reply
  have hlt := (List.getElem?_eq_some_iff.mp hk).1
  unfold run at hstep
  rw [hk, Option.bind_eq_bind, Option.bind_some, hd, Option.bind_eq_bind, Option.bind_some,
    hwork] at hstep
  cases hstep
  exact List.getElem?_set_self hlt

namespace Execution

variable {E : Execution V I} {engines : List (Definition V I × List (Handler V I) × Nat)}
  {d : Definition V I} {hs : List (Handler V I)} {retention n m : Nat} {t : TaskId} {e : EngineId}
  {r : ResourceId} {lock : LockId} {f : FlowId} {told : Option (Snapshot V)}

/-- In step `m` task `t` tells whoever asked engine `e` to cancel the flow of resource `r`. -/
def Answers (E : Execution V I) (m : Nat) (t : TaskId) (e : EngineId) (r : ResourceId)
    (told : Option (Snapshot V)) : Prop :=
  (∃ reply, E.label m = .run t reply) ∧
    (E.world (m + 1)).tasks[t]? = some ⟨e, .cancel r (.over told)⟩

/-- A step of whoever has waited to cancel a flow is the last one. -/
theorem answer_of_step (h₀ : E.world 0 = initial engines) {reply : I.Reply} {eng : Engine V I}
    {d' : Desk V I} {work' : Work V I}
    (hr : RunStep (E.world m) t reply (E.world (m + 1)) ⟨e, .cancel r (.queued lock f)⟩ eng d'
      work') :
    (E.world (m + 1)).tasks[t]? = some ⟨e, .cancel r (.over ((E.world (m + 1)).get? e f))⟩ ∧
      (E.world (m + 1)).running? e f = none := by
  obtain ⟨rfl, hnone⟩ := hr.answers (orderly h₀ m) rfl
  exact ⟨(hr.tasks t).trans (if_pos rfl), hnone⟩

/-- Whoever waits to cancel a flow waits until it answers. -/
theorem queued_later (h₀ : E.world 0 = initial engines)
    (hk : (E.world n).tasks[t]? = some ⟨e, .cancel r (.queued lock f)⟩) (hm : n ≤ m) :
    (E.world m).tasks[t]? = some ⟨e, .cancel r (.queued lock f)⟩ ∨
      ∃ told, (E.world m).tasks[t]? = some ⟨e, .cancel r (.over told)⟩ := by
  induction hm with
  | refl => exact .inl hk
  | @step m _ ih =>
    by_cases hl : ∃ reply, E.label m = .run t reply
    · obtain ⟨reply, hl⟩ := hl
      have hc := E.change m
      rw [hl] at hc
      cases hc with
      | runs hr =>
        rcases ih with hk | ⟨told, hk⟩
        · obtain rfl := Option.some.inj (hr.hasTask.symm.trans hk)
          exact .inr ⟨_, (answer_of_step h₀ hr).1⟩
        · -- Whoever has answered takes no step.
          obtain rfl := Option.some.inj (hr.hasTask.symm.trans hk)
          exact nomatch hr.move
    · have hno : ∀ reply, E.label m ≠ .run t reply := fun reply h => hl ⟨reply, h⟩
      rcases ih with hk | ⟨told, hk⟩
      · exact .inl (task_of_change (E.change m) hno hk)
      · exact .inr ⟨told, task_of_change (E.change m) hno hk⟩

/-- Whoever answers for a flow that it waited to cancel takes the step that ends the wait. -/
theorem step_of_answers (h₀ : E.world 0 = initial engines)
    (hk : (E.world n).tasks[t]? = some ⟨e, .cancel r (.queued lock f)⟩) (hm : n ≤ m)
    (ha : E.Answers m t e r told) :
    told = (E.world (m + 1)).get? e f ∧ (E.world (m + 1)).running? e f = none := by
  obtain ⟨⟨reply, hl⟩, hover⟩ := ha
  have hc := E.change m
  rw [hl] at hc
  cases hc with
  | runs hr =>
    rcases queued_later h₀ hk hm with hk | ⟨told', hk⟩
    · obtain rfl := Option.some.inj (hr.hasTask.symm.trans hk)
      obtain ⟨htask, hnone⟩ := answer_of_step h₀ hr
      rw [hover] at htask
      cases htask
      exact ⟨rfl, hnone⟩
    · obtain rfl := Option.some.inj (hr.hasTask.symm.trans hk)
      exact nomatch hr.move

/-- From the first step on, whoever cancels a flow that runs waits for its lock. -/
theorem queued_of_call (h₀ : E.world 0 = initial engines) {reply : I.Reply} {lane : Lane}
    (hl : E.label n = .run t reply) (hk : (E.world n).tasks[t]? = some ⟨e, .cancel r .arriving⟩)
    (hlane : (E.world n).lane? r = some lane) (hrun : (E.world n).running? e lane.flow ≠ none) :
    (E.world (n + 1)).tasks[t]? = some ⟨e, .cancel r (.queued lane.lock lane.flow)⟩ ∧
      Marked (E.world (n + 1)) r lane.flow := by
  have hstep := E.step n
  rw [hl] at hstep
  obtain ⟨p, hp⟩ := Option.ne_none_iff_exists'.mp hrun
  obtain ⟨i, hi, -⟩ := running?_eq_some_iff.mp hp
  have hqueued := queued_of_run hstep hk hlane hi
  exact ⟨hqueued, .of_recorded (orderly h₀ n) (E.change n)
    ⟨t, _, _, _, hk, rfl, hqueued, rfl⟩⟩

/-- Whoever cancels a flow that runs gets an answer. -/
theorem answers_of_queued (hf : E.Fair) (h₀ : E.world 0 = initial engines)
    (hk : (E.world n).tasks[t]? = some ⟨e, .cancel r (.queued lock f)⟩)
    (hm : Marked (E.world n) r f) : ∃ m told, n ≤ m ∧ E.Answers m t e r told := by
  obtain ⟨i, hni, hh, hki⟩ := turn_comes hf h₀ hm hk rfl
  obtain ⟨m, reply, eng, d', work', him, hl, hr⟩ := step_of_holder hf h₀ hki rfl hh
  exact ⟨m, _, Nat.le_trans hni him, ⟨reply, hl⟩, (answer_of_step h₀ hr).1⟩

/-- A cancel that is issued to an engine that does not run the occupant comes to nothing. -/
theorem answers_of_idle (h₀ : E.world 0 = initial engines) {reply : I.Reply}
    (hl : E.label n = .run t reply) (hk : (E.world n).tasks[t]? = some ⟨e, .cancel r .arriving⟩)
    (hidle : ∀ lane, (E.world n).lane? r = some lane → (E.world n).running? e lane.flow = none) :
    E.Answers n t e r none := by
  refine ⟨⟨reply, hl⟩, ?_⟩
  have hc := E.change n
  rw [hl] at hc
  cases hc with
  | runs hr =>
    obtain rfl := Option.some.inj (hr.hasTask.symm.trans hk)
    rw [hr.tasks, if_pos rfl]
    have hmove := hr.move
    cases hmove with
    | nothing => rfl
    | request hlane _ =>
      cases ((orderly h₀ n).untouched_of_elsewhere hr rfl hlane (hidle _ hlane)).2

/-- A flow that has ended is remembered if fewer flows have ended after it than the engine keeps. -/
theorem remembered_iff (h₀ : E.world 0 = initial engines)
    (he : engines[e]? = some (d, hs, retention)) {before after : List FlowId}
    (hsplit : E.ended e n = before ++ f :: after) :
    ((E.world n).get? e f).isSome = true ↔ after.length < retention := by
  obtain ⟨eng, hw, hrem⟩ := remembers h₀ he n
  rw [hsplit] at hrem
  have howns := hrem.owns f
  rw [hrem.ended f (List.mem_append_right _ List.mem_cons_self),
    List.mem_rtake_iff hrem.nodup] at howns
  have hsome : ((E.world n).get? e f).isSome = eng.owns f := by
    unfold World.get?
    rw [hw]
    exact Option.isSome_map
  rw [hsome]
  simpa using howns

/-- Where a flow stands among those that have ended, in a step after which it does not run: last, if
    it ends in the step. -/
theorem ended_split (h₀ : E.world 0 = initial engines) (hr : (E.world n).running? e f ≠ none)
    (hm : n ≤ m) (hend : (E.world (m + 1)).running? e f = none) : ∃ before after,
      E.ended e (m + 1) = before ++ f :: after ∧
      ((E.world m).running? e f ≠ none → after = []) := by
  by_cases hrun : (E.world m).running? e f = none
  · have hmem := mem_ended h₀ hr (Nat.le_succ_of_le hm) hend
    obtain ⟨before, after, hsplit⟩ := List.append_of_mem hmem
    exact ⟨before, after, hsplit, fun h => absurd hrun h⟩
  · refine ⟨E.ended e m, [], ?_, fun _ => rfl⟩
    have hlast := (ended?_eq_some_iff (orderly h₀ m) (E.change m)).mpr ⟨hrun, hend⟩
    rw [ended, hlast]
    rfl

end Execution

/-! ### The main result -/

/-- Task `t` makes the first step of a cancel of resource `r` at engine `e` in step `n`. What it
    answers, where the engine keeps `retention` flows that have ended: -/
structure Execution.CancelAnswers (E : Execution V I) (e : EngineId) (retention n : Nat)
    (t : TaskId) (r : ResourceId) : Prop where
  /-- It comes to nothing at once if the engine does not run the occupant of the lane. -/
  idle : (∀ lane, (E.world n).lane? r = some lane → (E.world n).running? e lane.flow = none) →
    E.Answers n t e r none
  /-- If the engine runs the occupant, there is an answer some time. -/
  returns : ∀ lane, (E.world n).lane? r = some lane → (E.world n).running? e lane.flow ≠ none →
    E.Fair → ∃ m told, n < m ∧ E.Answers m t e r told
  /-- That answer is a snapshot of the flow, which has ended, if fewer flows of the engine have
      ended after it than the engine keeps. No flow has if the cancel itself ends the flow. -/
  answer : ∀ lane, (E.world n).lane? r = some lane → (E.world n).running? e lane.flow ≠ none →
    ∀ m told, n ≤ m → E.Answers m t e r told →
      (∀ s ∈ told, s.flow = lane.flow ∧ s.status.isTerminal = true) ∧
      ∃ before after, E.ended e (m + 1) = before ++ lane.flow :: after ∧
        (told.isSome = true ↔ after.length < retention) ∧
        ((E.world m).running? e lane.flow ≠ none → after = [])

/-- Whatever the engines, and in whatever order flows are started, events delivered and flows
    cancelled: a cancel of a flow that the engine runs answers with how the flow ended, unless the
    engine has forgotten it by then. -/
theorem cancel_answers {engines : List (Definition V I × List (Handler V I) × Nat)}
    {d : Definition V I} {hs : List (Handler V I)} {retention n : Nat} {E : Execution V I}
    {e : EngineId} {t : TaskId} {r : ResourceId} {reply : I.Reply}
    (h₀ : E.world 0 = initial engines) (he : engines[e]? = some (d, hs, retention))
    (hl : E.label n = .run t reply)
    (hk : (E.world n).tasks[t]? = some ⟨e, .cancel r .arriving⟩) :
    E.CancelAnswers e retention n t r where
  idle hidle := Execution.answers_of_idle h₀ hl hk hidle
  returns lane hlane hrun hf := by
    obtain ⟨hqueued, hmark⟩ := Execution.queued_of_call h₀ hl hk hlane hrun
    exact Execution.answers_of_queued hf h₀ hqueued hmark
  answer lane hlane hrun m told hm ha := by
    obtain ⟨hqueued, -⟩ := Execution.queued_of_call h₀ hl hk hlane hrun
    -- It has not answered yet after its first step.
    have hlt : n + 1 ≤ m := by
      refine Nat.lt_of_le_of_ne hm fun heq => ?_
      obtain ⟨-, hover⟩ := ha
      rw [← heq, hqueued] at hover
      cases hover
    obtain ⟨rfl, hend⟩ := Execution.step_of_answers h₀ hqueued hlt ha
    obtain ⟨before, after, hsplit, hlast⟩ := Execution.ended_split h₀ hrun hm hend
    refine ⟨?_, before, after, hsplit, ?_, hlast⟩
    · intro s hs
      obtain ⟨i, hi, rfl⟩ := get?_eq_some_iff.mp hs
      refine ⟨((Execution.orderly h₀ (m + 1)).keyed _ _ _ hi).1,
        FlowStatus.isTerminal_iff.mpr fun hrunning => ?_⟩
      rw [running?_eq_some_iff.mpr ⟨i, hi, hrunning, rfl⟩] at hend
      cases hend
    · exact Execution.remembered_iff h₀ he hsplit

/-- A flow parks, and its resource is cancelled twice. -/
def parkedCancelRun : List (Label CascadingDelete.vocabulary Collaborators) :=
  let run := fun t => .run t fun _ => .error default
  clearingStart :: List.replicate 4 (run 0) ++ [.cancel 0 7, run 1, run 1, .cancel 0 7, run 2]

/-- That run, after which only time passes, at an engine that keeps one flow that has ended. -/
def parkedCancel : Execution CascadingDelete.vocabulary Collaborators :=
  .ofFollow (show (initial (clearingEngines none)).follow parkedCancelRun =
    some (((initial (clearingEngines none)).follow parkedCancelRun).get rfl) from rfl)

/-- The first cancel ends the flow and answers with a snapshot of it; the second comes to
    nothing. -/
theorem cancel_answers_parked :
    (∃ m told, 6 < m ∧ parkedCancel.Answers m 1 0 7 told) ∧
    (∃ s, parkedCancel.Answers 7 1 0 7 (some s) ∧ s.flow = .opened 0 ∧ s.status.isTerminal = true) ∧
    parkedCancel.Answers 9 2 0 7 none := by
  have h₀ : parkedCancel.world 0 = initial (clearingEngines none) := rfl
  have hf : parkedCancel.Fair := Execution.fair_ofFollow _ (fun _ => .error default) (by decide)
  have hfirst := cancel_answers (n := 6) (t := 1) (r := 7) h₀ (e := 0) rfl rfl rfl
  have hsecond := cancel_answers (n := 9) (t := 2) (r := 7) h₀ (e := 0) rfl rfl rfl
  refine ⟨hfirst.returns _ rfl nofun hf, ⟨_, ⟨⟨_, rfl⟩, rfl⟩, ?_⟩, hsecond.idle nofun⟩
  exact (hfirst.answer _ rfl nofun 7 _ (by decide) ⟨⟨_, rfl⟩, rfl⟩).1 _ rfl

/-- Where no flow that has ended is kept, the same cancel is told that there was no flow, although
    the engine ran it when the cancel was called, and the cancel ended it. -/
theorem cancel_forgets : ∃ (E : Execution CascadingDelete.vocabulary Collaborators) (lane : Lane),
    E.world 0 = initial [(clearing none, [], 0)] ∧
    (E.world 6).tasks[1]? = some ⟨0, .cancel 7 .arriving⟩ ∧ (∃ reply, E.label 6 = .run 1 reply) ∧
    (E.world 6).lane? 7 = some lane ∧ (E.world 6).running? 0 lane.flow ≠ none ∧
    (E.world 7).running? 0 lane.flow ≠ none ∧ (E.world 8).running? 0 lane.flow = none ∧
    E.Answers 7 1 0 7 none :=
  ⟨.ofFollow (show (initial [(clearing none, [], 0)]).follow parkedCancelRun =
      some (((initial [(clearing none, [], 0)]).follow parkedCancelRun).get rfl) from rfl),
    _, rfl, rfl, ⟨_, rfl⟩, rfl, nofun, nofun, rfl, ⟨_, rfl⟩, rfl⟩

end World

end ResourceFlow
