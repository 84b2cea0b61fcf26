import ResourceFlow.Proofs.Engine.Effects
/-! # How a flow ends

  `Desk.Ending` lists the steps that end a flow that has a transition for
  every event: a cancel that is noticed, and the action of a terminal state.
  Each step on the list ends the flow, with its instance finished and nothing
  else about it changed (`Desk.Ending.ended`). Steps for other flows leave its
  instance alone (`Desk.Move.instance?_ne`).
-/

namespace ResourceFlow

variable {V : Vocabulary} {I : Interface}

/-- A caller is told how the flow ended, or why it was not run: not that it waits for an event from
    outside, nor of an event without transition. -/
def Outcome.Settled : Outcome V → Prop
  | .ok s => s.status ≠ .running
  | .error (.illegalTransition ..) => False
  | .error _ => True

/-- What is reported is settled if the outcome is. -/
theorem Origin.settled_report {o : Origin} {flow : FlowId} {outcome : Outcome V}
    (h : Outcome.Settled outcome) : Outcome.Settled (o.report flow outcome) := by
  unfold report
  split
  · trivial
  · exact h

theorem Origin.settled_of_report {o o' : Origin} {flow f : FlowId} {outcome told : Outcome V}
    (h : Outcome.Settled outcome)
    (hw : (.process o f (.over (o.report flow outcome)) : Work V I) = .process o' f (.over told)) :
    Outcome.Settled told := by
  cases hw
  exact settled_report h

namespace Desk

/-! ### What ending a flow does to instances -/

/-- A flow that ends is finished, and perhaps forgotten at once. -/
theorem instance?_conclude_self {d : Desk V I} {p : FlowParameters} {i : Instance V}
    (hi : d.engine.instance? p.flow = some i) (hr : i.status = .running) (s : FlowStatus)
    (now : Duration) :
    (d.conclude p s now).engine.instance? p.flow = some (i.finish s now) ∨
      (d.engine.retention ≤ d.engine.retired.length ∧
        (d.conclude p s now).engine.instance? p.flow = none) := by
  have hfin : (d.engine.finish p.flow s now).instance? p.flow = some (i.finish s now) := by
    rw [Engine.instance?_finish, if_pos rfl, hi]
    rfl
  have hran : d.engine.isRunning p.flow = true := by
    rw [Engine.isRunning_eq, Engine.running?_of_instance? hi hr]
    rfl
  unfold conclude discharge
  dsimp only
  rw [if_pos hran]
  -- A full engine forgets what ended first, and that may be this flow.
  by_cases hroom : d.engine.retired.length < d.engine.retention
  · left
    rw [← hfin]
    exact Engine.instance?_retire_of_lt (e := d.engine.finish p.flow s now) hroom ..
  · rcases Engine.instance?_retire (d.engine.finish p.flow s now) p.flow p.flow with h | ⟨h, -⟩
    · exact .inl (h.trans hfin)
    · exact .inr ⟨Nat.le_of_not_lt hroom, h⟩

/-- A flow that has ended ends only once. -/
theorem instance?_conclude_of_ended {d : Desk V I} {p : FlowParameters} {i : Instance V}
    (hi : d.engine.instance? p.flow = some i) (hr : i.status ≠ .running) (s : FlowStatus)
    (now : Duration) : (d.conclude p s now).engine.instance? p.flow = some i := by
  have hran : d.engine.isRunning p.flow = false := by
    rw [Engine.isRunning_eq]
    simp [Engine.running?, hi, hr]
  unfold conclude discharge
  dsimp only
  rw [if_neg (by simp [hran])]
  show (d.engine.finish p.flow s now).instance? p.flow = some i
  rw [Engine.instance?_finish, if_pos rfl, hi, Option.map_some, Instance.finish_of_ended hr]

/-- How a flow in a terminal state is completed. -/
theorem complete_eq {d : Desk V I} {p : FlowParameters} {i : Instance V}
    (hi : d.engine.instance? p.flow = some i) (now : Duration) :
    d.complete p now = (d.conclude p (if i.failure.isSome then .failed else .finished) now,
      .ok (i.finish (if i.failure.isSome then .failed else .finished) now).snapshot) := by
  unfold complete
  rw [hi]

/-- A flow that ends leaves the instances of other flows alone, but may have retired ones
    forgotten. -/
theorem instance?_conclude_other {d : Desk V I} {p : FlowParameters} {f : FlowId} (hf : f ≠ p.flow)
    (s : FlowStatus) (now : Duration) :
    (d.conclude p s now).engine.instance? f = d.engine.instance? f ∨
      ((d.conclude p s now).engine.instance? f = none ∧ f ∈ d.engine.retired) := by
  have hfin : (d.engine.finish p.flow s now).instance? f = d.engine.instance? f := by
    rw [Engine.instance?_finish, if_neg hf]
  unfold conclude discharge
  dsimp only
  split
  · rcases Engine.instance?_retire (d.engine.finish p.flow s now) p.flow f with h | ⟨hn, h | h⟩
    · exact .inl (h.trans hfin)
    · exact absurd h hf
    · exact .inr ⟨hn, h⟩
  · exact .inl hfin

/-- A step of a task that has another flow in hand, or cancels another, leaves the instance of a
    flow alone, but may have it forgotten if it is retired. -/
theorem Move.instance?_other {d d' : Desk V I} {t : TaskId} {now : Duration} {reply : I.Reply}
    {w w' : Work V I} (h : Move d t now reply w d' w') {f : FlowId}
    (hin : ∀ lock p, w.inHand? = some (lock, p) → f ≠ p.flow)
    (hc : ∀ r lock g i, w = .cancel r (.queued lock g) → d.engine.instance? g = some i →
      f ≠ i.params.flow) :
    d'.engine.instance? f = d.engine.instance? f ∨
      (d'.engine.instance? f = none ∧ f ∈ d.engine.retired) := by
  -- Whatever a step does to instances, it does to that of the flow at hand.
  cases h with
  | halt _ | handlerCancelled _ | actionCancelled _ =>
    exact instance?_conclude_other (hin _ _ rfl) ..
  | finish _ hi => exact instance?_conclude_other (hc _ _ _ _ rfl hi) ..
  | enter _ _ _ _ => exact .inl (Engine.instance?_enter_ne _ _ _ (hin _ _ rfl))
  | @completed _ _ _ p _ _ _ _ _ =>
    show (d.complete p now).1.engine.instance? f = _ ∨
      ((d.complete p now).1.engine.instance? f = none ∧ _)
    unfold complete
    split
    · exact .inl rfl
    · exact instance?_conclude_other (hin _ _ rfl) ..
  | @refuse _ _ _ p event i _ _ _ _ =>
    have hf := hin _ _ rfl
    show (d.reject p i.state event now).1.engine.instance? f = _ ∨
      ((d.reject p i.state event now).1.engine.instance? f = none ∧ _)
    unfold reject
    dsimp only
    split
    · rcases instance?_conclude_other (V := V) (I := I) hf .failed now with h | h
      · refine .inl (h.trans ?_)
        rw [Engine.instance?_record, Engine.instance?_update, if_neg hf]
      · exact .inr h
    · exact .inl (by rw [Engine.instance?_update, if_neg hf])
  | _ => exact .inl rfl

@[inherit_doc Move.instance?_other]
theorem Move.instance?_ne {d d' : Desk V I} {t : TaskId} {now : Duration} {reply : I.Reply}
    {w w' : Work V I} (h : Move d t now reply w d' w') {f : FlowId}
    (hret : f ∉ d.engine.retired)
    (hin : ∀ lock p, w.inHand? = some (lock, p) → f ≠ p.flow)
    (hc : ∀ r lock g i, w = .cancel r (.queued lock g) → d.engine.instance? g = some i →
      f ≠ i.params.flow) : d'.engine.instance? f = d.engine.instance? f :=
  (h.instance?_other hin hc).resolve_right fun hf => hret hf.2

/-! ### The steps that end a flow -/

/-- The next step of a task that does this ends flow `f`, whose instance is `i`, with that
    status. -/
inductive Ending (d : Desk V I) (t : TaskId) (f : FlowId) (i : Instance V) :
    Work V I → FlowStatus → Prop where
  /-- A recorded cancel is noticed before an event is taken. -/
  | halt {o : Origin} {lock : LockId} {event : V.Event}
      (hc : d.registry.isCancelled i.params.resourceId = true) :
      Ending d t f i (.process o f (.ready lock i.params event)) .cancelled
  /-- A handler noticed a cancellation. -/
  | handler {o : Origin} {lock : LockId} {event : V.Event} {h : Handler V I} {e : ActionError}
      (he : e.isCancellation = true) :
      Ending d t f i (.process o f (.handling lock i.params event h (.ended (.error e)))) .cancelled
  /-- An action noticed a cancellation. -/
  | action {o : Origin} {lock : LockId} {event : V.Event} {s : V.State} {e : ActionError}
      (he : e.isCancellation = true) :
      Ending d t f i (.process o f (.acting lock i.params event s (.ended (.error e)))) .cancelled
  /-- The action of a terminal state has ended. -/
  | completed {o : Origin} {lock : LockId} {event : V.Event} {s : V.State} {r : ActionResult V}
      (hr : ∀ e, r = .error e → e.isCancellation = false)
      (hs : d.engine.definition.isTerminal s = true) :
      Ending d t f i (.process o f (.acting lock i.params event s (.ended r)))
        (if i.failure.isSome then .failed else .finished)
  /-- A cancel holds the lock. -/
  | cancel {r : ResourceId} {lock : LockId} (hh : d.registry.lanes.isHeldBy lock t = true) :
      Ending d t f i (.cancel r (.queued lock f)) .cancelled

namespace Ending

variable {d d' : Desk V I} {t : TaskId} {f : FlowId} {i : Instance V} {w w' : Work V I}
  {s : FlowStatus} {now : Duration} {reply : I.Reply}

theorem status_ne (h : Ending d t f i w s) : s ≠ .running := by
  cases h with
  | completed _ _ => split <;> exact nofun
  | _ => exact nofun

/-- A step on the list ends the flow: its instance is finished, perhaps forgotten at once, and the
    caller is told how it ended. -/
theorem ended (h : Ending d t f i w s) (hk : i.params.flow = f)
    (hi : d.engine.instance? f = some i) (hr : i.status = .running)
    (hm : Move d t now reply w d' w') :
    (d'.engine.instance? f = some (i.finish s now) ∨
      (d.engine.retention ≤ d.engine.retired.length ∧ d'.engine.instance? f = none)) ∧
    ∀ o outcome, w' = .process o f (.over outcome) → Outcome.Settled outcome := by
  subst hk
  have hcan : ∀ g r, Outcome.Settled (.error (.cancelled g r) : Outcome V) := fun _ _ => trivial
  cases h with
  | halt hc =>
    cases hm with
    | halt _ =>
      exact ⟨instance?_conclude_self hi hr .cancelled now,
        fun o outcome hw => Origin.settled_of_report (hcan _ _) hw⟩
    | lost hc' _ | hand hc' _ _ | refuse hc' _ _ _ | enter hc' _ _ _ =>
      rw [hc] at hc'
      cases hc'
  | handler he =>
    cases hm with
    | handlerCancelled _ =>
      exact ⟨instance?_conclude_self hi hr .cancelled now,
        fun o outcome hw => Origin.settled_of_report (hcan _ _) hw⟩
    | handlerFailed he' =>
      rw [he] at he'
      cases he'
    | handle hn => exact absurd rfl (hn _)
  | action he =>
    cases hm with
    | actionCancelled _ =>
      exact ⟨instance?_conclude_self hi hr .cancelled now,
        fun o outcome hw => Origin.settled_of_report (hcan _ _) hw⟩
    | actionFailed he' _ =>
      rw [he] at he'
      cases he'
    | completed hr' _ =>
      rw [hr' _ rfl] at he
      cases he
    | act hn => exact absurd rfl (hn _)
  | completed hr' hs =>
    cases hm with
    | completed _ _ =>
      rw [complete_eq hi now]
      refine ⟨instance?_conclude_self hi hr _ now, fun o outcome hw => ?_⟩
      refine Origin.settled_of_report ?_ hw
      show (i.finish _ now).status ≠ .running
      rw [Instance.status_finish_of_running hr]
      split <;> exact nofun
    | acted hs' | parked hs' | actionFailed _ hs' =>
      rw [hs] at hs'
      cases hs'
    | actionCancelled he =>
      rw [hr' _ rfl] at he
      cases he
    | act hn => exact absurd rfl (hn _)
  | cancel hh =>
    cases hm with
    | gone _ hi' =>
      rw [hi] at hi'
      cases hi'
    | finish _ hi' =>
      rw [hi] at hi'
      cases hi'
      exact ⟨instance?_conclude_self hi hr .cancelled now, fun o outcome ho => by cases ho⟩

end Ending

end Desk

end ResourceFlow
