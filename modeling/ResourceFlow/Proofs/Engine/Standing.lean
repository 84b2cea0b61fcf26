import ResourceFlow.Proofs.Engine.Likeness
import ResourceFlow.Proofs.Engine.Taken
/-! # Where a run stands

  A run is told what happens to it by its inputs (`Input`): events come to it
  and are taken, actions and handlers return, a cancel ends it. Where it stands
  (`Standing`) follows from its inputs alone, given what its definition and
  handlers fix besides the work of actions and handlers (`Outline`):
  `Outline.course` replays the inputs of a run and tells which events were
  taken and where the run stands.

  A run that was parked and resumed by an event gets other inputs than one whose
  action returned the event. `Unparked` relates the two, for any number of
  parkings, and both have the same course (`Unparked.course_eq`).
-/

namespace ResourceFlow

variable {V : Vocabulary} {I : Interface}

/-! ### Outlines -/

/-- What a definition and its handlers fix, besides the work of actions and handlers. -/
structure Outline (V : Vocabulary) where
  /-- The state in which a run begins. -/
  initial : V.State
  /-- The state whose entry marks a run as failed. -/
  failedState : V.State
  /-- Whether reaching a state ends a run. -/
  isTerminal : V.State → Bool
  /-- The next state, if there is a transition. -/
  transition : V.State → V.Selector → Option V.State
  /-- The event that follows a failed action. -/
  actionFailure : V.State → V.Event → Option FlowParameters → ActionError → V.Event
  /-- The event that follows a failed handler, if there is one for a selector. -/
  handlerFailure? : V.Selector → Option (ActionError → V.Event → V.Event)

/-- The outline of a definition and its handlers. -/
def Definition.outline (d : Definition V I) (h : Dispatcher V I) : Outline V where
  initial := d.initial
  failedState := d.failedState
  isTerminal := d.isTerminal
  transition := d.transition
  actionFailure := d.failureEvent
  handlerFailure? s := (h.handler? s).map Handler.failureEvent

/-! ### Inputs and standings -/

/-- What happens to a run. -/
inductive Input (V : Vocabulary) where
  /-- It is opened, with these parameters. -/
  | opened (p : FlowParameters)
  /-- An event from outside comes to it: its task has got hold of the lane. -/
  | came (event : V.Event)
  /-- The event at hand is taken. -/
  | took
  /-- The event at hand is dropped, for a cancel is recorded. -/
  | dropped
  /-- A handler returned. -/
  | handled (result : HandlerResult V)
  /-- An action returned. -/
  | acted (result : ActionResult V)
  /-- A cancel ends it. -/
  | stopped

/-- Where a run stands. -/
inductive Standing (V : Vocabulary) where
  /-- It has not been opened. -/
  | unopened
  /-- It waits for an event from outside. -/
  | idle (run : Instance V)
  /-- An event is at hand. -/
  | hand (run : Instance V) (event : V.Event)
  /-- A handler that fails in this way is at work on an event. -/
  | handling (run : Instance V) (event : V.Event) (fails : ActionError → V.Event → V.Event)
  /-- The action of a state entered on an event is at work. -/
  | acting (run : Instance V) (event : V.Event) (s : V.State)
  /-- It has ended. -/
  | ended (run : Instance V)

/-- The run, once it is opened. -/
def Standing.run? : Standing V → Option (Instance V)
  | .unopened => none
  | .idle i | .hand i _ | .handling i _ _ | .acting i _ _ | .ended i => some i

namespace Outline

variable (o : Outline V)

/-- What becomes of an event that is taken. -/
def fate (i : Instance V) (event : V.Event) : Fate V :=
  match o.handlerFailure? event.selector with
  | some _ => .handed
  | none => (o.transition i.state event.selector).elim .refused .entered

/-- The run after it entered a state on an event. -/
def entered (i : Instance V) (s : V.State) (event : V.Event) : Instance V :=
  if s = o.failedState then
    { i.enter s with failure := some (event.failure.getD
        ⟨.unset, V.stateName s ++ " entered on " ++ V.selectorName event.selector⟩) }
  else i.enter s

/-- Where the run stands after it took an event. -/
def afterTaking (i : Instance V) (event : V.Event) : Standing V :=
  match o.handlerFailure? event.selector with
  | some fails => .handling i event fails
  | none =>
    match o.transition i.state event.selector with
    | some s => .acting (o.entered i s event) event s
    | none => .ended ((i.refused event).finish .failed 0)

/-- Where the run stands after a handler returned. -/
def afterHandler (i : Instance V) (event : V.Event) (fails : ActionError → V.Event → V.Event) :
    HandlerResult V → Standing V
  | .ok next => .hand i next
  | .error e => if e.isCancellation then .ended (i.finish .cancelled 0) else .hand i (fails e event)

/-- The run after it reached its end. -/
def completed (i : Instance V) : Instance V :=
  i.finish (if i.failure.isSome then .failed else .finished) 0

/-- Where the run stands after an action returned. -/
def afterAction (i : Instance V) (event : V.Event) (s : V.State) : ActionResult V → Standing V
  | .ok next =>
    if o.isTerminal s then .ended (completed i)
    else next.elim (.idle i) (.hand i)
  | .error e =>
    if e.isCancellation then .ended (i.finish .cancelled 0)
    else if o.isTerminal s then .ended (completed i)
    else .hand i (o.actionFailure s event (some i.params) e)

/-- Where a run stands after an input; none if the run cannot get it where it stands. -/
def next : Standing V → Input V → Option (Standing V)
  | .unopened, .opened p => some (.idle (.new p o.initial))
  | .idle i, .came event => some (.hand i event)
  | .idle i, .stopped => some (.ended (i.finish .cancelled 0))
  | .hand i event, .took => some (o.afterTaking i event)
  | .hand i _, .dropped => some (.ended (i.finish .cancelled 0))
  | .handling i event fails, .handled result => some (afterHandler i event fails result)
  | .acting i event s, .acted result => some (o.afterAction i event s result)
  | _, _ => none

/-- The event that is taken with an input. -/
def takes? : Standing V → Input V → Option (Taken V)
  | .hand i event, .took => some ⟨i, event, o.fate i event⟩
  | .hand i event, .dropped => some ⟨i, event, .dropped⟩
  | _, _ => none

end Outline

/-! ### Times aside -/

/-- An event that was taken, but for the time of the run's end. -/
def Taken.untimed (x : Taken V) : Taken V := { x with run := x.run.untimed }

@[simp] theorem Instance.state_untimed (i : Instance V) : i.untimed.state = i.state := rfl

@[simp] theorem Instance.failure_untimed (i : Instance V) : i.untimed.failure = i.failure := rfl

theorem Instance.untimed_finish_zero (i : Instance V) (s : FlowStatus) (now : Duration) :
    (i.finish s now).untimed = i.untimed.finish s 0 := by
  unfold finish
  show _ = if i.status.isTerminal then i.untimed
    else { i.untimed with status := s, finishedAt := some 0 }
  split <;> rfl

theorem Definition.untimed_entered (d : Definition V I) (h : Dispatcher V I) (i : Instance V)
    (s : V.State) (event : V.Event) :
    (d.entered i s event).untimed = (d.outline h).entered i.untimed s event := by
  unfold Definition.entered Outline.entered
  show _ = if s = d.failedState then _ else _
  split <;> rfl

namespace Taken

/-- What is recorded of an event does not depend on times. -/
theorem record?_untimed (x : Taken V) : x.untimed.record? = x.record? := rfl

/-- What depends on no times is the same for events that are the same but for times. -/
theorem filterMap_untimed {α : Type} {g : Taken V → Option α} (hg : ∀ x, g x.untimed = g x)
    {l l' : List (Taken V)} (h : l.map untimed = l'.map untimed) :
    l.filterMap g = l'.filterMap g := by
  have hmap : ∀ l : List (Taken V), (l.map untimed).filterMap g = l.filterMap g := by
    intro l
    rw [List.filterMap_map]
    congr 1
    funext x
    exact hg x
  rw [← hmap l, h, hmap]

end Taken

/-- A run goes from one standing to the next, with an input, if there is one, and the event that is
    taken, if any. -/
structure Outline.Passes (o : Outline V) (s : Standing V) (a : Option (Input V))
    (x : Option (Taken V)) (s' : Standing V) : Prop where
  /-- Without an input it stays where it stands. -/
  next : a.elim (some s) (o.next s) = some s'
  /-- Without an input nothing is taken. -/
  takes : x.map Taken.untimed = a.bind (o.takes? s)

/-! ### Courses -/

/-- How a run went. -/
structure Course (V : Vocabulary) where
  /-- The events that were taken. -/
  taken : List (Taken V) := []
  /-- Where it stands. -/
  standing : Standing V := .unopened

namespace Outline

/-- One more input. -/
def advance (o : Outline V) (c : Course V) (a : Input V) : Option (Course V) :=
  (o.next c.standing a).map fun s => ⟨c.taken ++ (o.takes? c.standing a).toList, s⟩

/-- How a run with these inputs went; none if there is no such run. -/
def course (o : Outline V) (l : List (Input V)) : Option (Course V) := l.foldlM o.advance {}

/-- The course is followed input by input. -/
theorem course_snoc (o : Outline V) (l : List (Input V)) (a : Input V) :
    o.course (l ++ [a]) = (o.course l).bind fun c => o.advance c a := by
  unfold course
  rw [List.foldlM_append]
  cases List.foldlM o.advance {} l with
  | none => rfl
  | some c =>
    show (o.advance c a).bind some = o.advance c a
    cases o.advance c a <;> rfl

/-- With its next input, if there is one, a run goes where it passes to. -/
theorem Passes.course {o : Outline V} {l : List (Input V)} {c : Course V} {a : Option (Input V)}
    {x : Option (Taken V)} {s' : Standing V} (h : o.Passes c.standing a x s')
    (hc : o.course l = some c) :
    o.course (l ++ a.toList) = some ⟨c.taken ++ (x.map Taken.untimed).toList, s'⟩ := by
  rw [h.takes]
  cases a with
  | none =>
    obtain rfl : c.standing = s' := Option.some.inj h.next
    simpa using hc
  | some a =>
    have hnext : o.next c.standing a = some s' := h.next
    rw [Option.toList_some, course_snoc, hc, Option.bind_some, advance, hnext]
    rfl

end Outline

/-! ### Without parkings -/

/-- The second run gets what the first does, but for parkings: where an action of the first returned
    without an event, and then an event came, the action of the second returned with that event. -/
inductive Unparked : List (Input V) → List (Input V) → Prop where
  /-- Both get nothing. -/
  | nil : Unparked [] []
  /-- Both get the same. -/
  | same (a : Input V) {l l' : List (Input V)} (h : Unparked l l') : Unparked (a :: l) (a :: l')
  /-- The first is parked and resumed. -/
  | resumed (event : V.Event) {l l' : List (Input V)} (h : Unparked l l') :
      Unparked (.acted (.ok none) :: .came event :: l) (.acted (.ok (some event)) :: l')

namespace Unparked

variable {l l' m m' : List (Input V)}

theorem refl : ∀ l : List (Input V), Unparked l l
  | [] => .nil
  | a :: l => .same a (refl l)

/-- What comes later may be parked and resumed, too. -/
theorem append (h : Unparked l l') (hm : Unparked m m') : Unparked (l ++ m) (l' ++ m') := by
  induction h with
  | nil => exact hm
  | same a _ ih => exact .same a ih
  | resumed event _ ih => exact .resumed event ih

/-- A run that is parked and resumed by an event stands where it would if the action had returned
    with the event. -/
theorem advance_eq {o : Outline V} {c c' : Course V} {event : V.Event}
    (h : ((o.advance c (.acted (.ok none))).bind fun c => o.advance c (.came event)) = some c') :
    o.advance c (.acted (.ok (some event))) = some c' := by
  obtain ⟨c₁, h₁, h₂⟩ := Option.bind_eq_some_iff.mp h
  obtain ⟨taken, standing⟩ := c
  -- Only an action that is at work returns.
  cases standing with
  | acting i e s =>
    unfold Outline.advance at h₁ h₂ ⊢
    simp only [Outline.next, Outline.afterAction, Option.map_some, Option.some.injEq] at h₁ ⊢
    subst h₁
    cases ht : o.isTerminal s with
    | true =>
      -- Nothing comes to a run that has ended.
      simp [ht, Outline.next] at h₂
    | false => simpa [ht, Outline.next, Outline.takes?] using h₂
  | _ => cases h₁

/-- Parkings are no part of the course of a run. -/
theorem course_eq (h : Unparked l l') {o : Outline V} {c : Course V} (hc : o.course l = some c) :
    o.course l' = some c := by
  unfold Outline.course at hc ⊢
  generalize ({} : Course V) = c₀ at hc ⊢
  induction h generalizing c₀ with
  | nil => exact hc
  | same a _ ih =>
    rw [List.foldlM_cons] at hc ⊢
    obtain ⟨c₁, h₁, hc⟩ := Option.bind_eq_some_iff.mp hc
    exact Option.bind_eq_some_iff.mpr ⟨c₁, h₁, ih c₁ hc⟩
  | resumed event _ ih =>
    rw [List.foldlM_cons] at hc
    obtain ⟨c₁, h₁, hc⟩ := Option.bind_eq_some_iff.mp hc
    rw [List.foldlM_cons] at hc
    obtain ⟨c₂, h₂, hc⟩ := Option.bind_eq_some_iff.mp hc
    rw [List.foldlM_cons]
    refine Option.bind_eq_some_iff.mpr ⟨c₂, advance_eq ?_, ih c₂ hc⟩
    exact Option.bind_eq_some_iff.mpr ⟨c₁, h₁, h₂⟩

end Unparked

/-! ### Steps of the task that has the run in hand -/

theorem Engine.isRunning_iff {e : Engine V I} {f : FlowId} :
    e.isRunning f = true ↔ ∃ i, e.instance? f = some i ∧ i.status = .running := by
  rw [Engine.isRunning_eq, Option.isSome_iff_exists]
  constructor
  · rintro ⟨p, hp⟩
    obtain ⟨i, hi, hr, -⟩ := Engine.running?_eq_some_iff.mp hp
    exact ⟨i, hi, hr⟩
  · rintro ⟨i, hi, hr⟩
    exact ⟨i.params, Engine.running?_of_instance? hi hr⟩

/-- What a task tells the run of a flow in its next step. -/
def Desk.input? (d : Desk V I) : Work V I → Option (FlowId × Input V)
  | .process _ f (.queued _ event) => if d.engine.isRunning f then some (f, .came event) else none
  | .process _ f (.ready _ p _) =>
    some (f, if d.registry.isCancelled p.resourceId then .dropped else .took)
  | .process _ f (.handling _ _ _ _ (.ended result)) => some (f, .handled result)
  | .process _ f (.acting _ _ _ _ (.ended result)) => some (f, .acted result)
  | .cancel _ (.queued _ f) => if d.engine.isRunning f then some (f, .stopped) else none
  | _ => none

/-- Where a run stands, for the task that has it in hand. -/
inductive Work.Doing (i : Instance V) : Work V I → Standing V → Prop where
  /-- The task is about to take an event. -/
  | ready {o : Origin} {f : FlowId} {lock : LockId} {event : V.Event} :
      Doing i (.process o f (.ready lock i.params event)) (.hand i.untimed event)
  /-- It is inside a handler. -/
  | handling {o : Origin} {f : FlowId} {lock : LockId} {event : V.Event} {h : Handler V I}
      {a : Activity I (HandlerResult V)} :
      Doing i (.process o f (.handling lock i.params event h a))
        (.handling i.untimed event h.failureEvent)
  /-- It is inside an action. -/
  | acting {o : Origin} {f : FlowId} {lock : LockId} {event : V.Event} {s : V.State}
      {a : Activity I (ActionResult V)} :
      Doing i (.process o f (.acting lock i.params event s a)) (.acting i.untimed event s)

/-- The run that somebody is at work on. -/
theorem Work.Doing.run?_eq {i : Instance V} {w : Work V I} {s : Standing V} (h : w.Doing i s) :
    s.run? = some i.untimed := by
  cases h <;> rfl

/-- Whoever is at work on a run has it in hand. -/
theorem Work.Doing.inHand? {i : Instance V} {w : Work V I} {s : Standing V} (h : w.Doing i s) :
    ∃ lock, w.inHand? = some (lock, i.params) := by
  cases h <;> exact ⟨_, rfl⟩

namespace Desk

/-- Where a run stands at a desk after a step of the task that had it in hand. -/
inductive Leaves (d : Desk V I) (f : FlowId) (work : Work V I) : Standing V → Prop where
  /-- The task still has it in hand. -/
  | held {i : Instance V} {s : Standing V} (hi : d.engine.instance? f = some i)
      (hr : i.status = .running) (hd : work.Doing i s) : Leaves d f work s
  /-- The task let go of it, and it waits for an event from outside. -/
  | parked {i : Instance V} (hi : d.engine.instance? f = some i) (hr : i.status = .running)
      (hw : work.inHand? = none) : Leaves d f work (.idle i.untimed)
  /-- It has ended, and is perhaps forgotten. -/
  | ended {i : Instance V} (hr : i.status ≠ .running)
      (hi : d.engine.instance? f = some i ∨ d.engine.instance? f = none) :
      Leaves d f work (.ended i.untimed)

variable {d d' : Desk V I} {t : TaskId} {now : Duration} {reply : I.Reply} {w w' : Work V I}
  {i : Instance V} {s : Standing V}

/-- A run that ends now stands where it ended. -/
theorem leaves_finish {D : Desk V I} {b : Prop} {status : FlowStatus} (hs : status ≠ .running)
    (hr : i.status = .running)
    (hi : D.engine.instance? i.params.flow = some (i.finish status now) ∨
      (b ∧ D.engine.instance? i.params.flow = none)) :
    D.Leaves i.params.flow w (.ended (i.untimed.finish status 0)) := by
  rw [← Instance.untimed_finish_zero i status now]
  refine .ended ?_ (hi.imp_right And.right)
  rw [Instance.status_finish_of_running hr]
  exact hs

/-- A step of a task makes of the run it has in hand what the outline says of the input. -/
def Passing (d : Desk V I) (now : Duration) (f : FlowId) (w : Work V I) (s : Standing V)
    (d' : Desk V I) (w' : Work V I) : Prop :=
  ∃ a s', d.input? w = a.map (fun a => (f, a)) ∧
    (d.engine.definition.outline d.engine.dispatcher).Passes s a (d.taken? now w) s' ∧
    d'.Leaves f w' s'

section Passing

variable {o : Origin} {lock : LockId} {event : V.Event}

theorem Move.passes_ready
    (h : Move d t now reply (.process o i.params.flow (.ready lock i.params event)) d' w')
    (hi : d.engine.instance? i.params.flow = some i) (hr : i.status = .running) :
    d.Passing now i.params.flow (.process o i.params.flow (.ready lock i.params event))
      (.hand i.untimed event) d' w' := by
  cases h with
  | halt hc =>
    refine ⟨some .dropped, _, by simp [input?, hc], ⟨rfl, ?_⟩,
      leaves_finish (by decide) hr (instance?_conclude_self hi hr .cancelled now)⟩
    rw [taken?_of_cancelled hc hi]
    rfl
  | lost hc hn =>
    rw [hi] at hn
    cases hn
  | @hand _ _ _ _ _ j hd hc hj hh =>
    obtain rfl := Option.some.inj (hi.symm.trans hj)
    refine ⟨some .took, .handling i.untimed _ hd.failureEvent, by simp [input?, hc], ⟨?_, ?_⟩,
      .held hi hr .handling⟩
    · simp [Outline.next, Outline.afterTaking, Definition.outline, hh]
    · rw [taken?_of_handler hc hi hh]
      simp [Outline.takes?, Outline.fate, Definition.outline, hh, Taken.untimed]
  | refuse hc hj hh ht =>
    obtain rfl := Option.some.inj (hi.symm.trans hj)
    refine ⟨some .took, .ended ((i.untimed.refused _).finish .failed 0), by simp [input?, hc],
      ⟨?_, ?_⟩,
      leaves_finish (i := i.refused _) (by decide) hr (instance?_reject_self hi hr _ now)⟩
    · simp [Outline.next, Outline.afterTaking, Definition.outline, hh, ht]
    · rw [taken?_of_refused hc hi hh ht]
      simp [Outline.takes?, Outline.fate, Definition.outline, hh, ht, Taken.untimed]
  | @enter _ _ _ _ _ _ s hc hj hh ht =>
    obtain rfl := Option.some.inj (hi.symm.trans hj)
    have hent := Engine.instance?_enter
      (e := d.engine.record (.ofEvent i.params i.state (some s) event)) hi s event
    refine ⟨some .took, .acting (d.engine.definition.entered i s event).untimed event s,
      by simp [input?, hc], ⟨?_, ?_⟩, .held hent ?_ ?_⟩
    · rw [Definition.untimed_entered d.engine.definition d.engine.dispatcher]
      simp [Outline.next, Outline.afterTaking, Definition.outline, hh, ht]
    · rw [taken?_of_transition hc hi hh ht]
      simp [Outline.takes?, Outline.fate, Definition.outline, hh, ht, Taken.untimed]
    · rw [Definition.status_entered]
      exact hr
    · rw [← Definition.params_entered d.engine.definition i s event]
      exact .acting

theorem Move.passes_handling {hdl : Handler V I} {a : Activity I (HandlerResult V)}
    (h : Move d t now reply (.process o i.params.flow (.handling lock i.params event hdl a)) d' w')
    (hi : d.engine.instance? i.params.flow = some i) (hr : i.status = .running) :
    d.Passing now i.params.flow (.process o i.params.flow (.handling lock i.params event hdl a))
      (.handling i.untimed event hdl.failureEvent) d' w' := by
  cases h with
  | handle hn =>
    refine ⟨none, _, ?_, ⟨rfl, rfl⟩, .held hi hr .handling⟩
    cases a with
    | ended r => exact absurd rfl (hn r)
    | _ => rfl
  | handled => exact ⟨some (.handled _), _, rfl, ⟨rfl, rfl⟩, .held hi hr .ready⟩
  | handlerFailed he =>
    refine ⟨some (.handled _), .hand i.untimed _, rfl, ⟨?_, rfl⟩, .held hi hr .ready⟩
    simp [Outline.next, Outline.afterHandler, he]
  | handlerCancelled he =>
    refine ⟨some (.handled _), .ended (i.untimed.finish .cancelled 0), rfl, ⟨?_, rfl⟩,
      leaves_finish (by decide) hr (instance?_conclude_self hi hr .cancelled now)⟩
    simp [Outline.next, Outline.afterHandler, he]

theorem Move.passes_acting {s : V.State} {a : Activity I (ActionResult V)}
    (h : Move d t now reply (.process o i.params.flow (.acting lock i.params event s a)) d' w')
    (hi : d.engine.instance? i.params.flow = some i) (hr : i.status = .running) :
    d.Passing now i.params.flow (.process o i.params.flow (.acting lock i.params event s a))
      (.acting i.untimed event s) d' w' := by
  cases h with
  | act hn =>
    refine ⟨none, _, ?_, ⟨rfl, rfl⟩, .held hi hr .acting⟩
    cases a with
    | ended r => exact absurd rfl (hn r)
    | _ => rfl
  | acted hs =>
    refine ⟨some (.acted _), .hand i.untimed _, rfl, ⟨?_, rfl⟩, .held hi hr .ready⟩
    simp [Outline.next, Outline.afterAction, Definition.outline, hs]
  | actionFailed he hs =>
    refine ⟨some (.acted _), .hand i.untimed _, rfl, ⟨?_, rfl⟩, .held hi hr .ready⟩
    simp [Outline.next, Outline.afterAction, Definition.outline, he, hs, Instance.untimed]
  | @completed _ _ _ _ _ _ r hr' hs =>
    have heq := congrArg (·.1.engine.instance? i.params.flow) (complete_eq hi now)
    refine ⟨some (.acted r), .ended (Outline.completed i.untimed), rfl, ⟨?_, rfl⟩,
      leaves_finish ?_ hr ((instance?_conclude_self hi hr _ now).imp heq.trans
        fun hn => ⟨hn.1, heq.trans hn.2⟩)⟩
    · cases r with
      | ok next => simp [Outline.next, Outline.afterAction, Definition.outline, hs]
      | error e => simp [Outline.next, Outline.afterAction, Definition.outline, hs, hr' e rfl]
    · split <;> decide
  | parked hs =>
    refine ⟨some (.acted _), .idle i.untimed, rfl, ⟨?_, rfl⟩, .parked hi hr rfl⟩
    simp [Outline.next, Outline.afterAction, Definition.outline, hs]
  | actionCancelled he =>
    refine ⟨some (.acted _), .ended (i.untimed.finish .cancelled 0), rfl, ⟨?_, rfl⟩,
      leaves_finish (by decide) hr (instance?_conclude_self hi hr .cancelled now)⟩
    simp [Outline.next, Outline.afterAction, he]

/-- What a step of the task that has a run in hand makes of the run, is what the outline says of the
    input. -/
theorem Move.passes (h : Move d t now reply w d' w') (hd : w.Doing i s)
    (hi : d.engine.instance? i.params.flow = some i) (hr : i.status = .running) {l : LockId}
    (hst : w.stake? = some (l, i.params.flow)) : d.Passing now i.params.flow w s d' w' := by
  cases hd with
  | ready =>
    obtain ⟨rfl, rfl⟩ := Prod.mk.inj (Option.some.inj hst)
    exact h.passes_ready hi hr
  | handling =>
    obtain ⟨rfl, rfl⟩ := Prod.mk.inj (Option.some.inj hst)
    exact h.passes_handling hi hr
  | acting =>
    obtain ⟨rfl, rfl⟩ := Prod.mk.inj (Option.some.inj hst)
    exact h.passes_acting hi hr

end Passing

end Desk

end ResourceFlow
