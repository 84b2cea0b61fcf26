import ResourceFlow.Flow.Definition
import ResourceFlow.Proofs.Program.Ensures
/-! # Programs that stay within a resource

  A program stays within a resource if it looks whether that resource is
  cancelled, and waits on it, but nothing that it sees of others makes a
  difference. What such a program does depends on the time, on the answers to
  its calls and on that resource alone: at two moments that agree on these it
  takes the same step
  (`Activity.Within.step_eq`), and it stays within the resource
  (`Activity.Within.step`).

  For actions it is put together from their parts (`Action.Stays`).

  The flows of a definition are confined to a resource if their actions and
  handlers stay within it and answer with events of its flows, and if the
  events that follow failures are events of its flows
  (`Definition.Confined`). Which events these are is left open.
-/

namespace ResourceFlow

variable {I : Interface} {α β V : Type} {r : ResourceId}

/-! ### Within a resource -/

/-- The procedure looks at no other resource, or what it sees there makes no difference. -/
def Procedure.Within (r : ResourceId) : Procedure I α → Prop
  | .done _ => True
  | .call _ next => ∀ x, (next x).Within r
  | .look r' next => (r' = r ∨ next false = next true) ∧ ∀ b, (next b).Within r

/-- The wait is one on the resource, and for its attempts no other makes a difference. -/
structure Wait.Within (r : ResourceId) (w : Wait I V) : Prop where
  /-- The resource whose cancellation ends the wait. -/
  resource : w.resource = r
  /-- The attempts. -/
  attempt : ∀ k, (w.attempt k).Within r

/-- The program waits on no other resource, what it sees of others makes no difference, and its
    results are all ones of `Q`. -/
def Program.Within (r : ResourceId) (Q : α → Prop) : Program I α → Prop
  | .done a => Q a
  | .call _ next => ∀ x, (next x).Within r Q
  | .look r' next => (r' = r ∨ next false = next true) ∧ ∀ b, (next b).Within r Q
  | .wait w next => w.Within r ∧ ∀ o, (next o).Within r Q

/-- The wait in progress is one on the resource, and no other makes a difference. -/
structure Waiting.Within (r : ResourceId) (w : Waiting I V) : Prop where
  /-- The wait. -/
  wait : w.wait.Within r
  /-- The rest of the attempt that waits for an answer. -/
  rest : ∀ k q next, w.stage = .calling k q next → ∀ x, (next x).Within r

/-- The program in progress waits on no other resource, what it sees of others makes no difference,
    and the results still to come are all ones of `Q`. -/
def Activity.Within (r : ResourceId) (Q : α → Prop) : Activity I α → Prop
  | .ended a => Q a
  | .calling _ next => ∀ x, (next x).Within r Q
  | .waiting w next => w.Within r ∧ ∀ o, (next o).Within r Q

/-- The two moments have the same time and agree on the resource. -/
structure Moment.Agree (r : ResourceId) (m m' : Moment) : Prop where
  /-- It is the same time. -/
  now : m'.now = m.now
  /-- The resource is cancelled at both or at none. -/
  cancelled : m'.cancelled r = m.cancelled r

/-- What is done next at the two moments, after a look at a resource. -/
theorem Moment.Agree.seen {m m' : Moment} (hm : m.Agree r m') {r' : ResourceId} {next : Bool → α}
    (h : r' = r ∨ next false = next true) : next (m'.cancelled r') = next (m.cancelled r') := by
  rcases h with rfl | hsame
  · rw [hm.cancelled]
  · cases m'.cancelled r' <;> cases m.cancelled r' <;> simp only [hsame]

/-! ### Running -/

section Run

variable {m m' : Moment} {reply : I.Reply} {Q : α → Prop}

namespace Procedure.Within

variable {p : Procedure I α}

theorem run_eq (h : p.Within r) (hm : m.Agree r m') : p.run m' = p.run m := by
  induction p with
  | done a => rfl
  | call q next => rfl
  | look r' next ih =>
    unfold Procedure.run
    rw [hm.seen h.1]
    exact ih _ (h.2 _)

/-- What is left after a call stays within the resource. -/
theorem rest (h : p.Within r) {q : I.Call} {next : I.Answer q → Procedure I α}
    (hr : p.run m = .call q next) (x : I.Answer q) : (next x).Within r := by
  induction p with
  | done a => cases hr
  | call q next =>
    cases hr
    exact h x
  | look r' next ih => exact ih _ (h.2 _) hr

end Procedure.Within

namespace Waiting.Within

variable {w w' : Waiting I V} {k : Nat} {p : Procedure I (Except String (Attempt V))}

theorem goOn_eq (hp : p.Within r) (hm : m.Agree r m') : w.goOn m' k p = w.goOn m k p := by
  unfold Waiting.goOn
  rw [hp.run_eq hm, hm.now]

theorem goOn (h : w.Within r) (hp : p.Within r) (hw : w.goOn m k p = .more w') : w'.Within r := by
  unfold Waiting.goOn at hw
  split at hw
  · rename_i hrun
    cases hw
    refine ⟨h.wait, ?_⟩
    rintro _ _ _ ⟨⟩
    exact hp.rest hrun
  · split at hw
    · cases hw
    · cases hw
      exact ⟨h.wait, nofun⟩

theorem cycle_eq (h : w.Within r) (hm : m.Agree r m') : w.cycle m' k = w.cycle m k := by
  unfold Waiting.cycle
  rw [h.wait.resource, hm.cancelled, goOn_eq (h.wait.attempt k) hm]

theorem cycle (h : w.Within r) (hw : w.cycle m k = .more w') : w'.Within r := by
  unfold Waiting.cycle at hw
  split at hw
  · cases hw
  · exact h.goOn (h.wait.attempt k) hw

theorem step_eq (h : w.Within r) (hm : m.Agree r m') : w.step m' reply = w.step m reply := by
  unfold Waiting.step
  split
  · rw [hm.now, h.cycle_eq hm]
  · rename_i hs
    exact goOn_eq (h.rest _ _ _ hs _) hm

theorem step (h : w.Within r) (hw : w.step m reply = .more w') : w'.Within r := by
  unfold Waiting.step at hw
  split at hw
  · split at hw
    · cases hw
      exact h
    · exact h.cycle hw
  · rename_i hs
    exact h.goOn (h.rest _ _ _ hs _) hw

/-- A wait that begins. -/
theorem begun {w : Wait I V} (h : w.Within r) (m : Moment) :
    (⟨w, m.now, .pausing 0 m.now⟩ : Waiting I V).Within r :=
  ⟨h, nofun⟩

end Waiting.Within

theorem Wait.Within.begin_eq {w : Wait I V} (h : w.Within r) (hm : m.Agree r m') :
    w.begin m' = w.begin m := by
  unfold Wait.begin
  rw [hm.now]
  exact (Waiting.Within.begun h m).cycle_eq hm

namespace Program.Within

variable {p : Program I α}

/-- What a program does up to its next stop depends on the time and the resource only. -/
theorem run_eq (h : p.Within r Q) (hm : m.Agree r m') : p.run m' = p.run m := by
  induction p with
  | done a => rfl
  | call q next => rfl
  | look r' next ih =>
    unfold Program.run
    rw [hm.seen h.1]
    exact ih _ (h.2 _)
  | wait w next ih =>
    unfold Program.run
    rw [h.1.begin_eq hm]
    split
    · rfl
    · exact ih _ (h.2 _)

theorem run (h : p.Within r Q) (m : Moment) : (p.run m).Within r Q := by
  induction p with
  | done a => exact h
  | call q next => exact h
  | look r' next ih => exact ih _ (h.2 _)
  | wait w next ih =>
    unfold Program.run
    split
    · rename_i hw
      exact ⟨(Waiting.Within.begun h.1 m).cycle hw, h.2⟩
    · exact ih _ (h.2 _)

theorem mono {P : α → Prop} (h : p.Within r P) (hPQ : ∀ a, P a → Q a) : p.Within r Q := by
  induction p with
  | done a => exact hPQ a h
  | call q next ih => exact fun x => ih x (h x)
  | look r' next ih => exact ⟨h.1, fun b => ih b (h.2 b)⟩
  | wait w next ih => exact ⟨h.1, fun o => ih o (h.2 o)⟩

theorem bind {P : β → Prop} {f : α → Program I β} (h : p.Within r Q)
    (hf : ∀ a, Q a → (f a).Within r P) : (p >>= f).Within r P := by
  induction p with
  | done a => exact hf a h
  | call q next ih => exact fun x => ih x (h x)
  | look r' next ih =>
    refine ⟨h.1.imp_right fun hsame => ?_, fun b => ih b (h.2 b)⟩
    exact congrArg (Program.bind · f) hsame
  | wait w next ih => exact ⟨h.1, fun o => ih o (h.2 o)⟩

end Program.Within

namespace Activity.Within

variable {a : Activity I α}

/-- What a program in progress does next depends on the time, the answer to its call and the
    resource only. -/
theorem step_eq (h : a.Within r Q) (hm : m.Agree r m') : a.step m' reply = a.step m reply := by
  cases a with
  | ended a => rfl
  | calling q next => exact (h _).run_eq hm
  | waiting w next =>
    unfold Activity.step
    dsimp only
    rw [h.1.step_eq hm]
    split
    · rfl
    · exact (h.2 _).run_eq hm

theorem step (h : a.Within r Q) (m : Moment) (reply : I.Reply) : (a.step m reply).Within r Q := by
  cases a with
  | ended a => exact h
  | calling q next => exact (h _).run m
  | waiting w next =>
    unfold Activity.step
    dsimp only
    split
    · rename_i hw
      exact ⟨h.1.step hw, h.2⟩
    · exact (h.2 _).run m

end Activity.Within

end Run

/-! ### Actions -/

namespace Action

variable {ε ε' : Type} {P : α → Prop} {Q : β → Prop}

/-- The action stays within the resource, and every value that it can have is one of `P`. -/
def Stays (r : ResourceId) (P : α → Prop) (x : Action ε α) : Prop :=
  x.run.Within r fun res => ∀ a, res = .ok a → P a

theorem stays_pure {a : α} (h : P a) : Stays r P (pure a : Action ε α) := by
  rintro _ ⟨⟩
  exact h

theorem stays_throw (e : ε) : Stays r P (throw e : Action ε α) := by
  rintro _ ⟨⟩

theorem Stays.bind {x : Action ε α} {f : α → Action ε β} (h : Stays r P x)
    (hf : ∀ a, P a → Stays r Q (f a)) : Stays r Q (x >>= f) := by
  refine Program.Within.bind (p := x.run) h ?_
  intro res hr
  -- An action that has failed goes on to nothing.
  cases res with
  | ok a => exact hf a (hr a rfl)
  | error e => rintro _ ⟨⟩

theorem stays_ask (q : Call) : Stays r (fun _ => True) (q.ask : Action ε _) :=
  fun _ _ _ => trivial

theorem stays_orRaise (q : Call) (raise : CollaboratorError → ε) :
    Stays r (fun _ => True) (q.orRaise raise) :=
  fun _ _ _ => trivial

theorem stays_adapt {x : Action ε α} (h : Stays r P x) (f : ε → ε') :
    Stays r P (ExceptT.adapt f x : Action ε' α) := by
  refine Program.Within.bind (p := x.run) h ?_
  intro res hr a ha
  cases res with
  | ok b =>
    cases ha
    exact hr a rfl
  | error e => cases ha

theorem stays_wait {w : Wait Collaborators Unit} (h : w.Within r) :
    Stays r (fun _ => True) w.orFail :=
  ⟨h, fun _ _ _ => trivial⟩

end Action

/-! ### Definitions -/

/-- With `own` the events of the flows of resource `r`, the actions of a definition and its handlers
    stay within the resource, and what they answer with are events of its flows. -/
structure Definition.Confined {V : Vocabulary} {I : Interface} (d : Definition V I)
    (h : Dispatcher V I) (r : ResourceId) (own : V.Event → Prop) : Prop where
  /-- The actions of the states. -/
  execute : ∀ s p event, p.resourceId = r → own event →
    (d.execute s p event).Within r fun res => ∀ next, res = .ok (some next) → own next
  /-- The event that follows when an action failed. -/
  actionFails : ∀ s p event error, p.resourceId = r → own event →
    own (d.failureEvent s event (some p) error)
  /-- The handlers. -/
  accept : ∀ selector hd, h.handler? selector = some hd → ∀ f event, own event →
    (hd.accept f event).Within r fun res => ∀ next, res = .ok next → own next
  /-- The event that follows when a handler failed. -/
  handlerFails : ∀ selector hd, h.handler? selector = some hd → ∀ error event, own event →
    own (hd.failureEvent error event)

/-- An action that stays within the resource, as part of a definition. -/
theorem Definition.within_of_stays {V : Vocabulary} {r : ResourceId} {own : V.Event → Prop}
    {x : Action ActionError (Option V.Event)}
    (h : Action.Stays r (fun a => ∀ next, a = some next → own next) x) :
    x.run.Within r fun res => ∀ next, res = .ok (some next) → own next :=
  Program.Within.mono h fun _ hres next hn => hres _ hn next rfl

/-- An action without calls that may answer with an event of the resource. -/
theorem Action.stays_answer {V : Vocabulary} {r : ResourceId} {a : Option V.Event}
    (h : ∀ next, a = some next → next.resourceId = r) :
    Action.Stays r (fun a => ∀ next, a = some next → next.resourceId = r)
      (pure a : Action ActionError (Option V.Event)) :=
  Action.stays_pure h

/-- An action without calls that answers with no event. -/
theorem Action.stays_silent {V : Vocabulary} {r : ResourceId} :
    Action.Stays r (fun a => ∀ next, a = some next → next.resourceId = r)
      (pure none : Action ActionError (Option V.Event)) := by
  apply Action.stays_pure
  intro next hnext
  cases hnext

end ResourceFlow
