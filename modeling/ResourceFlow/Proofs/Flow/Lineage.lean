import ResourceFlow.Collaborator.Call
import ResourceFlow.Flow.Definition
import ResourceFlow.Program.Run
/-! # Where events come from

  Events are built from one another, step by step (`Event.Step`). Whatever the
  steps, an event keeps the resource of the one that it stems from
  (`Event.StemsFrom`).

  A definition builds its events if every event that its actions and handlers
  can answer with, and every event that follows a failure, stems from the
  event at hand (`Definition.Builds`). What a program can answer with is what
  it ends with for some answers to its calls, whatever it sees when it looks
  and however its waits end (`Program.CanEnd`). Running leaves no more of that
  than there was before (`Program.CanEnd.of_run`, `Activity.CanEnd.of_step`).
-/

namespace ResourceFlow

/-! ### Building events -/

namespace Event

variable {Sel P : Type} {x y z : Event Sel P}

/-- A step in which an event is built from another one. -/
inductive Step (Sel P : Type) where
  /-- As the next event. -/
  | followUp (selector : Sel)
  /-- As the next event, with a new payload. -/
  | followUpWith (selector : Sel) (payload : P)
  /-- As the event that reports a failure. -/
  | failed (selector : Sel) (type : FailureType) (cause : String)
  /-- By the id of an operation that runs elsewhere. -/
  | withOperationId (operationId : String)

/-- The event that a step builds. -/
def apply (e : Event Sel P) : Step Sel P → Event Sel P
  | .followUp selector => e.followUp selector
  | .followUpWith selector payload => e.followUpWith selector payload
  | .failed selector type cause => e.failed selector type cause
  | .withOperationId operationId => e.withOperationId operationId

/-- The event that is built in steps, one after another. -/
def build (e : Event Sel P) (steps : List (Step Sel P)) : Event Sel P := steps.foldl apply e

theorem resourceId_apply (e : Event Sel P) (s : Step Sel P) :
    (e.apply s).resourceId = e.resourceId := by
  cases s <;> rfl

theorem resourceCrn_apply (e : Event Sel P) (s : Step Sel P) :
    (e.apply s).resourceCrn = e.resourceCrn := by
  cases s <;> rfl

/-- The event is built from another one, or is the same. -/
def StemsFrom (y x : Event Sel P) : Prop := ∃ steps, y = x.build steps

namespace StemsFrom

theorem refl (x : Event Sel P) : x.StemsFrom x := ⟨[], rfl⟩

theorem trans (h : z.StemsFrom y) (h' : y.StemsFrom x) : z.StemsFrom x := by
  obtain ⟨after, rfl⟩ := h
  obtain ⟨before, rfl⟩ := h'
  exact ⟨before ++ after, List.foldl_append.symm⟩

/-- What no step changes is still the same. -/
theorem preserves {α : Type} (h : y.StemsFrom x) (field : Event Sel P → α)
    (hstep : ∀ e s, field (apply e s) = field e) : field y = field x := by
  obtain ⟨steps, rfl⟩ := h
  induction steps generalizing x with
  | nil => rfl
  | cons s rest ih => exact ih.trans (hstep x s)

theorem resourceId (h : y.StemsFrom x) : y.resourceId = x.resourceId :=
  h.preserves Event.resourceId resourceId_apply

theorem resourceCrn (h : y.StemsFrom x) : y.resourceCrn = x.resourceCrn :=
  h.preserves Event.resourceCrn resourceCrn_apply

end StemsFrom

theorem stemsFrom_followUp (x : Event Sel P) (selector : Sel) :
    (x.followUp selector).StemsFrom x := ⟨[.followUp selector], rfl⟩

theorem stemsFrom_followUpWith (x : Event Sel P) (selector : Sel) (payload : P) :
    (x.followUpWith selector payload).StemsFrom x := ⟨[.followUpWith selector payload], rfl⟩

theorem stemsFrom_failed (x : Event Sel P) (selector : Sel) (type : FailureType) (cause : String) :
    (x.failed selector type cause).StemsFrom x := ⟨[.failed selector type cause], rfl⟩

theorem stemsFrom_withOperationId (x : Event Sel P) (operationId : String) :
    (x.withOperationId operationId).StemsFrom x := ⟨[.withOperationId operationId], rfl⟩

end Event

/-! ### What programs can end with -/

variable {I : Interface} {α β : Type}

/-- The program can end with this result. -/
def Program.CanEnd (a : α) : Program I α → Prop
  | .done b => b = a
  | .call _ next => ∃ x, (next x).CanEnd a
  | .look _ next => ∃ b, (next b).CanEnd a
  | .wait _ next => ∃ o, (next o).CanEnd a

/-- The program in progress can still end with this result. -/
def Activity.CanEnd (a : α) : Activity I α → Prop
  | .ended b => b = a
  | .calling _ next => ∃ x, (next x).CanEnd a
  | .waiting _ next => ∃ o, (next o).CanEnd a

theorem Program.CanEnd.of_run {p : Program I α} {m : Moment} {a : α} (h : (p.run m).CanEnd a) :
    p.CanEnd a := by
  -- On the program: a run stops at the first call or pause, and goes on after anything else.
  induction p with
  | done b => exact h
  | call q next ih => exact h
  | look r next ih => exact ⟨_, ih _ h⟩
  | wait w next ih =>
    unfold Program.run at h
    split at h
    · exact h
    · exact ⟨_, ih _ h⟩

theorem Activity.CanEnd.of_step {a : Activity I α} {m : Moment} {reply : I.Reply} {b : α}
    (h : (a.step m reply).CanEnd b) : a.CanEnd b := by
  cases a with
  | ended a => exact h
  | calling q next => exact ⟨_, .of_run h⟩
  | waiting w next =>
    unfold Activity.step at h
    dsimp only at h
    split at h
    · exact h
    · exact ⟨_, .of_run h⟩

/-- What comes of one program after another. -/
theorem Program.CanEnd.of_bind {p : Program I α} {f : α → Program I β} {b : β}
    (h : (p >>= f).CanEnd b) : ∃ a, p.CanEnd a ∧ (f a).CanEnd b := by
  induction p with
  | done a => exact ⟨a, rfl, h⟩
  | call q next ih | look r next ih | wait w next ih =>
    obtain ⟨x, hx⟩ := h
    obtain ⟨a, ha, hb⟩ := ih x hx
    exact ⟨a, ⟨x, ha⟩, hb⟩

/-- The value of an action is that of its last part. -/
theorem Action.canEnd_of_bind {ε : Type} {x : Action ε α} {f : α → Action ε β} {b : β}
    (h : (x >>= f).run.CanEnd (.ok b)) : ∃ a, (f a).run.CanEnd (.ok b) := by
  obtain ⟨r, -, hb⟩ := Program.CanEnd.of_bind (p := x.run) h
  -- An action that has failed goes on to nothing.
  cases r with
  | ok a => exact ⟨a, hb⟩
  | error e => cases hb

/-! ### Definitions that build their events -/

variable {V : Vocabulary}

/-- Whatever comes after an event of a flow of the definition is built from it. -/
structure Definition.Builds (d : Definition V I) (h : Dispatcher V I) : Prop where
  /-- An event that the action of a state answers with. -/
  action : ∀ s p x y, (d.execute s p x).CanEnd (.ok (some y)) → y.StemsFrom x
  /-- The event that follows when that action fails. -/
  failure : ∀ s p x error, (d.failureEvent s x (some p) error).StemsFrom x
  /-- The event that the handler of an event answers with. -/
  handler : ∀ x hd flow y, h.handler? x.selector = some hd → (hd.accept flow x).CanEnd (.ok y) →
    y.StemsFrom x
  /-- The event that follows when that handler fails. -/
  handlerFailure : ∀ x hd error, h.handler? x.selector = some hd →
    (hd.failureEvent error x).StemsFrom x

end ResourceFlow
