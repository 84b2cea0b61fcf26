import ResourceFlow.Collaborator.Call
import ResourceFlow.Program.Run
/-! # Programs that do not tell answers apart

  Two programs go on alike (`Program.Resembles`) if they look at the same
  resources, make their calls and begin their waits at the same points, and
  end with related results, as long as they get related answers. What a
  program does after a wait depends on the time, so programs that wait are
  compared only where the times are the same, which the proposition `T` says.
  Then one step leaves such programs alike, whatever the times are if none of
  them waits (`Program.Resembles.run`, `Activity.Resembles.step`).

  For actions, the judgment is put together from their parts (`Action.Resembles`).
-/

namespace ResourceFlow

variable {I : Interface} {A : I.Reply → I.Reply → Prop} {T : Prop} {α β α' β' V : Type}

/-- The same error, or values that are related. -/
inductive Likewise {ε α β : Type} (R : α → β → Prop) : Except ε α → Except ε β → Prop where
  /-- Related values. -/
  | ok {a : α} {b : β} (h : R a b) : Likewise R (.ok a) (.ok b)
  /-- The same error. -/
  | error (e : ε) : Likewise R (.error e) (.error e)

/-- The procedures do the same, and end with the same, if their answers are related. -/
inductive Procedure.Resembles (A : I.Reply → I.Reply → Prop) :
    Procedure I α → Procedure I α → Prop where
  /-- Both end. -/
  | done (a : α) : Resembles A (.done a) (.done a)
  /-- Both make a call. -/
  | call {q q' : I.Call} {next : I.Answer q → Procedure I α} {next' : I.Answer q' → Procedure I α}
      (h : ∀ ρ ρ', A ρ ρ' → Resembles A (next (ρ q)) (next' (ρ' q'))) :
      Resembles A (.call q next) (.call q' next')
  /-- Both look at the same resource. -/
  | look {r : ResourceId} {next next' : Bool → Procedure I α}
      (h : ∀ b, Resembles A (next b) (next' b)) : Resembles A (.look r next) (.look r next')

/-- The waits have the same polling, are on the same resource, and do the same in each attempt. -/
structure Wait.Resembles (A : I.Reply → I.Reply → Prop) (w w' : Wait I V) : Prop where
  /-- Interval, time limit and error policy. -/
  polling : w'.polling = w.polling
  /-- The resource whose cancellation ends the wait. -/
  resource : w'.resource = w.resource
  /-- The attempts. -/
  attempt : ∀ k, (w.attempt k).Resembles A (w'.attempt k)

/-- The programs do the same, and end with related results, if their answers are related. They wait
    only if the times are the same. -/
inductive Program.Resembles (A : I.Reply → I.Reply → Prop) (T : Prop) (R : α → β → Prop) :
    Program I α → Program I β → Prop where
  /-- Both end. -/
  | done {a : α} {b : β} (h : R a b) : Resembles A T R (.done a) (.done b)
  /-- Both make a call. -/
  | call {q q' : I.Call} {next : I.Answer q → Program I α} {next' : I.Answer q' → Program I β}
      (h : ∀ ρ ρ', A ρ ρ' → Resembles A T R (next (ρ q)) (next' (ρ' q'))) :
      Resembles A T R (.call q next) (.call q' next')
  /-- Both look at the same resource. -/
  | look {r : ResourceId} {next : Bool → Program I α} {next' : Bool → Program I β}
      (h : ∀ b, Resembles A T R (next b) (next' b)) : Resembles A T R (.look r next) (.look r next')
  /-- Both wait. -/
  | wait {w w' : Wait I Unit} {next : Except PollError Unit → Program I α}
      {next' : Except PollError Unit → Program I β} (hT : T) (hw : w.Resembles A w')
      (h : ∀ o, Resembles A T R (next o) (next' o)) :
      Resembles A T R (.wait w next) (.wait w' next')

@[inherit_doc Wait.Resembles]
inductive Wait.Stage.Resembles (A : I.Reply → I.Reply → Prop) :
    Wait.Stage I V → Wait.Stage I V → Prop where
  /-- Both pause before the same attempt, equally long. -/
  | pausing (k : Nat) (due : Duration) : Resembles A (.pausing k due) (.pausing k due)
  /-- Both wait for the answer to a call in the same attempt. -/
  | calling (k : Nat) {q q' : I.Call} {next : I.Answer q → Procedure I (Except String (Attempt V))}
      {next' : I.Answer q' → Procedure I (Except String (Attempt V))}
      (h : ∀ ρ ρ', A ρ ρ' → (next (ρ q)).Resembles A (next' (ρ' q'))) :
      Resembles A (.calling k q next) (.calling k q' next')

@[inherit_doc Wait.Resembles]
structure Waiting.Resembles (A : I.Reply → I.Reply → Prop) (w w' : Waiting I V) : Prop where
  /-- The waits. -/
  wait : w.wait.Resembles A w'.wait
  /-- When they began. -/
  started : w'.started = w.started
  /-- Where they stand. -/
  stage : w.stage.Resembles A w'.stage

@[inherit_doc Program.Resembles]
inductive Activity.Resembles (A : I.Reply → I.Reply → Prop) (T : Prop) (R : α → β → Prop) :
    Activity I α → Activity I β → Prop where
  /-- Both have ended. -/
  | ended {a : α} {b : β} (h : R a b) : Resembles A T R (.ended a) (.ended b)
  /-- Both wait for the answer to a call. -/
  | calling {q q' : I.Call} {next : I.Answer q → Program I α}
      {next' : I.Answer q' → Program I β}
      (h : ∀ ρ ρ', A ρ ρ' → (next (ρ q)).Resembles A T R (next' (ρ' q'))) :
      Resembles A T R (.calling q next) (.calling q' next')
  /-- Both are inside a wait. -/
  | waiting {w w' : Waiting I Unit} {next : Except PollError Unit → Program I α}
      {next' : Except PollError Unit → Program I β} (hT : T) (hw : w.Resembles A w')
      (h : ∀ o, (next o).Resembles A T R (next' o)) :
      Resembles A T R (.waiting w next) (.waiting w' next')

/-! ### Running -/

/-- What steps of waits lead to. -/
inductive Waiting.Abreast (A : I.Reply → I.Reply → Prop) :
    Progress (Waiting I V) (Except PollError V) → Progress (Waiting I V) (Except PollError V) →
      Prop where
  /-- Both go on. -/
  | more {w w' : Waiting I V} (h : w.Resembles A w') : Abreast A (.more w) (.more w')
  /-- Both end, and with the same. -/
  | result (o : Except PollError V) : Abreast A (.result o) (.result o)

namespace Waiting.Resembles

variable {w w' : Waiting I V}

theorem goOn (hw : w.Resembles A w') (m : Moment) (k : Nat)
    {rest rest' : Procedure I (Except String (Attempt V))} (h : rest.Resembles A rest') :
    Abreast A (w.goOn m k rest) (w'.goOn m k rest') := by
  -- On what is left of the attempt, up to its next call.
  induction h with
  | done outcome =>
    unfold Waiting.goOn Procedure.run
    dsimp only
    rw [hw.started, hw.wait.polling]
    cases w.wait.polling.after (m.now - w.started) outcome with
    | stop o => exact .result o
    | pause d => exact .more ⟨hw.wait, rfl, .pausing _ _⟩
  | call h _ => exact .more ⟨hw.wait, hw.started, .calling k h⟩
  | look _ ih => exact ih _

theorem cycle (hw : w.Resembles A w') (m : Moment) (k : Nat) :
    Abreast A (w.cycle m k) (w'.cycle m k) := by
  unfold Waiting.cycle
  rw [hw.wait.resource]
  split
  · exact .result _
  · exact hw.goOn m k (hw.wait.attempt k)

theorem step (hw : w.Resembles A w') (m : Moment) {ρ ρ' : I.Reply} (hρ : A ρ ρ') :
    Abreast A (w.step m ρ) (w'.step m ρ') := by
  obtain ⟨wait, started, stage⟩ := w
  obtain ⟨wait', started', stage'⟩ := w'
  have hstage : stage.Resembles A stage' := hw.stage
  cases hstage with
  | pausing k due =>
    unfold Waiting.step
    dsimp only
    split
    · exact .more hw
    · exact hw.cycle m k
  | calling k h => exact hw.goOn m k (h ρ ρ' hρ)

end Waiting.Resembles

/-- Where a cancellation is noticed and the time is the same, the moment is. -/
theorem Moment.eq_of_eq {m m' : Moment} (hc : m'.cancelled = m.cancelled) (hn : m'.now = m.now) :
    m' = m := by
  obtain ⟨now, cancelled⟩ := m
  obtain ⟨now', cancelled'⟩ := m'
  cases hc
  cases hn
  rfl

theorem Program.Resembles.run {R : α → β → Prop} {p : Program I α} {p' : Program I β}
    (h : p.Resembles A T R p') {m m' : Moment} (hm : m'.cancelled = m.cancelled)
    (hnow : T → m'.now = m.now) : (p.run m).Resembles A T R (p'.run m') := by
  induction h with
  | done h => exact .ended h
  | call h _ => exact .calling h
  | @look r _ _ _ ih =>
    unfold Program.run
    rw [hm]
    exact ih _
  | @wait w w' _ _ hT hw h ih =>
    obtain rfl := Moment.eq_of_eq hm (hnow hT)
    have hbegun : Waiting.Resembles A (⟨w, m'.now, .pausing 0 m'.now⟩ : Waiting I Unit)
        ⟨w', m'.now, .pausing 0 m'.now⟩ := ⟨hw, rfl, .pausing 0 _⟩
    have hcycle := hbegun.cycle m' 0
    unfold Program.run Wait.begin
    generalize Waiting.cycle (⟨w, m'.now, .pausing 0 m'.now⟩ : Waiting I Unit) m' 0 = x at hcycle
    generalize Waiting.cycle (⟨w', m'.now, .pausing 0 m'.now⟩ : Waiting I Unit) m' 0 = x' at hcycle
    cases hcycle with
    | more hw => exact .waiting hT hw h
    | result o => exact ih o

theorem Activity.Resembles.step {R : α → β → Prop} {a : Activity I α} {a' : Activity I β}
    (h : a.Resembles A T R a') {m m' : Moment} (hm : m'.cancelled = m.cancelled)
    (hnow : T → m'.now = m.now) {ρ ρ' : I.Reply} (hρ : A ρ ρ') :
    (a.step m ρ).Resembles A T R (a'.step m' ρ') := by
  cases h with
  | ended h => exact .ended h
  | calling h => exact (h ρ ρ' hρ).run hm hnow
  | @waiting w w' _ _ hT hw h =>
    obtain rfl := Moment.eq_of_eq hm (hnow hT)
    have hstep := hw.step m' hρ
    unfold Activity.step
    dsimp only
    generalize w.step m' ρ = x at hstep
    generalize w'.step m' ρ' = x' at hstep
    cases hstep with
    | more hw => exact .waiting hT hw h
    | result o => exact (h o).run rfl fun _ => rfl

/-! ### Putting programs together -/

theorem Program.Resembles.mono {R S : α → β → Prop} {p : Program I α} {p' : Program I β}
    (h : p.Resembles A T R p') (hRS : ∀ a b, R a b → S a b) : p.Resembles A T S p' := by
  induction h with
  | done h => exact .done (hRS _ _ h)
  | call _ ih => exact .call ih
  | look _ ih => exact .look ih
  | wait hT hw _ ih => exact .wait hT hw ih

/-- One program after another. -/
theorem Program.Resembles.bind {R : α → β → Prop} {S : α' → β' → Prop} {p : Program I α}
    {p' : Program I β} {f : α → Program I α'} {f' : β → Program I β'} (h : p.Resembles A T R p')
    (hf : ∀ a b, R a b → (f a).Resembles A T S (f' b)) :
    (p >>= f).Resembles A T S (p' >>= f') := by
  induction h with
  | done h => exact hf _ _ h
  | call _ ih => exact .call fun ρ ρ' hρ => ih ρ ρ' hρ
  | look _ ih => exact .look fun b => ih b
  | wait hT hw _ ih => exact .wait hT hw fun o => ih o

namespace Action

variable {ε ε' : Type} {A : Collaborators.Reply → Collaborators.Reply → Prop}

/-- The actions do the same, and have related values or the same error. -/
def Resembles (A : Collaborators.Reply → Collaborators.Reply → Prop) (T : Prop) (R : α → β → Prop)
    (x : Action ε α) (x' : Action ε β) : Prop := x.run.Resembles A T (Likewise R) x'.run

theorem resembles_pure {R : α → β → Prop} {a : α} {b : β} (h : R a b) :
    Resembles A T R (pure a : Action ε α) (pure b) := .done (.ok h)

/-- One action after another: an error of the first is the outcome of both. -/
theorem Resembles.bind {R : α → β → Prop} {S : α' → β' → Prop} {x : Action ε α} {x' : Action ε β}
    {f : α → Action ε α'} {f' : β → Action ε β'} (h : Resembles A T R x x')
    (hf : ∀ a b, R a b → Resembles A T S (f a) (f' b)) : Resembles A T S (x >>= f) (x' >>= f') := by
  refine Program.Resembles.bind h ?_
  rintro _ _ (hr | e)
  · exact hf _ _ hr
  · exact .done (.error e)

/-- Calls whose failures are raised. -/
theorem resembles_orRaise {q q' : Call} {R : q.Value → q'.Value → Prop}
    {raise : CollaboratorError → ε}
    (h : ∀ ρ ρ' : Collaborators.Reply, A ρ ρ' →
      Likewise R (ρ q : Except CollaboratorError q.Value) (ρ' q')) :
    Resembles A T R (q.orRaise raise) (q'.orRaise raise) := by
  refine .call fun ρ ρ' hρ => .done ?_
  have hx := h ρ ρ' hρ
  generalize (ρ q : Except CollaboratorError q.Value) = x at hx
  generalize (ρ' q' : Except CollaboratorError q'.Value) = x' at hx
  cases hx with
  | ok hr => exact .ok hr
  | error e => exact .error _

/-- Actions whose errors are put into other words. -/
theorem resembles_adapt {R : α → β → Prop} {x : Action ε α} {x' : Action ε β}
    (h : Resembles A T R x x') (f : ε → ε') :
    Resembles A T R (ExceptT.adapt f x : Action ε' α) (ExceptT.adapt f x') := by
  refine Program.Resembles.bind h ?_
  rintro _ _ (hr | e)
  · exact .done (.ok hr)
  · exact .done (.error _)

end Action

end ResourceFlow
