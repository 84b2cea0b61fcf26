import ResourceFlow.Collaborator.Call
import ResourceFlow.Program.Run
/-! # What programs come to

  `Program.Ensures` says something of every result that a program can have,
  whatever is answered to its calls and however its waits end, and that each
  of its waits pauses between attempts. Running keeps it
  (`Program.Ensures.run`, `Activity.Ensures.step`), and for actions it is put
  together from their parts (`Action.Yields`).

  A program in progress ends (`Activity.Carried.eventually_ended`), whatever
  its waits: it is finite but for them, each attempt of a wait is finite, and
  time goes on, until the time limit of the wait is over.
-/

namespace ResourceFlow

variable {I : Interface} {α β : Type}

/-! ### Results -/

namespace Program

/-- Every result is one of `Q`, and the waits pause between attempts. -/
def Ensures (Q : α → Prop) : Program I α → Prop
  | .done a => Q a
  | .call _ next => ∀ x, (next x).Ensures Q
  | .look _ next => ∀ b, (next b).Ensures Q
  | .wait w next => 0 < w.polling.interval ∧ ∀ o, (next o).Ensures Q

theorem Ensures.mono {P Q : α → Prop} {p : Program I α} (h : p.Ensures P)
    (hPQ : ∀ a, P a → Q a) : p.Ensures Q := by
  induction p with
  | done a => exact hPQ a h
  | call q next ih => exact fun x => ih x (h x)
  | look r next ih => exact fun b => ih b (h b)
  | wait w next ih => exact ⟨h.1, fun o => ih o (h.2 o)⟩

theorem Ensures.bind {P : α → Prop} {Q : β → Prop} {p : Program I α} {f : α → Program I β}
    (h : p.Ensures P) (hf : ∀ a, P a → (f a).Ensures Q) : (p >>= f).Ensures Q := by
  induction p with
  | done a => exact hf a h
  | call q next ih => exact fun x => ih x (h x)
  | look r next ih => exact fun b => ih b (h b)
  | wait w next ih => exact ⟨h.1, fun o => ih o (h.2 o)⟩

end Program

/-- Every result that is still to come is one of `Q`, and the waits pause between attempts. -/
def Activity.Ensures (Q : α → Prop) : Activity I α → Prop
  | .ended a => Q a
  | .calling _ next => ∀ x, (next x).Ensures Q
  | .waiting w next => 0 < w.wait.polling.interval ∧ ∀ o, (next o).Ensures Q

/-- A wait in progress stays the wait that it is. -/
theorem Waiting.wait_goOn {V : Type} {w w' : Waiting I V} {m : Moment} {k : Nat}
    {rest : Procedure I (Except String (Attempt V))} (h : w.goOn m k rest = .more w') :
    w'.wait = w.wait := by
  unfold goOn at h
  split at h
  · cases h; rfl
  · split at h
    · cases h
    · cases h; rfl

@[inherit_doc Waiting.wait_goOn]
theorem Waiting.wait_cycle {V : Type} {w w' : Waiting I V} {m : Moment} {k : Nat}
    (h : w.cycle m k = .more w') : w'.wait = w.wait := by
  unfold cycle at h
  split at h
  · cases h
  · exact wait_goOn h

@[inherit_doc Waiting.wait_goOn]
theorem Waiting.wait_step {V : Type} {w w' : Waiting I V} {m : Moment} {reply : I.Reply}
    (h : w.step m reply = .more w') : w'.wait = w.wait := by
  unfold step at h
  split at h
  · split at h
    · cases h; rfl
    · exact wait_cycle h
  · exact wait_goOn h

theorem Program.Ensures.run {Q : α → Prop} {p : Program I α} (h : p.Ensures Q) (m : Moment) :
    (p.run m).Ensures Q := by
  -- On the program: a run stops at the first call or pause, and goes on after anything else.
  induction p with
  | done a => exact h
  | call q next ih => exact h
  | look r next ih => exact ih _ (h _)
  | wait w next ih =>
    unfold Program.run
    cases hb : w.begin m with
    | more w' =>
      have hw : w'.wait = w := Waiting.wait_cycle hb
      refine ⟨?_, h.2⟩
      rw [hw]
      exact h.1
    | result o => exact ih o (h.2 o)

theorem Activity.Ensures.step {Q : α → Prop} {a : Activity I α} (h : a.Ensures Q) (m : Moment)
    (reply : I.Reply) : (a.step m reply).Ensures Q := by
  cases a with
  | ended a => exact h
  | calling q next => exact (h (reply q)).run m
  | waiting w next =>
    unfold Activity.step
    dsimp only
    cases hs : w.step m reply with
    | more w' =>
      refine ⟨?_, h.2⟩
      rw [Waiting.wait_step hs]
      exact h.1
    | result o => exact (h.2 o).run m

/-! ### Actions -/

namespace Action

variable {ε ε' α β : Type}

/-- Every value that the action can have is one of `P`, and its waits pause between attempts. -/
def Yields (P : α → Prop) (x : Action ε α) : Prop :=
  x.run.Ensures fun r => ∀ a, r = .ok a → P a

theorem yields_pure {P : α → Prop} {a : α} (h : P a) : Yields P (pure a : Action ε α) := by
  intro b hb
  cases hb
  exact h

theorem yields_throw {P : α → Prop} (e : ε) : Yields P (throw e : Action ε α) := by
  intro b hb
  cases hb

theorem Yields.mono {P Q : α → Prop} {x : Action ε α} (h : Yields P x) (hPQ : ∀ a, P a → Q a) :
    Yields Q x := by
  refine Program.Ensures.mono h ?_
  intro r hr a ha
  exact hPQ a (hr a ha)

theorem Yields.bind {P : α → Prop} {Q : β → Prop} {x : Action ε α} {f : α → Action ε β}
    (h : Yields P x) (hf : ∀ a, P a → Yields Q (f a)) : Yields Q (x >>= f) := by
  refine Program.Ensures.bind (p := x.run) h ?_
  intro r hr
  -- An action that has failed goes on to nothing.
  cases r with
  | ok a => exact hf a (hr a rfl)
  | error e =>
    intro b hb
    cases hb

/-- What a call yields is up to the collaborator. -/
theorem yields_ask (q : Call) : Yields (fun _ => True) (q.ask : Action ε _) := by
  intro x a _
  trivial

theorem yields_orRaise (q : Call) (raise : CollaboratorError → ε) :
    Yields (fun _ => True) (q.orRaise raise) := by
  intro x a _
  trivial

theorem yields_adapt {P : α → Prop} {x : Action ε α} (h : Yields P x) (f : ε → ε') :
    Yields P (ExceptT.adapt f x : Action ε' α) := by
  refine Program.Ensures.bind (p := x.run) h ?_
  intro r hr a ha
  cases r with
  | ok b => cases ha; exact hr a rfl
  | error e => cases ha

theorem yields_wait {w : Wait Collaborators Unit} (h : 0 < w.polling.interval) :
    Yields (fun _ => True) w.orFail := by
  refine ⟨h, ?_⟩
  intro o a _
  trivial

end Action

/-! ### Programs in progress end -/

/-- A pause begins within the time limit. -/
theorem Polling.lt_of_after_eq_pause {V : Type} {p : Polling} {elapsed d : Duration}
    {x : Except String (Attempt V)} (h : p.after elapsed x = .pause d) : elapsed < p.timeout := by
  have hcarry : p.carryOn elapsed = (.pause d : Next V) → elapsed < p.timeout := by
    intro h
    unfold carryOn at h
    split at h
    · cases h
    · exact Nat.lt_of_not_le ‹_›
  cases x with
  | ok a =>
    cases a with
    | again => exact hcarry h
    | finish v => cases h
    | giveUp reason => cases h
  | error message =>
    simp only [after] at h
    split at h
    · cases h
    · exact hcarry h

namespace Activity

/-- A program in progress that is carried on: `shown n a` says that it stands at `a` at step `n`.
    While it has not ended it takes another step some time, and time goes on. -/
structure Carried (now : Nat → Duration) (shown : Nat → Activity I α → Prop) : Prop where
  /-- Time does not go back. -/
  mono : ∀ n m, n ≤ m → now n ≤ now m
  /-- Every time comes. -/
  unbounded : ∀ d, ∃ n, d ≤ now n
  /-- It takes a step some time, unless it has ended. -/
  step : ∀ n a, shown n a → (∀ r, a ≠ .ended r) → ∃ m, n ≤ m ∧
    ∃ c reply, shown (m + 1) (a.step ⟨now m, c⟩ reply)

/-- From step `n` on, it comes to an end. -/
def Ends (shown : Nat → Activity I α → Prop) (n : Nat) : Prop :=
  ∃ m r, n ≤ m ∧ shown m (.ended r)

theorem Ends.mono {shown : Nat → Activity I α → Prop} {n m : Nat} (he : Ends shown m)
    (h : n ≤ m) : Ends shown n := by
  obtain ⟨k, r, hk, hr⟩ := he
  exact ⟨k, r, Nat.le_trans h hk, hr⟩

/-- What a wait in progress leads to. -/
def ofProgress (m : Moment) (next : Except PollError Unit → Program I α) :
    Progress (Waiting I Unit) (Except PollError Unit) → Activity I α
  | .more w => .waiting w next
  | .result o => (next o).run m

theorem step_waiting (w : Waiting I Unit) (next : Except PollError Unit → Program I α) (m : Moment)
    (reply : I.Reply) :
    (Activity.waiting w next).step m reply = ofProgress m next (w.step m reply) := by
  cases h : w.step m reply with
  | more w' => simp only [Activity.step, ofProgress, h]
  | result o => simp only [Activity.step, ofProgress, h]

theorem run_wait (w : Wait I Unit) (next : Except PollError Unit → Program I α) (m : Moment) :
    (Program.wait w next).run m = ofProgress m next (w.begin m) := by
  unfold Program.run ofProgress
  cases w.begin m <;> rfl

namespace Carried

variable {now : Nat → Duration} {shown : Nat → Activity I α → Prop}

/-- A pause is over some time, and then the next attempt begins. -/
theorem pause_over (h : Carried now shown) {w : Waiting I Unit}
    {next : Except PollError Unit → Program I α} {k : Nat} {due : Duration}
    (hw : w.stage = .pausing k due) {n : Nat} (ha : shown n (.waiting w next)) :
    ∃ m, n ≤ m ∧ due ≤ now m ∧
      ∃ c, shown (m + 1) (ofProgress ⟨now m, c⟩ next (w.cycle ⟨now m, c⟩ k)) := by
  obtain ⟨T, hT⟩ := h.unbounded due
  -- On the number of steps until then.
  induction hj : T - n using Nat.strongRecOn generalizing n with
  | ind j ih =>
    obtain ⟨m, hm, c, reply, hs⟩ := h.step n _ ha nofun
    rw [step_waiting, Waiting.step, hw] at hs
    dsimp only at hs
    by_cases hd : now m < due
    · -- A step before the time leaves the wait as it is.
      rw [if_pos hd] at hs
      have hlt : n < T := by
        refine Nat.lt_of_not_le fun hT' => ?_
        have h₁ := h.mono T n hT'
        have h₂ := h.mono n m hm
        exact absurd hd (Nat.not_lt.mpr (Nat.le_trans hT (Nat.le_trans h₁ h₂)))
      obtain ⟨m', hm', hdue, hc⟩ := ih (T - (m + 1)) (by omega) hs rfl
      exact ⟨m', by omega, hdue, hc⟩
    · rw [if_neg hd] at hs
      exact ⟨m, hm, Nat.not_lt.mp hd, c, hs⟩

section Wait

variable {w : Waiting I Unit} {next : Except PollError Unit → Program I α} {N : Nat}

/-- The rest of an attempt ends, if what follows does: the next pause, which begins within the time
    limit, and what is done with the outcome of the wait. -/
theorem ends_of_rest (h : Carried now shown)
    (hnext : ∀ o n c, shown (n + 1) ((next o).run ⟨now n, c⟩) → Ends shown (n + 1))
    (hpause : ∀ k due n, N ≤ n → now n < w.wait.polling.timeout + w.started →
      shown (n + 1) (.waiting { w with stage := .pausing k due } next) → Ends shown (n + 1))
    (rest : Procedure I (Except String (Attempt Unit))) (k : Nat) :
    ∀ n c, N ≤ n → shown (n + 1) (ofProgress ⟨now n, c⟩ next (w.goOn ⟨now n, c⟩ k rest)) →
      Ends shown (n + 1) := by
  -- On what is left of the attempt, whose calls are answered one after the other.
  induction rest with
  | done outcome =>
    intro n c hN hs
    unfold Waiting.goOn Procedure.run at hs
    dsimp only at hs
    cases ha : w.wait.polling.after (now n - w.started) outcome with
    | stop o =>
      rw [ha] at hs
      exact hnext o n c hs
    | pause d =>
      rw [ha] at hs
      -- The time limit was not over when the pause began.
      have hlim : now n ≤ now n - w.started + w.started := Nat.le_add_of_sub_le (Nat.le_refl _)
      have hlt := Nat.add_lt_add_right (Polling.lt_of_after_eq_pause ha) w.started
      exact hpause (k + 1) (now n + d) n hN (Nat.lt_of_le_of_lt hlim hlt) hs
  | call q rest ih =>
    intro n c hN hs
    obtain ⟨m, hm, c', reply, hs'⟩ := h.step (n + 1) _ hs nofun
    exact (ih (reply q) m c' (by omega) hs').mono (by omega)
  | look r rest ih =>
    intro n c hN hs
    exact ih (c r) n c hN hs

/-- A wait that begins an attempt ends, if its later pauses do. -/
theorem ends_of_cycle (h : Carried now shown)
    (hnext : ∀ o n c, shown (n + 1) ((next o).run ⟨now n, c⟩) → Ends shown (n + 1))
    (hpause : ∀ k due n, N ≤ n → now n < w.wait.polling.timeout + w.started →
      shown (n + 1) (.waiting { w with stage := .pausing k due } next) → Ends shown (n + 1))
    {k n : Nat} {c : ResourceId → Bool} (hN : N ≤ n)
    (hs : shown (n + 1) (ofProgress ⟨now n, c⟩ next (w.cycle ⟨now n, c⟩ k))) :
    Ends shown (n + 1) := by
  unfold Waiting.cycle at hs
  split at hs
  · exact hnext _ n c hs
  · exact h.ends_of_rest hnext hpause _ k n c hN hs

/-- A wait that pauses ends: some time the time limit is over, and the attempt that ends after that
    is the last. -/
theorem ends_of_pausing (h : Carried now shown)
    (hnext : ∀ o n c, shown (n + 1) ((next o).run ⟨now n, c⟩) → Ends shown (n + 1))
    {k : Nat} {due : Duration} {n : Nat}
    (hs : shown n (.waiting { w with stage := .pausing k due } next)) : Ends shown n := by
  obtain ⟨T, hT⟩ := h.unbounded (w.wait.polling.timeout + w.started)
  -- On the number of steps until then.
  induction hj : T - n using Nat.strongRecOn generalizing k due n with
  | ind j ih =>
    obtain ⟨m, hm, -, c, hc⟩ := h.pause_over rfl hs
    refine (h.ends_of_cycle (w := { w with stage := .pausing k due }) (N := m) hnext ?_
      (Nat.le_refl m) hc).mono (by omega)
    intro k' due' n' hn' hlim hs'
    have hbefore : n' < T :=
      Nat.lt_of_not_le fun hle => Nat.not_lt.mpr (Nat.le_trans hT (h.mono T n' hle)) hlim
    exact ih (T - (n' + 1)) (by omega) hs' rfl

end Wait

/-- Whatever a program begins with, it ends. -/
theorem ends_of_run (h : Carried now shown) (p : Program I α) :
    ∀ n c, shown (n + 1) (p.run ⟨now n, c⟩) → Ends shown (n + 1) := by
  -- On the program: each call is answered some time, and each wait ends.
  induction p with
  | done a =>
    intro n c hs
    exact ⟨n + 1, a, Nat.le_refl _, hs⟩
  | call q next ih =>
    intro n c hs
    obtain ⟨m, hm, c', reply, hs'⟩ := h.step (n + 1) _ hs nofun
    exact (ih (reply q) m c' hs').mono (by omega)
  | look r next ih =>
    intro n c hs
    exact ih (c r) n c hs
  | wait w next ih =>
    intro n c hs
    rw [run_wait] at hs
    refine h.ends_of_cycle (N := n) ih ?_ (Nat.le_refl _) hs
    intro k due n' _ _ hs'
    exact h.ends_of_pausing ih hs'

/-- A program in progress ends, whatever is answered to it. -/
theorem eventually_ended (h : Carried now shown) {n : Nat} {a : Activity I α} (ha : shown n a) :
    Ends shown n := by
  cases a with
  | ended r => exact ⟨n, r, Nat.le_refl n, ha⟩
  | calling q next =>
    obtain ⟨m, hm, c, reply, hs⟩ := h.step n _ ha nofun
    exact (h.ends_of_run (next (reply q)) m c hs).mono (by omega)
  | waiting w next =>
    have hnext := fun o => h.ends_of_run (next o)
    cases hw : w.stage with
    | pausing k due =>
      have heq : w = { w with stage := .pausing k due } := by rw [← hw]
      rw [heq] at ha
      exact h.ends_of_pausing hnext ha
    | calling k q rest =>
      obtain ⟨m, hm, c, reply, hs⟩ := h.step n _ ha nofun
      rw [step_waiting, Waiting.step, hw] at hs
      refine (h.ends_of_rest (N := m) hnext ?_ _ k m c (Nat.le_refl m) hs).mono (by omega)
      intro k' due' n' _ _ hs'
      exact h.ends_of_pausing hnext hs'

end Carried

end Activity

end ResourceFlow
