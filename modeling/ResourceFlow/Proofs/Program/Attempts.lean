import ResourceFlow.Program.Run
/-! # The attempts that a step begins

  A wait begins an attempt in the step in which its pause is over, unless it
  is cancelled; no call need follow that would show it. The functions here
  run programs as `Program.run` and `Activity.step` do, and also write down
  every attempt that begins: whose cancellation would end the wait, and the
  number of the attempt.

  The results are the same (`Program.logged_fst`, `Activity.logged_fst`), and
  what is written down is never the attempt of a cancelled wait
  (`Program.not_begun_of_cancelled`, `Activity.not_begun_of_cancelled`).
-/

namespace ResourceFlow

/-- An attempt: the resource whose cancellation ends the wait, and its number in the wait. -/
abbrev AttemptId : Type := ResourceId × Nat

variable {I : Interface} {V α : Type}

/-! ### Waits -/

namespace Waiting

/-- Begins attempt `k`, unless the wait is cancelled. -/
def cycleLogged (w : Waiting I V) (m : Moment) (k : Nat) :
    Progress (Waiting I V) (Except PollError V) × List AttemptId :=
  if m.cancelled w.wait.resource then (.result (.error .cancelled), [])
  else (w.goOn m k (w.wait.attempt k), [(w.wait.resource, k)])

def stepLogged (w : Waiting I V) (m : Moment) (reply : I.Reply) :
    Progress (Waiting I V) (Except PollError V) × List AttemptId :=
  match w.stage with
  | .pausing k due => if m.now < due then (.more w, []) else w.cycleLogged m k
  | .calling k q next => (w.goOn m k (next (reply q)), [])

theorem cycleLogged_fst (w : Waiting I V) (m : Moment) (k : Nat) :
    (w.cycleLogged m k).1 = w.cycle m k := by
  unfold cycleLogged cycle
  split <;> rfl

theorem stepLogged_fst (w : Waiting I V) (m : Moment) (reply : I.Reply) :
    (w.stepLogged m reply).1 = w.step m reply := by
  unfold stepLogged step
  cases w.stage with
  | pausing k due =>
    dsimp only
    split
    · rfl
    · exact cycleLogged_fst ..
  | calling k q next => rfl

theorem not_begun_cycle {w : Waiting I V} {m : Moment} {r : ResourceId}
    (hr : m.cancelled r = true) (k n : Nat) : (r, n) ∉ (w.cycleLogged m k).2 := by
  unfold cycleLogged
  intro h
  split at h
  · cases h
  · rename_i hc
    rw [List.mem_singleton] at h
    cases h
    exact hc hr

theorem not_begun_step {w : Waiting I V} {m : Moment} {r : ResourceId}
    (hr : m.cancelled r = true) (reply : I.Reply) (n : Nat) :
    (r, n) ∉ (w.stepLogged m reply).2 := by
  unfold stepLogged
  split
  · split
    · exact List.not_mem_nil
    · exact not_begun_cycle hr _ n
  · exact List.not_mem_nil

end Waiting

/-- Begins a wait with its first attempt. -/
def Wait.beginLogged (w : Wait I V) (m : Moment) :
    Progress (Waiting I V) (Except PollError V) × List AttemptId :=
  Waiting.cycleLogged { wait := w, started := m.now, stage := .pausing 0 m.now } m 0

theorem Wait.beginLogged_fst (w : Wait I V) (m : Moment) : (w.beginLogged m).1 = w.begin m :=
  Waiting.cycleLogged_fst ..

/-! ### Programs -/

namespace Program

/-- Runs a program up to the next point at which it has to wait. -/
def logged (m : Moment) : Program I α → Activity I α × List AttemptId
  | .done a => (.ended a, [])
  | .call q next => (.calling q next, [])
  | .look r next => (next (m.cancelled r)).logged m
  | .wait w next =>
    match (w.beginLogged m).1 with
    | .more s => (.waiting s next, (w.beginLogged m).2)
    | .result outcome =>
      let rest := (next outcome).logged m
      (rest.1, (w.beginLogged m).2 ++ rest.2)

theorem logged_fst (m : Moment) (p : Program I α) : (p.logged m).1 = p.run m := by
  induction p with
  | done a => rfl
  | call q next _ => rfl
  | look r next ih => exact ih _
  | wait w next ih =>
    unfold logged run
    rw [Wait.beginLogged_fst]
    cases w.begin m with
    | more s => rfl
    | result outcome => exact ih outcome

/-- No attempt begins in a cancelled wait. -/
theorem not_begun_of_cancelled {m : Moment} {r : ResourceId} (hr : m.cancelled r = true)
    (p : Program I α) (n : Nat) : (r, n) ∉ (p.logged m).2 := by
  induction p with
  | done a => exact List.not_mem_nil
  | call q next _ => exact List.not_mem_nil
  | look r' next ih => exact ih _
  | wait w next ih =>
    have hw : (r, n) ∉ (w.beginLogged m).2 := Waiting.not_begun_cycle hr 0 n
    unfold logged
    cases (w.beginLogged m).1 with
    | more s => exact hw
    | result outcome =>
      show (r, n) ∉ (w.beginLogged m).2 ++ ((next outcome).logged m).2
      rw [List.mem_append]
      rintro (h | h)
      · exact hw h
      · exact ih outcome h

end Program

namespace Activity

/-- One step of a program, with answers to calls. -/
def logged (a : Activity I α) (m : Moment) (reply : I.Reply) :
    Activity I α × List AttemptId :=
  match a with
  | .ended a => (.ended a, [])
  | .calling q next => (next (reply q)).logged m
  | .waiting w next =>
    match (w.stepLogged m reply).1 with
    | .more s => (.waiting s next, (w.stepLogged m reply).2)
    | .result outcome =>
      let rest := (next outcome).logged m
      (rest.1, (w.stepLogged m reply).2 ++ rest.2)

theorem logged_fst (a : Activity I α) (m : Moment) (reply : I.Reply) :
    (a.logged m reply).1 = a.step m reply := by
  cases a with
  | ended a => rfl
  | calling q next => exact Program.logged_fst ..
  | waiting w next =>
    unfold logged step
    dsimp only
    rw [Waiting.stepLogged_fst]
    cases w.step m reply with
    | more s => rfl
    | result outcome => exact Program.logged_fst ..

@[inherit_doc Program.not_begun_of_cancelled]
theorem not_begun_of_cancelled {m : Moment} {r : ResourceId} (hr : m.cancelled r = true)
    (a : Activity I α) (reply : I.Reply) (n : Nat) : (r, n) ∉ (a.logged m reply).2 := by
  cases a with
  | ended a => exact List.not_mem_nil
  | calling q next => exact Program.not_begun_of_cancelled hr _ n
  | waiting w next =>
    have hw : (r, n) ∉ (w.stepLogged m reply).2 := Waiting.not_begun_step hr reply n
    unfold logged
    dsimp only
    cases (w.stepLogged m reply).1 with
    | more s => exact hw
    | result outcome =>
      show (r, n) ∉ (w.stepLogged m reply).2 ++ ((next outcome).logged m).2
      rw [List.mem_append]
      rintro (h | h)
      · exact hw h
      · exact Program.not_begun_of_cancelled hr (next outcome) n h

end Activity

end ResourceFlow
