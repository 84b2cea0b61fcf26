import ResourceFlow.Program.Basic
/-! # Running programs

  A program is run up to the next point at which it has to wait: for the
  answer to a call, or for a time to come. What it does up to there is one
  step, at one moment; between two steps anything may happen.

  A wait looks for a cancellation right before each attempt, in the step that
  begins the attempt. When an attempt ends, the wait ends in the same step, or
  pauses until the interval or the time limit is over, whichever comes first.
-/

namespace ResourceFlow

/-! ### After an attempt -/

/-- What a wait does after an attempt. -/
inductive Polling.Next (V : Type) where
  /-- It ends. -/
  | stop (outcome : Except PollError V)
  /-- It pauses for this long. -/
  | pause (d : Duration)
  deriving Inhabited

namespace Polling

variable {V : Type}

/-- After an attempt that settled nothing: out of time, or a pause within it. -/
def carryOn (p : Polling) (elapsed : Duration) : Next V :=
  if p.timeout ≤ elapsed then .stop (.error (.timeout p.timeout))
  else .pause (min p.interval (p.timeout - elapsed))

/-- After an attempt with this outcome, so long after the start of the wait. -/
def after (p : Polling) (elapsed : Duration) : Except String (Attempt V) → Next V
  | .ok .again => p.carryOn elapsed
  | .ok (.finish v) => .stop (.ok v)
  | .ok (.giveUp reason) => .stop (.error (.aborted reason))
  | .error message =>
    if p.stopOnError then .stop (.error (.aborted ⟨.attemptError, message⟩))
    else p.carryOn elapsed

end Polling

/-! ### Moments -/

/-- What can be seen when a step is taken. -/
structure Moment where
  /-- The time. -/
  now : Duration
  /-- Whether a resource is cancelled. -/
  cancelled : ResourceId → Bool

/-- What a step leads to. -/
inductive Progress (σ α : Type) where
  /-- There is more to do. -/
  | more (s : σ)
  /-- There is a result. -/
  | result (a : α)
  deriving Inhabited

/-- What something in progress needs to go on. -/
inductive Need (I : Interface) where
  /-- Nothing. -/
  | nothing
  /-- The answer to a call. -/
  | answer (q : I.Call)
  /-- A time to come. -/
  | time (t : Duration)

/-! ### Procedures -/

/-- Where a procedure stops: at its end or at a call. -/
inductive Procedure.Halt (I : Interface) (α : Type) where
  /-- It has ended. -/
  | done (a : α)
  /-- It waits for the answer to a call. -/
  | call (q : I.Call) (next : I.Answer q → Procedure I α)

/-- Runs a procedure up to its next call. -/
def Procedure.run {I : Interface} {α : Type} (m : Moment) : Procedure I α → Procedure.Halt I α
  | .done a => .done a
  | .call q next => .call q next
  | .look r next => (next (m.cancelled r)).run m

/-! ### Waits -/

/-- Where a wait stands. -/
inductive Wait.Stage (I : Interface) (V : Type) where
  /-- Attempt `k` begins at time `due`. -/
  | pausing (k : Nat) (due : Duration)
  /-- Attempt `k` waits for the answer to a call. -/
  | calling (k : Nat) (q : I.Call)
      (next : I.Answer q → Procedure I (Except String (Attempt V)))

/-- A wait in progress. -/
structure Waiting (I : Interface) (V : Type) where
  /-- The wait. -/
  wait : Wait I V
  /-- When it began. -/
  started : Duration
  /-- Where it stands. -/
  stage : Wait.Stage I V

namespace Waiting

variable {I : Interface} {V : Type}

/-- What the wait needs to go on. -/
def need (w : Waiting I V) : Need I :=
  match w.stage with
  | .pausing _ due => .time due
  | .calling _ q _ => .answer q

/-- Goes on with the rest of attempt `k`. -/
def goOn (w : Waiting I V) (m : Moment) (k : Nat)
    (rest : Procedure I (Except String (Attempt V))) :
    Progress (Waiting I V) (Except PollError V) :=
  match rest.run m with
  | .call q next => .more { w with stage := .calling k q next }
  | .done outcome =>
    match w.wait.polling.after (m.now - w.started) outcome with
    | .stop result => .result result
    | .pause d => .more { w with stage := .pausing (k + 1) (m.now + d) }

/-- Begins attempt `k`, unless the wait is cancelled. -/
def cycle (w : Waiting I V) (m : Moment) (k : Nat) :
    Progress (Waiting I V) (Except PollError V) :=
  if m.cancelled w.wait.resource then .result (.error .cancelled)
  else w.goOn m k (w.wait.attempt k)

/-- One step of a wait, with answers to calls. A pause that is not over is left as it is. -/
def step (w : Waiting I V) (m : Moment) (reply : I.Reply) :
    Progress (Waiting I V) (Except PollError V) :=
  match w.stage with
  | .pausing k due => if m.now < due then .more w else w.cycle m k
  | .calling k q next => w.goOn m k (next (reply q))

end Waiting

/-- Begins a wait with its first attempt. -/
def Wait.begin {I : Interface} {V : Type} (w : Wait I V) (m : Moment) :
    Progress (Waiting I V) (Except PollError V) :=
  Waiting.cycle { wait := w, started := m.now, stage := .pausing 0 m.now } m 0

/-! ### Programs -/

/-- A program in progress. -/
inductive Activity (I : Interface) (α : Type) where
  /-- It has ended. -/
  | ended (a : α)
  /-- It waits for the answer to a call. -/
  | calling (q : I.Call) (next : I.Answer q → Program I α)
  /-- It is inside a wait. -/
  | waiting (w : Waiting I Unit) (next : Except PollError Unit → Program I α)

/-- Runs a program up to the next point at which it has to wait. -/
def Program.run {I : Interface} {α : Type} (m : Moment) : Program I α → Activity I α
  | .done a => .ended a
  | .call q next => .calling q next
  | .look r next => (next (m.cancelled r)).run m
  | .wait w next =>
    match w.begin m with
    | .more w => .waiting w next
    | .result outcome => (next outcome).run m

namespace Activity

variable {I : Interface} {α : Type}

/-- What the program needs to go on. -/
def need : Activity I α → Need I
  | .ended _ => .nothing
  | .calling q _ => .answer q
  | .waiting w _ => w.need

/-- One step of a program, with answers to calls. -/
def step (a : Activity I α) (m : Moment) (reply : I.Reply) : Activity I α :=
  match a with
  | .ended a => .ended a
  | .calling q next => (next (reply q)).run m
  | .waiting w next =>
    match w.step m reply with
    | .more w => .waiting w next
    | .result outcome => (next outcome).run m

end Activity

end ResourceFlow
