import ResourceFlow.Program.Run
import ResourceFlow.Rehearsal.Outcome
/-! # Trying a wait

  A trial runs one wait on a clock of its own. Its attempts take fixed times
  and have fixed outcomes, and its cancellation is noticed from some look on
  or from some time on. The trial tells how the wait ended, how often it
  looked, and when each attempt began.
-/

namespace ResourceFlow.Rehearsal

/-- Sleeps, in milliseconds, are all that a trial's attempts ask for. -/
abbrev Sleeps : Interface where
  Call := Nat
  Answer _ := Unit

/-- What is tried. -/
structure Trial where
  /-- The wait. -/
  wait : ScriptedWait
  /-- The number of the first look that notices a cancellation. -/
  cancelAtLook : Option Nat
  /-- The time from which looks notice a cancellation. -/
  cancelAtTime : Option Duration

/-- What was seen so far. -/
structure Trace where
  /-- The time. -/
  now : Duration := 0
  /-- How many looks for a cancellation there were. -/
  looks : Nat := 0
  /-- When the attempts began, the last first. -/
  began : List Duration := []

namespace Trial

/-- The wait of a trial. -/
def waitOf (t : Trial) : Wait Sleeps Json where
  polling := t.wait.polling
  resource := 0
  attempt k :=
    let a := t.wait.attempt k
    .call a.takes fun _ => .done a.outcome

/-- Whether the next look notices a cancellation. -/
def notices (t : Trial) (seen : Trace) : Bool :=
  t.cancelAtLook.any (· ≤ seen.looks + 1) || t.cancelAtTime.any (· ≤ seen.now)

/-- What is seen after a look that is followed by an attempt unless it noticed a cancellation. -/
def looked (t : Trial) (seen : Trace) : Trace :=
  { seen with
    looks := seen.looks + 1
    began := if t.notices seen then seen.began else seen.now :: seen.began }

/-- The moment of the next look. -/
def moment (t : Trial) (seen : Trace) : Moment where
  now := seen.now
  cancelled _ := t.notices seen

/-- Goes on with a wait to its end. -/
def goOn (t : Trial) : Nat → Trace → Progress (Waiting Sleeps Json) (Except PollError Json) →
    Trace × Option (Except PollError Json)
  | _, seen, .result outcome => (seen, some outcome)
  | 0, seen, .more _ => (seen, none)
  | limit + 1, seen, .more w =>
    match w.need with
    | .time due =>
      let seen := { seen with now := max seen.now due }
      goOn t limit (t.looked seen) (w.step (t.moment seen) fun _ => ())
    | .answer ms =>
      let seen := { seen with now := seen.now + .ofMillis ms }
      goOn t limit seen (w.step (t.moment seen) fun _ => ())
    | .nothing => goOn t limit seen (w.step (t.moment seen) fun _ => ())

/-- Runs a trial. -/
def run (t : Trial) (limit : Nat) : Trace × Option (Except PollError Json) :=
  let seen : Trace := {}
  t.goOn limit (t.looked seen) (t.waitOf.begin (t.moment seen))

end Trial

end ResourceFlow.Rehearsal
