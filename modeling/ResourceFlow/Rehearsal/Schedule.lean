import ResourceFlow.Rehearsal.Scene
import ResourceFlow.Service.EnvironmentWait
/-! # The order of a rehearsal

  One job runs in the foreground. While it can go on, nothing else runs. When
  it has to wait, the background tasks run, in the order in which they came to
  be able to, each until it has to wait itself; when all of them wait, the
  clock moves to the next time at which something is due. Every run is bounded
  by a number of steps that no scenario comes near.
-/

namespace ResourceFlow.Rehearsal

/-- The number of steps after which a run is given up. -/
def stepLimit : Nat := 1000000000000

/-! ### Jobs -/

/-- What runs in the foreground. -/
inductive Job where
  /-- A task. -/
  | task (ref : TaskRef)
  /-- The end of a background task. -/
  | join (ref : TaskRef)
  /-- A program, on a registry. -/
  | program (registry : String) (a : Activity Requests Json)
  /-- A wait for an environment, on a registry. -/
  | wait (registry : String) (w : Waiting Requests EnvironmentDetails)

/-- What a job comes to. -/
inductive JobResult where
  /-- The result of a task. -/
  | task (result : TaskResult vocabulary)
  /-- An answer. -/
  | json (j : Json)
  /-- The outcome of a wait for an environment. -/
  | environment (outcome : Except PollError EnvironmentDetails)
  /-- Nothing: it can never go on. -/
  | stuck

/-- A job, and the request of it that was taken up and not answered. -/
structure Running where
  /-- The job. -/
  job : Job
  /-- The request. -/
  pending : Option Pending := none

/-- What a step of the foreground leads to. -/
inductive Forward where
  /-- It goes on. -/
  | more (s : Scene) (r : Running)
  /-- It has ended. -/
  | finished (s : Scene) (result : JobResult)
  /-- It has to wait. -/
  | blocked

namespace Scene

/-- The result of a task that is over. -/
def taskResult? (s : Scene) (ref : TaskRef) : Option (TaskResult vocabulary) :=
  (s.work? ref).bind Work.result?

/-- What a job with a need waits for: once it has that, it goes on with a response. -/
def supply (s : Scene) (need : Need Requests) (pending : Option Pending)
    (goOn : Scene → Response → Forward) (keep : Scene → Pending → Forward) : Forward :=
  match need with
  | .nothing => goOn s .done
  | .time t => if t ≤ s.now then goOn s .done else .blocked
  | .answer q =>
    match pending with
    | some p => if p.due ≤ s.now then goOn s p.response else .blocked
    | none =>
      let (s, p) := s.takeUp q
      if p.due ≤ s.now then goOn s p.response else keep s p

/-- One step of the foreground. -/
def forward (s : Scene) (r : Running) : Forward :=
  match r.job with
  | .task ref =>
    match s.taskResult? ref with
    | some result => .finished s (.task result)
    | none =>
      match s.stepTask ref with
      | some s => .more s r
      | none => .blocked
  | .join ref =>
    match s.taskResult? ref with
    | some result => .finished s (.task result)
    | none => .blocked
  | .program registry a =>
    match a with
    | .ended j => .finished s (.json j)
    | a =>
      s.supply a.need r.pending
        (fun s response =>
          .more s { job := .program registry (a.step (s.moment registry) response.reply) })
        (fun s p => .more s { r with pending := some p })
  | .wait registry w =>
    s.supply w.need r.pending
      (fun s response =>
        match w.step (s.moment registry) response.reply with
        | .more w => .more s { job := .wait registry w }
        | .result outcome => .finished s (.environment outcome))
      (fun s p => .more s { r with pending := some p })

/-! ### Background -/

/-- Runs the tasks in the queue until none can go on. -/
def drain : Nat → Scene → Scene
  | 0, s => s
  | limit + 1, s =>
    match s.queue with
    | [] => s
    | ref :: rest =>
      match s.stepTask ref with
      | some s => drain limit s
      | none => drain limit { s with queue := rest }

/-- Lets all background tasks run until they wait. -/
def settle (s : Scene) : Scene := drain stepLimit s

/-! ### Time -/

/-- The time that a need waits for. -/
def needTime? (need : Need Requests) (pending : Option Pending) : Option Duration :=
  match need with
  | .nothing => none
  | .time t => some t
  | .answer _ => pending.map Pending.due

/-- The time that the foreground waits for, its task aside. -/
def runningTime? (r : Running) : Option Duration :=
  match r.job with
  | .program _ a => needTime? a.need r.pending
  | .wait _ w => needTime? w.need r.pending
  | _ => none

/-- The next time at which something is due. -/
def nextTime? (s : Scene) (r : Running) : Option Duration :=
  ((runningTime? r).toList ++ s.alarms.map Prod.snd).min?

/-- Moves the clock and enqueues the tasks that are due, those first that have waited longer. -/
def moveTo (s : Scene) (t : Duration) : Scene :=
  let worlds := s.worlds.entries.foldl (fun ws (registry, w) =>
    ws.insert registry { w with now := t }) s.worlds
  let (due, later) := s.alarms.partition (·.2 ≤ t)
  (due.map Prod.fst).foldl enqueue { s with now := t, worlds := worlds, alarms := later }

/-! ### Foreground -/

/-- Runs the foreground to its end. -/
def runFor : Nat → Scene → Running → Scene × JobResult
  | 0, s, _ => (s, .stuck)
  | limit + 1, s, r =>
    match s.forward r with
    | .finished s result => (s, result)
    | .more s r => runFor limit s r
    | .blocked =>
      if s.queue.isEmpty then
        -- Everything waits, so time passes.
        match s.nextTime? r with
        | some t => runFor limit (s.moveTo t) r
        | none => (s, .stuck)
      else runFor limit s.settle r

/-- Runs a job in the foreground. -/
def run (s : Scene) (job : Job) : Scene × JobResult :=
  let foreground := match job with
    | .task ref => some ref
    | _ => none
  let (s, result) := runFor stepLimit { s with foreground := foreground } { job := job }
  ({ s with foreground := none }, result)

end Scene

end ResourceFlow.Rehearsal
