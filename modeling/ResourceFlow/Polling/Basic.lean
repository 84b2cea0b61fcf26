import ResourceFlow.Data.Codec
import ResourceFlow.Data.Duration
/-! # Polling: settings and outcomes

  A wait polls at a fixed interval until an attempt finishes it, gives up, the
  wait is cancelled, or its time is over. This module holds what a wait is
  configured with and how it can end; `Wait` is the wait itself, and `Waiting`
  a wait in progress.
-/

namespace ResourceFlow

/-- Interval, time limit and error policy of a wait. -/
structure Polling where
  /-- The pause between attempts. -/
  interval : Duration
  /-- The time limit, measured from the start of the wait. -/
  timeout : Duration
  /-- Whether an attempt that fails ends the wait. -/
  stopOnError : Bool := false
  deriving DecidableEq, Inhabited

/-- The kind of reason for which an attempt gives up. -/
inductive AbortKind where
  /-- The target reported a failed state. -/
  | targetFailed
  /-- The target is stopped or stopping. -/
  | targetStopped
  /-- The target is starting and not usable yet. -/
  | targetStarting
  /-- The owner of the wait was cancelled while an attempt was running. -/
  | rejected
  /-- An attempt failed, and the policy is to stop on errors. -/
  | attemptError
  deriving DecidableEq, Inhabited

instance : Named AbortKind where
  all := [.targetFailed, .targetStopped, .targetStarting, .rejected, .attemptError]
  name
    | .targetFailed => "TARGET_FAILED"
    | .targetStopped => "TARGET_STOPPED"
    | .targetStarting => "TARGET_STARTING"
    | .rejected => "REJECTED"
    | .attemptError => "ATTEMPT_ERROR"

instance : Codec AbortKind := Codec.named

/-- Why a wait ended early. -/
structure AbortReason where
  /-- The kind of reason. -/
  kind : AbortKind
  /-- The reason, for readers. -/
  message : String
  deriving DecidableEq, Inhabited

instance : Codec AbortReason where
  encode r := .obj [("kind", Codec.encode r.kind), ("message", .str r.message)]
  decode? j := do
    let fields ← Codec.record? ["kind", "message"] j
    return { kind := ← Codec.required? fields "kind"
             message := ← Codec.required? fields "message" }

/-- What one attempt found, when it did not fail. -/
inductive Attempt (V : Type) where
  /-- Not there yet. -/
  | again
  /-- Done, with this value. -/
  | finish (value : V)
  /-- No use in going on. -/
  | giveUp (reason : AbortReason)
  deriving DecidableEq, Inhabited

/-- How a wait fails. -/
inductive PollError where
  /-- The time limit passed. -/
  | timeout (limit : Duration)
  /-- The wait was cancelled before an attempt. -/
  | cancelled
  /-- An attempt gave up, or failed under a policy that stops on errors. -/
  | aborted (reason : AbortReason)
  deriving DecidableEq, Inhabited

/-- The text of a failed wait. -/
def PollError.message : PollError → String
  | .timeout limit => "polling timed out after " ++ limit.text
  | .cancelled => "polling cancelled"
  | .aborted reason => "polling aborted: " ++ reason.message

end ResourceFlow
