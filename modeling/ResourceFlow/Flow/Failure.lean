import ResourceFlow.Data.Codec
/-! # Failures

  A failure says in which category an operation failed and for which cause.
  The category is what notifications go by; the cause is for readers.
-/

namespace ResourceFlow

/-- The category of a failure. -/
inductive FailureType where
  /-- No specific category. -/
  | unset
  /-- Preparing the operation failed. -/
  | initialization
  /-- The look-up of a machine user or its credential failed. -/
  | umsResourceCheck
  /-- Removing temporary artifacts failed. -/
  | cleanup
  /-- Upgrading a component on the nodes failed. -/
  | upgrade
  /-- Collecting data from the nodes failed. -/
  | collection
  /-- A scale call or the scale operation failed. -/
  | scale
  /-- Deleting a dependent resource failed. -/
  | deletion
  /-- A wait on an external change ran out of time. -/
  | timeout
  deriving DecidableEq, Inhabited

instance : Named FailureType where
  all := [.unset, .initialization, .umsResourceCheck, .cleanup, .upgrade, .collection, .scale,
    .deletion, .timeout]
  name
    | .unset => "UNSET"
    | .initialization => "INITIALIZATION_FAILURE"
    | .umsResourceCheck => "UMS_RESOURCE_CHECK_FAILURE"
    | .cleanup => "CLEANUP_FAILURE"
    | .upgrade => "UPGRADE_FAILURE"
    | .collection => "COLLECTION_FAILURE"
    | .scale => "SCALE_FAILURE"
    | .deletion => "DELETION_FAILURE"
    | .timeout => "TIMEOUT"

instance : Codec FailureType := Codec.named

/-- The diagnostic part of a failed operation. -/
structure Failure where
  /-- The category. -/
  type : FailureType
  /-- The cause, for readers. -/
  cause : String
  deriving DecidableEq, Inhabited

namespace Failure

/-- The category in brackets, then the cause. -/
def text (f : Failure) : String := "[" ++ Named.name f.type ++ "] " ++ f.cause

end Failure

instance : Codec Failure where
  encode f := .obj [("failure_type", Codec.encode f.type), ("cause", .str f.cause)]
  decode? j := do
    let fields ← Codec.record? ["failure_type", "cause"] j
    return { type := ← Codec.required? fields "failure_type"
             cause := ← Codec.required? fields "cause" }

end ResourceFlow
