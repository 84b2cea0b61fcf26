import Mathlib.Data.List.Induction
import ResourceFlow.Proofs.Flow.Lineage
/-! # What events keep of those that they are built from

  An event that is built in any number of steps from another one keeps the
  resource, and each of its other parts comes from the last step that sets that
  part, or from the first event if no step does. Every step but one that
  attaches an operation id decides on the failure: one that reports a failure
  sets it, the others drop it. No step drops the operation id.

  Main statement: `Event.last_step_decides`.
-/

namespace ResourceFlow

namespace Event

variable {Sel P : Type}

/-! ### What a step sets -/

namespace Step

/-- The selector that the step sets. -/
def selector? : Step Sel P → Option Sel
  | .followUp selector => some selector
  | .followUpWith selector _ => some selector
  | .failed selector _ _ => some selector
  | .withOperationId _ => none

/-- The payload that the step sets. -/
def payload? : Step Sel P → Option P
  | .followUpWith _ payload => some payload
  | _ => none

/-- The operation id that the step attaches. -/
def operationId? : Step Sel P → Option String
  | .withOperationId operationId => some operationId
  | _ => none

/-- Whether the step leads on to another event, and does not only attach an operation id. -/
def leadsOn : Step Sel P → Bool
  | .withOperationId _ => false
  | _ => true

end Step

/-! ### Chains of steps -/

variable (x : Event Sel P) (steps : List (Step Sel P))

theorem build_append (after : List (Step Sel P)) :
    x.build (steps ++ after) = (x.build steps).build after :=
  List.foldl_append

theorem build_snoc (s : Step Sel P) : x.build (steps ++ [s]) = (x.build steps).apply s :=
  build_append x steps [s]

/-- A part of an event that a step sets or leaves alone comes from the last step that sets it. -/
theorem build_part {α : Type} (part : Event Sel P → α) (sets? : Step Sel P → Option α)
    (hpart : ∀ e s, part (apply e s) = (sets? s).getD (part e)) :
    part (x.build steps) = (steps.filterMap sets?).getLast?.getD (part x) := by
  induction steps using List.reverseRecOn with
  | nil => rfl
  | append_singleton before s ih =>
    rw [build_snoc, hpart, ih, List.filterMap_append, List.getLast?_append, Option.getD_or]
    cases hs : sets? s <;> simp [hs]

theorem build_operationId : (x.build steps).operationId =
    (steps.filterMap Step.operationId?).getLast?.or x.operationId := by
  have hlast := build_part x steps Event.operationId (fun s => s.operationId?.map some)
    fun _ s => by cases s <;> rfl
  -- Here the part is itself an option, and a step sets it to one that is there.
  rw [hlast, ← List.map_filterMap, List.getLast?_map]
  cases (steps.filterMap Step.operationId?).getLast? <;> rfl

/-- The failure comes from the last step that led on to another event, if that step reported it, and
    from the first event if no step led on. -/
theorem build_failure (failure : Failure) : (x.build steps).failure = some failure ↔
    (∃ selector, (steps.filter Step.leadsOn).getLast? =
      some (.failed selector failure.type failure.cause)) ∨
    ((steps.filter Step.leadsOn).getLast? = none ∧ x.failure = some failure) := by
  induction steps using List.reverseRecOn with
  | nil => simp [build]
  | append_singleton before s ih =>
    rw [build_snoc, List.filter_append, List.getLast?_append]
    cases s with
    | followUp selector => simp [apply, followUp, Step.leadsOn]
    | followUpWith selector payload => simp [apply, followUpWith, followUp, Step.leadsOn]
    | failed selector type cause =>
      obtain ⟨type', cause'⟩ := failure
      simp [apply, failed, Step.leadsOn]
    | withOperationId operationId => simpa [apply, withOperationId, Step.leadsOn] using ih

/-- What an event that is built in these steps has of the first one, and what of the steps. -/
structure Inherits : Prop where
  /-- The resource is that of the first event. -/
  resourceId : (x.build steps).resourceId = x.resourceId
  /-- So is the name under which others know it. -/
  resourceCrn : (x.build steps).resourceCrn = x.resourceCrn
  /-- The selector is that of the last step that sets one. -/
  selector : (x.build steps).selector =
    (steps.filterMap Step.selector?).getLast?.getD x.selector
  /-- The payload is that of the last step that sets one. -/
  payload : (x.build steps).payload = (steps.filterMap Step.payload?).getLast?.getD x.payload
  /-- The operation id is the last one attached. -/
  operationId : (x.build steps).operationId =
    (steps.filterMap Step.operationId?).getLast?.or x.operationId
  /-- Once there is an operation id, there always is one. -/
  tied : ∀ before after, steps = before ++ after → (x.build before).operationId.isSome →
    (x.build steps).operationId.isSome
  /-- There is a failure exactly if the last step that led on reported that failure, or no step led
      on and the first event had it. -/
  failure : ∀ failure, (x.build steps).failure = some failure ↔
    (∃ selector, (steps.filter Step.leadsOn).getLast? =
      some (.failed selector failure.type failure.cause)) ∨
    ((steps.filter Step.leadsOn).getLast? = none ∧ x.failure = some failure)

/-- Whatever the first event and the steps, each part of an event is that of the last step that
    decides on it, or of the first event. -/
theorem last_step_decides : x.Inherits steps where
  resourceId := StemsFrom.resourceId ⟨steps, rfl⟩
  resourceCrn := StemsFrom.resourceCrn ⟨steps, rfl⟩
  selector := build_part x steps Event.selector Step.selector? fun _ s => by cases s <;> rfl
  payload := build_part x steps Event.payload Step.payload? fun _ s => by cases s <;> rfl
  operationId := build_operationId x steps
  tied before after hsplit htied := by
    rw [hsplit, build_append, build_operationId, Option.isSome_or, htied, Bool.or_true]
  failure := build_failure x steps

/-- A failure outlasts an operation id that is attached to it, and no step that leads on. -/
example (x : Event Sel P) (selector next : Sel) :
    ((x.build [.failed selector .timeout "late", .withOperationId "op"]).failure =
      some ⟨.timeout, "late"⟩) ∧
    (x.build [.failed selector .timeout "late", .withOperationId "op", .followUp next]).failure =
      none :=
  ⟨rfl, rfl⟩

end Event

end ResourceFlow
