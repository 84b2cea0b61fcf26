import ResourceFlow.Data.Order
import ResourceFlow.Flow.Audit
import ResourceFlow.Flows.Diagnostics
/-! # Records in answers

  Audit records as answers show them. The payload of a record of a collection
  holds sets as lists; they are shown in order, whoever made the record.
-/

namespace ResourceFlow.Rehearsal

/-- Whether a value may stand before another in a list in order: values that are not texts come
    first, then the texts. -/
def textualLe (a b : Json) : Bool :=
  match a.text?, b.text? with
  | none, _ => true
  | some _, none => false
  | some s, some t => textLe s t

/-- A list in order; anything else as it is. -/
def inOrder : Json → Json
  | .arr l => .arr (sortBy textualLe l)
  | j => j

/-- The fields of a collection's payload that hold sets. -/
def setFields : List String := ["hosts", "host_groups", "exclude_hosts"]

/-- A payload with its sets in order. -/
def withOrderedSets : Json → Json
  | .obj fields => .obj (fields.map fun (name, v) =>
      (name, if name ∈ setFields then inOrder v else v))
  | j => j

/-- A record as an answer. -/
def recordJson (a : AuditRecord) : Json :=
  let collection := a.flowType = Diagnostics.definition.flowType
  AuditRecord.toJson (if collection then { a with payload := withOrderedSets a.payload } else a)

/-- A logged record as an answer: its level and the record. -/
def loggedJson (a : AuditRecord) : Json :=
  .obj [("level", .str a.level), ("record", recordJson a)]

end ResourceFlow.Rehearsal
