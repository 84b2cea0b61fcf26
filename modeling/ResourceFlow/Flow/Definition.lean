import ResourceFlow.Data.Table
import ResourceFlow.Program.Basic
import ResourceFlow.Flow.Error
/-! # Flow definitions and handlers

  A flow definition is the state machine of one type of flow: its transition
  table and the action that runs when a state is entered. A handler consumes
  the events of one selector in place of a transition and answers with the
  flow's next event. Both build the failure event that follows when they fail.
-/

namespace ResourceFlow

/-! ### Vocabulary -/

/-- What flows are made of: states, selectors and payloads, and how they are written. -/
structure Vocabulary where
  /-- The states. -/
  State : Type
  /-- The selectors of events. -/
  Selector : Type
  /-- The payloads of events. -/
  Payload : Type
  /-- States can be told apart. -/
  [decState : DecidableEq State]
  /-- Selectors can be told apart. -/
  [decSelector : DecidableEq Selector]
  /-- The name of a state. -/
  stateName : State → String
  /-- The name of a selector. -/
  selectorName : Selector → String
  /-- The JSON form of a payload. -/
  payloadJson : Payload → Json

attribute [instance] Vocabulary.decState Vocabulary.decSelector

/-- The events of a vocabulary. -/
abbrev Vocabulary.Event (V : Vocabulary) : Type := ResourceFlow.Event V.Selector V.Payload

/-! ### Parameters -/

/-- What stays the same during a run of a flow. -/
structure FlowParameters where
  /-- The flow. -/
  flow : FlowId
  /-- Its type. -/
  flowType : String
  /-- The resource that it drives. -/
  resourceId : ResourceId
  /-- The name under which others know the resource. -/
  resourceCrn : String
  /-- Who triggered it, if that is known. -/
  userCrn : Option String
  /-- Whether dependent resources are deleted along. -/
  cascading : Bool
  /-- Whether failing collaborators are tolerated where something is deleted. -/
  forced : Bool
  deriving DecidableEq, Inhabited

/-! ### Definitions -/

/-- The outcome of an action: perhaps a next event, or an error. -/
abbrev ActionResult (V : Vocabulary) : Type := Except ActionError (Option V.Event)

/-- The outcome of a handler: the next event, or an error. -/
abbrev HandlerResult (V : Vocabulary) : Type := Except ActionError V.Event

/-- The state machine of one type of flow. -/
structure Definition (V : Vocabulary) (I : Interface) where
  /-- The name of the type. -/
  flowType : String
  /-- The state in which every run begins. -/
  initial : V.State
  /-- The selector of the event that starts a run. -/
  start : V.Selector
  /-- The state whose entry marks a run as failed. -/
  failedState : V.State
  /-- Whether reaching a state ends the run. -/
  isTerminal : V.State → Bool
  /-- The next state, if there is a transition. -/
  transition : V.State → V.Selector → Option V.State
  /-- What is done when a state is entered on an event. -/
  execute : V.State → FlowParameters → V.Event → Program I (ActionResult V)
  /-- The event that follows a failed action. -/
  failureEvent : V.State → V.Event → Option FlowParameters → ActionError → V.Event

/-! ### Handlers -/

/-- A consumer of the events of one selector. -/
structure Handler (V : Vocabulary) (I : Interface) where
  /-- The selector. -/
  selector : V.Selector
  /-- What is done with an event, and the flow's next event. -/
  accept : Option FlowId → V.Event → Program I (HandlerResult V)
  /-- The event that follows when that fails. -/
  failureEvent : ActionError → V.Event → V.Event

/-- The handlers by selector; of several for one selector the last registered counts. -/
structure Dispatcher (V : Vocabulary) (I : Interface) where
  /-- The handlers in force. -/
  handlers : Table V.Selector (Handler V I) := .empty

/-- What became of an event that was given to a dispatcher. -/
inductive Delivery (V : Vocabulary) where
  /-- No handler is registered for its selector. -/
  | unhandled (event : V.Event)
  /-- A handler accepted it and answered with the next event. -/
  | handled (next : V.Event)
  /-- The handler failed; this is its failure event. -/
  | failed (next : V.Event)
  /-- The handler noticed a cancellation. -/
  | cancelled

namespace Dispatcher

variable {V : Vocabulary} {I : Interface}

/-- The handler for a selector. -/
def handler? (d : Dispatcher V I) (s : V.Selector) : Option (Handler V I) := d.handlers.get? s

/-- Whether there is a handler for a selector. -/
def handles (d : Dispatcher V I) (s : V.Selector) : Bool := (d.handler? s).isSome

/-- Registers a handler, in place of an older one for its selector. -/
def register (d : Dispatcher V I) (h : Handler V I) : Dispatcher V I :=
  { handlers := d.handlers.insert h.selector h }

/-- The dispatcher of a list of handlers, registered in order. -/
def ofList (hs : List (Handler V I)) : Dispatcher V I := hs.foldl register {}

/-- The names of the handled selectors, in order. -/
def selectorNames (d : Dispatcher V I) : List String :=
  sortTexts (d.handlers.keys.map V.selectorName)

end Dispatcher

namespace Handler

variable {V : Vocabulary} {I : Interface}

/-- What the outcome of a handler makes of the event that it was given. -/
def delivery (h : Handler V I) (event : V.Event) : HandlerResult V → Delivery V
  | .ok next => .handled next
  | .error e => if e.isCancellation then .cancelled else .failed (h.failureEvent e event)

end Handler

/-- Gives an event to the handler of its selector. -/
def Dispatcher.publish {V : Vocabulary} {I : Interface} (d : Dispatcher V I) (flow : Option FlowId)
    (event : V.Event) : Program I (Delivery V) :=
  match d.handler? event.selector with
  | none => .done (.unhandled event)
  | some h => (h.accept flow event).bind fun outcome => .done (h.delivery event outcome)

end ResourceFlow
