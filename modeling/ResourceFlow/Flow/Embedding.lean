import ResourceFlow.Flow.Definition
/-! # Flows in a larger vocabulary

  Engines that share a registry may run flows of different vocabularies. To
  put them into one world, each vocabulary is embedded into a larger one, and
  with it definitions and handlers: they act on what comes from their own
  vocabulary as before, and have no transitions on anything else.
-/

namespace ResourceFlow

/-- How a vocabulary sits inside another. -/
structure Embedding (V W : Vocabulary) where
  /-- A state seen from outside. -/
  state : V.State → W.State
  /-- The state that an outside state stands for, if it is one of ours. -/
  state? : W.State → Option V.State
  /-- A selector seen from outside. -/
  selector : V.Selector → W.Selector
  /-- The selector that an outside selector stands for, if it is one of ours. -/
  selector? : W.Selector → Option V.Selector
  /-- A payload seen from outside. -/
  payload : V.Payload → W.Payload
  /-- The payload that an outside payload stands for, if it is one of ours. -/
  payload? : W.Payload → Option V.Payload

/-- An event with its selector and payload changed. -/
def Event.map {Sel P Sel' P' : Type} (f : Sel → Sel') (g : P → P') (e : Event Sel P) :
    Event Sel' P' where
  selector := f e.selector
  resourceId := e.resourceId
  resourceCrn := e.resourceCrn
  payload := g e.payload
  operationId := e.operationId
  failure := e.failure

/-- A program with its result changed. -/
def Program.map {I : Interface} {α β : Type} (f : α → β) (p : Program I α) : Program I β :=
  p.bind fun a => .done (f a)

namespace Embedding

variable {V W : Vocabulary} {I J : Interface}

/-- An event seen from outside. -/
def event (em : Embedding V W) (e : V.Event) : W.Event := e.map em.selector em.payload

/-- The event that an outside event stands for, if it is one of ours. -/
def event? (em : Embedding V W) (e : W.Event) : Option V.Event := do
  let s ← em.selector? e.selector
  let p ← em.payload? e.payload
  return e.map (fun _ => s) (fun _ => p)

/-- A definition seen from outside. -/
def definition (em : Embedding V W) (link : Interface.Link I J) (d : Definition V I) :
    Definition W J where
  flowType := d.flowType
  initial := em.state d.initial
  start := em.selector d.start
  failedState := em.state d.failedState
  isTerminal s := (em.state? s).any d.isTerminal
  transition s sel := do
    let s ← em.state? s
    let sel ← em.selector? sel
    return em.state (← d.transition s sel)
  execute s p e :=
    match em.state? s, em.event? e with
    | some s, some e => (link.program (d.execute s p e)).map (·.map (·.map em.event))
    | _, _ => .done (.ok none)
  failureEvent s e p error :=
    match em.state? s, em.event? e with
    | some s, some e => em.event (d.failureEvent s e p error)
    | _, _ => e

/-- A handler seen from outside. -/
def handler (em : Embedding V W) (link : Interface.Link I J) (h : Handler V I) : Handler W J where
  selector := em.selector h.selector
  accept flow e :=
    match em.event? e with
    | some e => (link.program (h.accept flow e)).map (·.map em.event)
    | none => .done (.ok e)
  failureEvent error e :=
    match em.event? e with
    | some e => em.event (h.failureEvent error e)
    | none => e

end Embedding

end ResourceFlow
