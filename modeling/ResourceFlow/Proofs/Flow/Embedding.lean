import Mathlib.Logic.Function.Basic
import ResourceFlow.Proofs.Flow.Lineage
import ResourceFlow.Proofs.Flow.Plan
import ResourceFlow.Proofs.Program.Link
/-! # What holds of a definition seen from outside

  An embedding is lawful if what stands for something of ours is what is seen
  of it from outside, under the same name (`Embedding.Lawful`). Seen from
  outside, a definition has the transitions that it has, and its actions and
  handlers answer our events with ours.

  So it follows the plan that it follows (`Plan.embed`), and builds its events
  as it did (`Definition.Builds.embed`), whatever else is in the larger
  vocabulary.
-/

namespace ResourceFlow

variable {V W : Vocabulary} {I J : Interface}

/-! ### Lawful embeddings -/

/-- What stands for something of ours is what is seen of it, and it is called and written alike. -/
structure Embedding.Lawful (em : Embedding V W) : Prop where
  /-- States. -/
  state? : Function.IsPartialInv em.state em.state?
  /-- Selectors. -/
  selector? : Function.IsPartialInv em.selector em.selector?
  /-- Payloads. -/
  payload? : Function.IsPartialInv em.payload em.payload?
  /-- The names of states. -/
  stateName : ∀ s, W.stateName (em.state s) = V.stateName s
  /-- The names of selectors. -/
  selectorName : ∀ sel, W.selectorName (em.selector sel) = V.selectorName sel
  /-- The JSON form of payloads. -/
  payloadJson : ∀ p, W.payloadJson (em.payload p) = V.payloadJson p

namespace Embedding

/-- A request seen from outside. -/
def request (em : Embedding V W) (q : StartRequest V) : StartRequest W where
  resourceId := q.resourceId
  resourceCrn := q.resourceCrn
  userCrn := q.userCrn
  cascading := q.cascading
  forced := q.forced
  payload := em.payload q.payload

/-- From outside, selectors of ours have the handlers that they have, and no others have any. -/
def Shows (em : Embedding V W) (link : Interface.Link I J) (D : Dispatcher V I)
    (D' : Dispatcher W J) : Prop :=
  ∀ t, D'.handler? t =
    (em.selector? t).bind fun sel => (D.handler? sel).map (em.handler link)

/-! What is not ours is not acted on, and handed on as it is. -/

variable {em : Embedding V W} {link : Interface.Link I J} {d : Definition V I}

theorem execute_other {t : W.State} {x : W.Event} (h : em.state? t = none ∨ em.event? x = none)
    (p : FlowParameters) : (em.definition link d).execute t p x = .done (.ok none) := by
  unfold Embedding.definition
  dsimp only
  split
  · rename_i hs he
    rw [hs, he] at h
    rcases h with h | h <;> cases h
  · rfl

theorem failureEvent_other {t : W.State} {x : W.Event}
    (h : em.state? t = none ∨ em.event? x = none) (p : Option FlowParameters)
    (error : ActionError) : (em.definition link d).failureEvent t x p error = x := by
  unfold Embedding.definition
  dsimp only
  split
  · rename_i hs he
    rw [hs, he] at h
    rcases h with h | h <;> cases h
  · rfl

theorem accept_other {x : W.Event} (h : em.event? x = none) (hd : Handler V I)
    (flow : Option FlowId) : (em.handler link hd).accept flow x = .done (.ok x) := by
  simp only [Embedding.handler, h]

theorem handlerFailure_other {x : W.Event} (h : em.event? x = none) (hd : Handler V I)
    (error : ActionError) : (em.handler link hd).failureEvent error x = x := by
  simp only [Embedding.handler, h]

end Embedding

namespace Embedding.Lawful

variable {em : Embedding V W} {link : Interface.Link I J} {d : Definition V I}
  {hs : List (Handler V I)}

theorem state?_state (hem : em.Lawful) (s : V.State) : em.state? (em.state s) = some s :=
  hem.state?.eq s

theorem selector?_selector (hem : em.Lawful) (sel : V.Selector) :
    em.selector? (em.selector sel) = some sel :=
  hem.selector?.eq sel

theorem payload?_payload (hem : em.Lawful) (p : V.Payload) : em.payload? (em.payload p) = some p :=
  hem.payload?.eq p

/-- States that look the same from outside are the same. -/
theorem state_inj (hem : em.Lawful) {s s' : V.State} : em.state s = em.state s' ↔ s = s' :=
  hem.state?.injective.eq_iff

/-- So are payloads. -/
theorem payload_inj (hem : em.Lawful) {p p' : V.Payload} :
    em.payload p = em.payload p' ↔ p = p' :=
  hem.payload?.injective.eq_iff

/-- What stands for an event of ours is what is seen of it. -/
theorem event?_eq_some_iff (hem : em.Lawful) {x : W.Event} {e : V.Event} :
    em.event? x = some e ↔ em.event e = x := by
  obtain ⟨sel, r, crn, p, op, failure⟩ := x
  obtain ⟨sel', r', crn', p', op', failure'⟩ := e
  constructor
  · intro h
    obtain ⟨s, hs, h⟩ := Option.bind_eq_some_iff.mp h
    obtain ⟨q, hq, h⟩ := Option.bind_eq_some_iff.mp h
    cases h
    obtain rfl := (hem.selector? _ _).mp hs
    obtain rfl := (hem.payload? _ _).mp hq
    rfl
  · intro h
    cases h
    unfold Embedding.event?
    rw [(hem.selector? sel' _).mpr rfl, (hem.payload? p' _).mpr rfl]
    rfl

theorem event?_event (hem : em.Lawful) (e : V.Event) : em.event? (em.event e) = some e :=
  hem.event?_eq_some_iff.mpr rfl

/-! ### Definitions and handlers -/

/-- Our transitions are the only ones. -/
theorem transition_eq_some_iff (hem : em.Lawful) {t t' : W.State} {sel : W.Selector} :
    (em.definition link d).transition t sel = some t' ↔ ∃ s sel' s', em.state s = t ∧
      em.selector sel' = sel ∧ d.transition s sel' = some s' ∧ em.state s' = t' := by
  constructor
  · intro h
    obtain ⟨s, hs, h⟩ := Option.bind_eq_some_iff.mp h
    obtain ⟨sel', hsel, h⟩ := Option.bind_eq_some_iff.mp h
    obtain ⟨s', hs', h⟩ := Option.bind_eq_some_iff.mp h
    exact ⟨s, sel', s', (hem.state? _ _).mp hs, (hem.selector? _ _).mp hsel, hs',
      Option.some.inj h⟩
  · rintro ⟨s, sel', s', rfl, rfl, hs', rfl⟩
    show (em.state? (em.state s)).bind _ = _
    rw [hem.state?_state, Option.bind_some]
    show (em.selector? (em.selector sel')).bind _ = _
    rw [hem.selector?_selector, Option.bind_some, hs']
    rfl

/-- From a state of ours, an event of ours leads where it leads. -/
theorem transition_state (hem : em.Lawful) {s : V.State} {sel : V.Selector} {t : W.State} :
    (em.definition link d).transition (em.state s) (em.selector sel) = some t ↔
      ∃ s', d.transition s sel = some s' ∧ em.state s' = t := by
  show ((em.state? (em.state s)).bind fun s => (em.selector? (em.selector sel)).bind fun sel =>
    (d.transition s sel).bind fun s' => some (em.state s')) = some t ↔ _
  rw [hem.state?_state, hem.selector?_selector, Option.bind_some, Option.bind_some,
    Option.bind_eq_some_iff]
  simp only [Option.some.injEq]

theorem isTerminal_state (hem : em.Lawful) (s : V.State) :
    (em.definition link d).isTerminal (em.state s) = d.isTerminal s := by
  show (em.state? (em.state s)).any d.isTerminal = d.isTerminal s
  rw [hem.state?_state]
  rfl

/-- A terminal state is one of ours. -/
theorem isTerminal_iff (hem : em.Lawful) {t : W.State} :
    (em.definition link d).isTerminal t = true ↔
      ∃ s, em.state s = t ∧ d.isTerminal s = true := by
  constructor
  · intro h
    have h : (em.state? t).any d.isTerminal = true := h
    cases hs : em.state? t with
    | none =>
      rw [hs] at h
      cases h
    | some s =>
      rw [hs] at h
      exact ⟨s, (hem.state? _ _).mp hs, h⟩
  · rintro ⟨s, rfl, ht⟩
    rw [hem.isTerminal_state, ht]

theorem execute_state (hem : em.Lawful) (s : V.State) (p : FlowParameters) (e : V.Event) :
    (em.definition link d).execute (em.state s) p (em.event e) =
      (link.program (d.execute s p e)).map (·.map (·.map em.event)) := by
  simp only [Embedding.definition, hem.state?_state, hem.event?_event]

theorem failureEvent_state (hem : em.Lawful) (s : V.State) (e : V.Event)
    (p : Option FlowParameters) (error : ActionError) :
    (em.definition link d).failureEvent (em.state s) (em.event e) p error =
      em.event (d.failureEvent s e p error) := by
  simp only [Embedding.definition, hem.state?_state, hem.event?_event]

theorem accept_event (hem : em.Lawful) (hd : Handler V I) (flow : Option FlowId) (e : V.Event) :
    (em.handler link hd).accept flow (em.event e) =
      (link.program (hd.accept flow e)).map (·.map em.event) := by
  simp only [Embedding.handler, hem.event?_event]

theorem handlerFailure_event (hem : em.Lawful) (hd : Handler V I) (error : ActionError)
    (e : V.Event) : (em.handler link hd).failureEvent error (em.event e) =
      em.event (hd.failureEvent error e) := by
  simp only [Embedding.handler, hem.event?_event]

/-- One more handler that is registered is seen from outside. -/
theorem shows_register (hem : em.Lawful) {D : Dispatcher V I} {D' : Dispatcher W J}
    (h : em.Shows link D D') (hd : Handler V I) :
    em.Shows link (D.register hd) (D'.register (em.handler link hd)) := by
  intro t
  unfold Dispatcher.register Dispatcher.handler?
  rw [Table.get?_insert]
  split
  · rename_i ht
    obtain rfl : t = em.selector hd.selector := ht
    rw [hem.selector?_selector, Option.bind_some, Table.get?_insert_self]
    rfl
  · rename_i hne
    refine (h t).trans ?_
    cases hsel : em.selector? t with
    | none => rfl
    | some sel =>
      obtain rfl := (hem.selector? _ _).mp hsel
      have hne : sel ≠ hd.selector := fun heq => hne (congrArg em.selector heq)
      show (D.handlers.get? sel).map _ = ((D.handlers.insert _ _).get? sel).map _
      rw [Table.get?_insert_ne _ _ hne]

/-- So are all handlers. -/
theorem shows_ofList (hem : em.Lawful) (hs : List (Handler V I)) :
    em.Shows link (.ofList hs) (.ofList (hs.map (em.handler link))) := by
  -- On the handlers, which are registered one after the other.
  have hall : ∀ (hs : List (Handler V I)) (D : Dispatcher V I) (D' : Dispatcher W J),
      em.Shows link D D' → em.Shows link (hs.foldl Dispatcher.register D)
        ((hs.map (em.handler link)).foldl Dispatcher.register D') := by
    intro hs
    induction hs with
    | nil => exact fun D D' h => h
    | cons hd rest ih => exact fun D D' h => ih _ _ (hem.shows_register h hd)
  refine hall hs {} {} fun t => ?_
  show none = (em.selector? t).bind fun _ => none
  cases em.selector? t <;> rfl

/-- The handler of an event of ours. -/
theorem handler?_event (hem : em.Lawful) {e : V.Event} {hd' : Handler W J} :
    (Dispatcher.ofList (hs.map (em.handler link))).handler? (em.event e).selector = some hd' ↔
      ∃ hd, (Dispatcher.ofList hs).handler? e.selector = some hd ∧ em.handler link hd = hd' := by
  rw [hem.shows_ofList, show em.selector? (em.event e).selector = some e.selector from
    hem.selector?_selector _, Option.bind_some, Option.map_eq_some_iff]

theorem handler?_event_eq_none (hem : em.Lawful) {e : V.Event} :
    (Dispatcher.ofList (hs.map (em.handler link))).handler? (em.event e).selector = none ↔
      (Dispatcher.ofList hs).handler? e.selector = none := by
  rw [hem.shows_ofList, show em.selector? (em.event e).selector = some e.selector from
    hem.selector?_selector _, Option.bind_some, Option.map_eq_none_iff]

/-- Every handler is one of ours. -/
theorem exists_handler (hem : em.Lawful) {t : W.Selector} {hd' : Handler W J}
    (h : (Dispatcher.ofList (hs.map (em.handler link))).handler? t = some hd') :
    ∃ sel hd, (Dispatcher.ofList hs).handler? sel = some hd ∧ em.handler link hd = hd' := by
  rw [hem.shows_ofList] at h
  obtain ⟨sel, -, h⟩ := Option.bind_eq_some_iff.mp h
  obtain ⟨hd, hhd, rfl⟩ := Option.map_eq_some_iff.mp h
  exact ⟨sel, hd, hhd, rfl⟩

/-- A state is ours or not. -/
theorem state_or_other (hem : em.Lawful) (t : W.State) :
    (∃ s, em.state s = t) ∨ em.state? t = none := by
  cases hs : em.state? t with
  | none => exact .inr rfl
  | some s => exact .inl ⟨s, (hem.state? _ _).mp hs⟩

/-- An event is ours or not. -/
theorem event_or_other (hem : em.Lawful) (x : W.Event) :
    (∃ e, em.event e = x) ∨ em.event? x = none := by
  cases he : em.event? x with
  | none => exact .inr rfl
  | some e => exact .inl ⟨e, hem.event?_eq_some_iff.mp he⟩

/-- A state and an event are both ours, or not both. -/
theorem ours_or_other (hem : em.Lawful) (t : W.State) (x : W.Event) :
    (∃ s e, em.state s = t ∧ em.event e = x) ∨ em.state? t = none ∨ em.event? x = none := by
  rcases hem.state_or_other t with ⟨s, hs⟩ | hs
  · rcases hem.event_or_other x with ⟨e, he⟩ | he
    · exact .inl ⟨s, e, hs, he⟩
    · exact .inr (.inr he)
  · exact .inr (.inl hs)

end Embedding.Lawful

/-! ### Plans -/

section Plan

variable {em : Embedding V W} {link : Interface.Link I J} {d : Definition V I}
  {hs : List (Handler V I)}

/-- A handler answers events of ours with what it answered with. -/
theorem Handler.Answers.embed {hd : Handler V I} {e : V.Event} {P : V.Event → Prop}
    {P' : W.Event → Prop} (h : hd.Answers e P) (hem : em.Lawful) (link : Interface.Link I J)
    (hP : ∀ e, P e → P' (em.event e)) : (em.handler link hd).Answers (em.event e) P' := by
  constructor
  · intro flow
    rw [hem.accept_event]
    refine ((h.1 flow).through.mono ?_).map
    intro r hr x hx
    cases r with
    | ok next =>
      cases hx
      exact hP next (hr next rfl)
    | error error => cases hx
  · intro error
    rw [hem.handlerFailure_event]
    exact hP _ (h.2 error)

/-- An outcome leads on to what it led on to. -/
theorem Definition.LeadsOn.embed {P : V.Event → Prop} {P' : W.Event → Prop} {s : V.State}
    {p : FlowParameters} {e : V.Event} {r : ActionResult V} (h : d.LeadsOn P s p e r)
    (hem : em.Lawful) (link : Interface.Link I J) (hP : ∀ e, P e → P' (em.event e)) :
    (em.definition link d).LeadsOn P' (em.state s) p (em.event e) (r.map (·.map em.event)) := by
  cases r with
  | ok next =>
    obtain ⟨next, rfl, hnext⟩ := h
    exact ⟨_, rfl, hP next hnext⟩
  | error error =>
    show P' ((em.definition link d).failureEvent _ _ _ _)
    rw [hem.failureEvent_state]
    exact hP _ h

/-- A definition seen from outside follows its plan: the events at hand are ours. -/
def Plan.embed (P : Plan d (.ofList hs)) (hem : em.Lawful) (link : Interface.Link I J) :
    Plan (em.definition link d) (.ofList (hs.map (em.handler link))) where
  awaits t x := ∃ s e, em.state s = t ∧ em.event e = x ∧ P.awaits s e
  rank t := (em.state? t).elim 0 P.rank
  initial_ne h := P.initial_ne (hem.state_inj.mp h)
  failed_going := (hem.isTerminal_state _).trans P.failed_going
  going := by
    rintro t x ⟨s, e, rfl, rfl, haw⟩
    rw [hem.isTerminal_state, P.going s e haw]
  handled := by
    rintro t x hd' ⟨s, e, rfl, rfl, haw⟩ hh
    obtain ⟨hd, hhd, rfl⟩ := hem.handler?_event.mp hh
    refine (P.handled s e hd haw hhd).embed hem link ?_
    rintro next ⟨haw, hn⟩
    exact ⟨⟨s, next, rfl, rfl, haw⟩, hem.handler?_event_eq_none.mpr hn⟩
  next := by
    rintro t x ⟨s, e, rfl, rfl, haw⟩ hn
    obtain ⟨s', hs'⟩ := Option.isSome_iff_exists.mp
      (P.next s e haw (hem.handler?_event_eq_none.mp hn))
    exact Option.isSome_iff_exists.mpr ⟨_, hem.transition_state.mpr ⟨s', hs', rfl⟩⟩
  descends t sel t' ht := by
    obtain ⟨s, sel', s', rfl, rfl, hs', rfl⟩ := hem.transition_eq_some_iff.mp ht
    rw [hem.state?_state, hem.state?_state]
    exact P.descends s sel' s' hs'
  fails sel t' ht := by
    obtain ⟨s, sel', s', hs, rfl, hs', rfl⟩ := hem.transition_eq_some_iff.mp ht
    rw [hem.state_inj.mp hs] at hs'
    rw [hem.isTerminal_state]
    exact P.fails sel' s' hs'
  entered := by
    rintro t x t' p ⟨s, e, rfl, rfl, haw⟩ ht hter
    obtain ⟨s', hs', rfl⟩ := hem.transition_state.mp ht
    rw [hem.isTerminal_state] at hter
    rw [hem.execute_state]
    refine ((P.entered s e s' p haw hs' hter).through.mono ?_).map
    exact fun r hr => hr.embed hem link fun next hnext => ⟨s', next, rfl, rfl, hnext⟩
  ended t p x ht := by
    obtain ⟨s, rfl, hter⟩ := hem.isTerminal_iff.mp ht
    rcases hem.event_or_other x with ⟨e, rfl⟩ | he
    · rw [hem.execute_state]
      exact ((P.ended s p e hter).through.mono fun _ _ => trivial).map
    · rw [Embedding.execute_other (.inr he)]
      trivial

end Plan

/-! ### Where events come from -/

section Builds

variable {α β : Type} {link : Interface.Link I J}

theorem Program.CanEnd.of_through {p : Program I α} {a : α} (h : (link.program p).CanEnd a) :
    p.CanEnd a := by
  induction p with
  | done b => exact h
  | call q next ih =>
    obtain ⟨x, hx⟩ := h
    exact ⟨link.answer q x, ih _ hx⟩
  | look r next ih =>
    obtain ⟨b, hb⟩ := h
    exact ⟨b, ih b hb⟩
  | wait w next ih =>
    obtain ⟨o, ho⟩ := h
    exact ⟨o, ih o ho⟩

theorem Program.CanEnd.of_map {p : Program I α} {f : α → β} {b : β} (h : (p.map f).CanEnd b) :
    ∃ a, p.CanEnd a ∧ f a = b :=
  Program.CanEnd.of_bind (f := fun a => .done (f a)) h

namespace Event

variable {Sel P Sel' P' : Type} {f : Sel → Sel'} {g : P → P'}

/-- What is built in a step, seen from outside, is built in a step. -/
theorem exists_map_apply (e : Event Sel P) (s : Step Sel P) :
    ∃ s' : Step Sel' P', (e.apply s).map f g = (e.map f g).apply s' := by
  cases s with
  | followUp selector => exact ⟨.followUp (f selector), rfl⟩
  | followUpWith selector payload => exact ⟨.followUpWith (f selector) (g payload), rfl⟩
  | failed selector type cause => exact ⟨.failed (f selector) type cause, rfl⟩
  | withOperationId operationId => exact ⟨.withOperationId operationId, rfl⟩

theorem StemsFrom.map {x y : Event Sel P} (h : y.StemsFrom x) :
    (y.map f g).StemsFrom (x.map f g) := by
  obtain ⟨steps, rfl⟩ := h
  induction steps generalizing x with
  | nil => exact .refl _
  | cons s rest ih =>
    obtain ⟨s', hs'⟩ := exists_map_apply (f := f) (g := g) x s
    exact (ih (x := x.apply s)).trans ⟨[s'], hs'⟩

end Event

/-- A definition seen from outside builds its events as it did, and leaves others as they are. -/
theorem Definition.Builds.embed {em : Embedding V W} {d : Definition V I} {hs : List (Handler V I)}
    (h : d.Builds (.ofList hs)) (hem : em.Lawful) (link : Interface.Link I J) :
    (em.definition link d).Builds (.ofList (hs.map (em.handler link))) where
  action t p x y hy := by
    rcases hem.ours_or_other t x with ⟨s, e, rfl, rfl⟩ | hother
    · rw [hem.execute_state] at hy
      obtain ⟨r, hr, hry⟩ := hy.of_map
      match r, hry with
      | .ok (some next), rfl => exact (h.action s p e next hr.of_through).map
    · rw [Embedding.execute_other hother] at hy
      cases hy
  failure t p x error := by
    rcases hem.ours_or_other t x with ⟨s, e, rfl, rfl⟩ | hother
    · rw [hem.failureEvent_state]
      exact (h.failure s p e error).map
    · rw [Embedding.failureEvent_other hother]
      exact .refl x
  handler x hd' flow y hh hy := by
    rcases hem.event_or_other x with ⟨e, rfl⟩ | hother
    · obtain ⟨hd, hhd, rfl⟩ := hem.handler?_event.mp hh
      rw [hem.accept_event] at hy
      obtain ⟨r, hr, hry⟩ := hy.of_map
      match r, hry with
      | .ok next, rfl => exact (h.handler e hd flow next hhd hr.of_through).map
    · obtain ⟨_, hd, -, rfl⟩ := hem.exists_handler hh
      rw [Embedding.accept_other hother] at hy
      cases hy
      exact .refl x
  handlerFailure x hd' error hh := by
    rcases hem.event_or_other x with ⟨e, rfl⟩ | hother
    · obtain ⟨hd, hhd, rfl⟩ := hem.handler?_event.mp hh
      rw [hem.handlerFailure_event]
      exact (h.handlerFailure e hd error hhd).map
    · obtain ⟨_, hd, -, rfl⟩ := hem.exists_handler hh
      rw [Embedding.handlerFailure_other hother]
      exact .refl x

end Builds

end ResourceFlow
