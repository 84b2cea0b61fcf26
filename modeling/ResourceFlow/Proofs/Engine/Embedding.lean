import ResourceFlow.Proofs.Engine.Account
import ResourceFlow.Proofs.Engine.Likeness
import ResourceFlow.Proofs.Flow.Embedding
/-! # Runs, accounts and likeness seen from outside

  A run of a definition that is seen from outside is a run of the definition,
  seen from outside (`Embedding.run`): it enters the same states with the same
  failures. So whatever the definition accounts for, it accounts for from
  outside, in terms of the runs, the events and the talk that are seen there
  (`Account.embed`).

  A likeness of the larger vocabulary covers one of ours if it says the same of
  what is ours, and confuses it with nothing else (`Likeness.Covers`). What is
  oblivious of ours is then oblivious of the larger one
  (`Definition.Oblivious.embed`).
-/

namespace ResourceFlow

variable {V W : Vocabulary} {I J : Interface}

/-! ### Runs -/

namespace Embedding

/-- A run seen from outside. -/
def run (em : Embedding V W) (i : Instance V) : Instance W where
  params := i.params
  state := em.state i.state
  status := i.status
  finishedAt := i.finishedAt
  failure := i.failure
  history := i.history.map em.state

variable (em : Embedding V W)

theorem run_enter (i : Instance V) (s : V.State) :
    (em.run i).enter (em.state s) = em.run (i.enter s) := by
  unfold Instance.enter run
  rw [List.map_append]
  rfl

theorem run_finish (i : Instance V) (s : FlowStatus) (now : Duration) :
    (em.run i).finish s now = em.run (i.finish s now) := by
  unfold Instance.finish
  show (if i.status.isTerminal = true then _ else _) = _
  split <;> rfl

variable {em}

/-- What is entered on an event of ours, and with which failure, is the same from outside. -/
theorem Lawful.run_entered (hem : em.Lawful) (link : Interface.Link I J) (d : Definition V I)
    (i : Instance V) (s : V.State) (e : V.Event) :
    (em.definition link d).entered (em.run i) (em.state s) (em.event e) =
      em.run (d.entered i s e) := by
  have hname : W.selectorName (em.event e).selector = V.selectorName e.selector :=
    hem.selectorName e.selector
  unfold Definition.entered
  rw [run_enter, hem.stateName, hname]
  show (if em.state s = em.state d.failedState then _ else _) = _
  rw [ite_congr (propext hem.state_inj) (fun _ => rfl) (fun _ => rfl)]
  split <;> rfl

end Embedding

/-! ### Accounts -/

section Account

variable {em : Embedding V W} {link : Interface.Link I J} {d : Definition V I}
  {hs : List (Handler V I)}

theorem Handler.Resumes.embed {hd : Handler V I} {e : V.Event} {cancelled : Prop}
    {ready : V.Event → Prop} {ready' : W.Event → Prop} {r : HandlerResult V}
    (h : hd.Resumes e cancelled ready r) (hem : em.Lawful) (link : Interface.Link I J)
    (hready : ∀ e, ready e → ready' (em.event e)) :
    (em.handler link hd).Resumes (em.event e) cancelled ready' (r.map em.event) := by
  cases r with
  | ok next => exact hready next h
  | error error =>
    refine ⟨h.1, fun hcan => ?_⟩
    rw [hem.handlerFailure_event]
    exact hready _ (h.2 hcan)

theorem Definition.Resumes.embed {s : V.State} {p : FlowParameters} {e : V.Event}
    {cancelled : Prop} {ready : V.Event → Prop} {ready' : W.Event → Prop} {r : ActionResult V}
    (h : d.Resumes s p e cancelled ready r) (hem : em.Lawful) (link : Interface.Link I J)
    (hready : ∀ e, ready e → ready' (em.event e)) :
    (em.definition link d).Resumes (em.state s) p (em.event e) cancelled ready'
      (r.map (·.map em.event)) := by
  cases r with
  | ok next =>
    obtain ⟨next, rfl, hnext⟩ := h
    exact ⟨_, rfl, hready next hnext⟩
  | error error =>
    refine ⟨h.1, fun hcan => ?_⟩
    rw [hem.failureEvent_state]
    exact hready _ (h.2 hcan)

/-- A definition seen from outside accounts for what it says there. -/
def Account.embed (A : Account d (.ofList hs)) (hem : em.Lawful) (link : Interface.Link I J) :
    Account (em.definition link d) (.ofList (hs.map (em.handler link))) where
  seen := A.seen
  allows j talk call := ∃ i before q, em.run i = j ∧ link.Carries before talk ∧
    link.call q = call ∧ A.allows i before q
  ready j x talk := ∃ i e before, em.run i = j ∧ em.event e = x ∧ link.Carries before talk ∧
    A.ready i e before
  closing j talk := ∃ i before, em.run i = j ∧ link.Carries before talk ∧ A.closing i before
  going := by
    rintro j x talk ⟨i, e, before, rfl, rfl, -, hr⟩
    exact (hem.isTerminal_state _).trans (A.going i e before hr)
  handled := by
    rintro j x talk hd' now ⟨i, e, before, rfl, rfl, hc, hr⟩ hh
    obtain ⟨hd, hhd, rfl⟩ := hem.handler?_event.mp hh
    rw [hem.accept_event]
    refine .map (.through ?_ ?_ hc (A.handled i e before hd now hr hhd))
    · exact ⟨fun _ h => h, fun h h' q hc ha => ⟨i, h, q, rfl, hc, rfl, ha⟩⟩
    · intro now h h' r hc hres
      exact hres.embed hem link fun next hnext => ⟨i, next, h, rfl, rfl, hc, hnext⟩
  next := by
    rintro j x talk ⟨i, e, before, rfl, rfl, -, hr⟩ hn
    obtain ⟨s, hs⟩ := Option.isSome_iff_exists.mp
      (A.next i e before hr (hem.handler?_event_eq_none.mp hn))
    exact Option.isSome_iff_exists.mpr ⟨_, hem.transition_state.mpr ⟨s, hs, rfl⟩⟩
  entered := by
    rintro j x talk t now ⟨i, e, before, rfl, rfl, hc, hr⟩ hn ht hter
    obtain ⟨s, hs, rfl⟩ := hem.transition_state.mp ht
    rw [hem.isTerminal_state] at hter
    rw [hem.run_entered]
    show Program.Obeys _ _ ((em.definition link d).execute (em.state s) i.params (em.event e)) _ _
    rw [hem.execute_state]
    refine .map (.through ?_ ?_ hc
      (A.entered i e before s now hr (hem.handler?_event_eq_none.mp hn) hs hter))
    · exact ⟨fun _ h => h, fun h h' q hc ha => ⟨_, h, q, rfl, hc, rfl, ha⟩⟩
    · intro now h h' r hc hres
      exact hres.embed hem link fun next hnext => ⟨_, next, h, rfl, rfl, hc, hnext⟩
  closed := by
    rintro j x talk t ⟨i, e, before, rfl, rfl, hc, hr⟩ hn ht hter
    obtain ⟨s, hs, rfl⟩ := hem.transition_state.mp ht
    rw [hem.isTerminal_state] at hter
    obtain ⟨hclose, next, hnext⟩ := A.closed i e before s hr (hem.handler?_event_eq_none.mp hn)
      hs hter
    refine ⟨⟨_, before, (hem.run_entered link d i s e).symm, hc, hclose⟩, next.map em.event, ?_⟩
    show (em.definition link d).execute (em.state s) i.params (em.event e) = _
    rw [hem.execute_state, hnext]
    rfl

end Account

/-! ### Likeness -/

section Likeness

variable {L : Likeness V I} {L' : Likeness W J} {em : Embedding V W} {link : Interface.Link I J}

/-- What is alike from outside is alike for us, and nothing else looks like ours. -/
structure Likeness.Covers (L' : Likeness W J) (em : Embedding V W) (link : Interface.Link I J)
    (L : Likeness V I) : Prop where
  /-- Alike payloads of ours are alike from outside. -/
  own : ∀ p p', L.payload p p' → L'.payload (em.payload p) (em.payload p')
  /-- From outside, payloads of ours are alike to these only. -/
  only : ∀ p x, L'.payload (em.payload p) x → ∃ p', em.payload p' = x ∧ L.payload p p'
  /-- What is alike to a payload that is not ours is not ours either. -/
  other : ∀ x x', L'.payload x x' → em.payload? x = none → em.payload? x' = none
  /-- Alike answers are alike through the link. -/
  reply : ∀ ρ ρ', L'.reply ρ ρ' → L.reply (link.reply ρ) (link.reply ρ')
  /-- Where times matter to us, they are the same. -/
  timed : L.timed → L'.timed

namespace Likeness.Covers

theorem event (hc : L'.Covers em link L) {e e' : V.Event} (h : L.Event e e') :
    L'.Event (em.event e) (em.event e') := by
  refine ⟨hc.own _ _ h.payload, ?_⟩
  rw [h.rest]
  rfl

/-- Events that are alike from outside are both ours, and alike, or both not ours. -/
theorem event_cases (hc : L'.Covers em link L) (hem : em.Lawful) {x x' : W.Event}
    (h : L'.Event x x') :
    (∃ e e', em.event e = x ∧ em.event e' = x' ∧ L.Event e e') ∨
      em.event? x = none ∧ em.event? x' = none := by
  rcases hem.event_or_other x with ⟨e, rfl⟩ | hother
  · obtain ⟨p, hp, hl⟩ := hc.only _ _ h.payload
    refine .inl ⟨e, { e with payload := p }, rfl, ?_, hl, rfl⟩
    rw [h.rest, ← hp]
    rfl
  · refine .inr ⟨hother, ?_⟩
    unfold Embedding.event? at hother ⊢
    rw [h.selector]
    cases hs : em.selector? x.selector with
    | none => rfl
    | some s =>
      rw [hs] at hother
      have hp : em.payload? x.payload = none := by
        cases hp : em.payload? x.payload with
        | none => rfl
        | some p =>
          rw [hp] at hother
          cases hother
      rw [hc.other _ _ h.payload hp]
      rfl

end Likeness.Covers

/-- A definition seen from outside is as oblivious as it was. -/
theorem Definition.Oblivious.embed {d : Definition V I} {hs : List (Handler V I)}
    (h : d.Oblivious (.ofList hs) L) (hem : em.Lawful) (hc : L'.Covers em link L) :
    (em.definition link d).Oblivious (.ofList (hs.map (em.handler link))) L' where
  execute t p x x' hx := by
    rcases hc.event_cases hem hx with ⟨e, e', rfl, rfl, he⟩ | ⟨hother, hother'⟩
    · rcases hem.state_or_other t with ⟨s, rfl⟩ | hs
      · rw [hem.execute_state, hem.execute_state]
        refine ((h.execute s p e e' he).through hc.reply hc.timed).map ?_
        rintro _ _ (hnext | error)
        · cases hnext with
          | none => exact .ok .none
          | some he => exact .ok (.some (hc.event he))
        · exact .error error
      · rw [Embedding.execute_other (.inl hs), Embedding.execute_other (.inl hs)]
        exact .done (.ok .none)
    · rw [Embedding.execute_other (.inr hother), Embedding.execute_other (.inr hother')]
      exact .done (.ok .none)
  actionFails t p error x x' hx := by
    rcases hc.event_cases hem hx with ⟨e, e', rfl, rfl, he⟩ | ⟨hother, hother'⟩
    · rcases hem.state_or_other t with ⟨s, rfl⟩ | hs
      · rw [hem.failureEvent_state, hem.failureEvent_state]
        exact hc.event (h.actionFails s p error e e' he)
      · rwa [Embedding.failureEvent_other (.inl hs), Embedding.failureEvent_other (.inl hs)]
    · rwa [Embedding.failureEvent_other (.inr hother), Embedding.failureEvent_other (.inr hother')]
  accept hh f x x' hx := by
    obtain ⟨sel, hd, hhd, rfl⟩ := hem.exists_handler hh
    rcases hc.event_cases hem hx with ⟨e, e', rfl, rfl, he⟩ | ⟨hother, hother'⟩
    · rw [hem.accept_event, hem.accept_event]
      refine ((h.accept hhd f e e' he).through hc.reply hc.timed).map ?_
      rintro _ _ (hnext | error)
      · exact .ok (hc.event hnext)
      · exact .error error
    · rw [Embedding.accept_other hother, Embedding.accept_other hother']
      exact .done (.ok hx)
  handlerFails hh error x x' hx := by
    obtain ⟨sel, hd, hhd, rfl⟩ := hem.exists_handler hh
    rcases hc.event_cases hem hx with ⟨e, e', rfl, rfl, he⟩ | ⟨hother, hother'⟩
    · rw [hem.handlerFailure_event, hem.handlerFailure_event]
      exact hc.event (h.handlerFails hhd error e e' he)
    · rwa [Embedding.handlerFailure_other hother, Embedding.handlerFailure_other hother']

end Likeness

end ResourceFlow
