import ResourceFlow.Proofs.Engine.Instances
import ResourceFlow.Proofs.Program.Ensures
/-! # Definitions whose runs come to an end

  A `Plan` says which events can be at hand in each state of a flow, and how
  far the state is from the end. Every event at hand has a handler or a
  transition, every handler and every action answers with an event that can
  be at hand next, and transitions lead closer to the end.

  `Plan.Chronicle` is what a plan says of a run that is under way, whatever
  order things happen in: its states, from the initial one on, come closer
  and closer to the end, and its failure is recorded exactly if it went
  through the failed state.
-/

namespace ResourceFlow

variable {V : Vocabulary} {I : Interface}

/-- What a handler answers an event with, and what follows its failure, is in `P`. -/
def Handler.Answers (hd : Handler V I) (event : V.Event) (P : V.Event → Prop) : Prop :=
  (∀ flow, (hd.accept flow event).Ensures fun r => ∀ next, r = .ok next → P next) ∧
    ∀ e, P (hd.failureEvent e event)

/-- The outcome of an action leads on to an event in `P`. -/
def Definition.LeadsOn (d : Definition V I) (P : V.Event → Prop) (s : V.State)
    (p : FlowParameters) (event : V.Event) : ActionResult V → Prop
  | .ok next => ∃ e, next = some e ∧ P e
  | .error e => P (d.failureEvent s event (some p) e)

/-- How a run has ended: it began in the initial state and visited no state twice. Unless it was
    cancelled, it came to a terminal state, and it failed exactly if it visited the failed state;
    then that was the last state before the end. -/
structure Definition.Concluded (d : Definition V I) (i : Instance V) : Prop where
  /-- It has ended. -/
  status : i.status ≠ .running
  /-- It began in the initial state. -/
  begins : i.history.head? = some d.initial
  /-- It visited no state twice. -/
  nodup : i.history.Nodup
  /-- Unless it was cancelled, it came to its end. -/
  final : i.status ≠ .cancelled → ∃ before s, i.history = before ++ [s] ∧ d.isTerminal s = true ∧
    (d.failedState ∈ i.history → before.getLast? = some d.failedState) ∧
    (i.status = .failed ↔ d.failedState ∈ i.history)

/-- What makes every run of a definition with these handlers end. -/
structure Plan (d : Definition V I) (h : Dispatcher V I) where
  /-- The events that can be at hand in a state. -/
  awaits : V.State → V.Event → Prop
  /-- How far a state is from the end. -/
  rank : V.State → Nat
  /-- A run does not begin as failed. -/
  initial_ne : d.initial ≠ d.failedState
  /-- The failed state is not the end. -/
  failed_going : d.isTerminal d.failedState = false
  /-- No event is at hand at the end. -/
  going : ∀ s event, awaits s event → d.isTerminal s = false
  /-- A handler answers an event at hand with one that is at hand and has no handler. -/
  handled : ∀ s event hd, awaits s event → h.handler? event.selector = some hd →
    hd.Answers event fun next => awaits s next ∧ h.handler? next.selector = none
  /-- An event at hand that has no handler has a transition. -/
  next : ∀ s event, awaits s event → h.handler? event.selector = none →
    (d.transition s event.selector).isSome
  /-- Transitions lead closer to the end. -/
  descends : ∀ s sel s', d.transition s sel = some s' → rank s' < rank s
  /-- Only the end comes after the failed state. -/
  fails : ∀ sel s', d.transition d.failedState sel = some s' → d.isTerminal s' = true
  /-- The action of a state that is entered leads on, unless the state is the end. -/
  entered : ∀ s event s' p, awaits s event → d.transition s event.selector = some s' →
    d.isTerminal s' = false → (d.execute s' p event).Ensures (d.LeadsOn (awaits s') s' p event)
  /-- Waits pause at the end, too. -/
  ended : ∀ s p event, d.isTerminal s = true → (d.execute s p event).Ensures fun _ => True

namespace Plan

variable {d : Definition V I} {h : Dispatcher V I}

/-! ### Runs under way -/

/-- What a plan says of a run that is under way. -/
structure Chronicle (P : Plan d h) (i : Instance V) : Prop where
  /-- The run began in the initial state. -/
  begins : i.history.head? = some d.initial
  /-- The last state entered is the current one. -/
  last : ∃ before, i.history = before ++ [i.state]
  /-- Each state is closer to the end than those before it. -/
  descends : i.history.Pairwise fun a b => P.rank b < P.rank a
  /-- A failure is recorded exactly if the failed state was entered. -/
  failure : i.failure.isSome = true ↔ d.failedState ∈ i.history
  /-- Only the end comes after the failed state, and at once. -/
  fails : ∀ before, i.history = before ++ [i.state] → d.failedState ∈ before →
    d.isTerminal i.state = true ∧ before.getLast? = some d.failedState

namespace Chronicle

variable {P : Plan d h} {i : Instance V}

theorem new (P : Plan d h) (p : FlowParameters) : P.Chronicle (Instance.new p d.initial) where
  begins := rfl
  last := ⟨[], rfl⟩
  descends := List.pairwise_singleton ..
  failure := by
    constructor
    · intro hf
      cases hf
    · intro hf
      exact absurd (List.mem_singleton.mp hf).symm P.initial_ne
  fails before hb hf := by
    -- Nothing comes before the initial state.
    have hlen := congrArg List.length hb
    rw [List.length_append] at hlen
    have hnil : before = [] := List.eq_nil_of_length_eq_zero (Nat.succ.inj hlen).symm
    rw [hnil] at hf
    cases hf

/-- No state is visited twice. -/
theorem nodup (hc : P.Chronicle i) : i.history.Nodup := by
  -- No state is closer to the end than itself.
  refine hc.descends.imp ?_
  intro a b hlt hab
  rw [hab] at hlt
  exact Nat.lt_irrefl _ hlt

/-- A state that follows is closer to the end than every state so far. -/
theorem rank_lt (hc : P.Chronicle i) {sel : V.Selector} {s a : V.State}
    (ht : d.transition i.state sel = some s) (ha : a ∈ i.history) : P.rank s < P.rank a := by
  obtain ⟨before, hb⟩ := hc.last
  have hs := P.descends _ _ _ ht
  have hd := hc.descends
  rw [hb, List.pairwise_append] at hd
  rw [hb, List.mem_append, List.mem_singleton] at ha
  rcases ha with ha | rfl
  · exact Nat.lt_trans hs (hd.2.2 a ha _ (List.mem_singleton_self _))
  · exact hs

/-- The run goes on from a state that is not the end. -/
theorem enter (hc : P.Chronicle i) {sel : V.Selector} {s : V.State}
    (hg : d.isTerminal i.state = false) (ht : d.transition i.state sel = some s) {i' : Instance V}
    (hh : i'.history = i.history ++ [s]) (hs : i'.state = s)
    (hf : i'.failure.isSome = true ↔ s = d.failedState ∨ i.failure.isSome = true) :
    P.Chronicle i' := by
  obtain ⟨before, hb⟩ := hc.last
  refine ⟨?_, ⟨i.history, hs ▸ hh⟩, ?_, ?_, ?_⟩
  · -- Whatever is added at the end, the run began as it did.
    rw [hh, List.head?_append, hc.begins]
    rfl
  · rw [hh, List.pairwise_append]
    refine ⟨hc.descends, List.pairwise_singleton .., ?_⟩
    intro a ha b hb
    rw [List.mem_singleton.mp hb]
    exact hc.rank_lt ht ha
  · rw [hf, hc.failure, hh, List.mem_append, List.mem_singleton]
    constructor
    · rintro (h | h)
      · exact .inr h.symm
      · exact .inl h
    · rintro (h | h)
      · exact .inr h
      · exact .inl h.symm
  · intro before' hb' hmem
    have heq : before' = i.history := by
      rw [hh, hs] at hb'
      exact (List.append_inj_left' hb' rfl).symm
    subst heq
    -- Had the failed state come earlier, the run would be at its end already.
    have hfail : i.state = d.failedState := by
      rw [hb, List.mem_append, List.mem_singleton] at hmem
      rcases hmem with hmem | hmem
      · rw [(hc.fails before hb hmem).1] at hg
        cases hg
      · exact hmem.symm
    rw [hfail] at ht
    refine ⟨hs ▸ P.fails _ _ ht, ?_⟩
    rw [hb, hfail]
    exact List.getLast?_concat

/-- At the end, the failed state came right before or not at all. -/
theorem fails_at_end (hc : P.Chronicle i) (ht : d.isTerminal i.state = true) :
    ∃ before, i.history = before ++ [i.state] ∧
      (d.failedState ∈ i.history → before.getLast? = some d.failedState) := by
  obtain ⟨before, hb⟩ := hc.last
  refine ⟨before, hb, ?_⟩
  intro hm
  rw [hb, List.mem_append, List.mem_singleton] at hm
  rcases hm with hm | hm
  · exact (hc.fails before hb hm).2
  · -- The failed state itself is not the end.
    rw [← hm, P.failed_going] at ht
    cases ht

/-- A run that followed a plan and is cancelled, or ends in a terminal state with the status that
    its failure calls for, is concluded. -/
theorem concluded (hc : P.Chronicle i) (hr : i.status = .running) {s : FlowStatus}
    (hs : s = .cancelled ∨
      (d.isTerminal i.state = true ∧ s = if i.failure.isSome then .failed else .finished))
    (now : Duration) : d.Concluded (i.finish s now) := by
  have hst : (i.finish s now).status = s := Instance.status_finish_of_running hr ..
  refine ⟨?_, ?_, ?_, ?_⟩
  · rw [hst]
    rcases hs with rfl | ⟨-, rfl⟩
    · exact nofun
    · split <;> exact nofun
  · rw [Instance.history_finish]
    exact hc.begins
  · rw [Instance.history_finish]
    exact hc.nodup
  · intro hne
    rw [hst] at hne ⊢
    rw [Instance.history_finish]
    rcases hs with rfl | ⟨hter, rfl⟩
    · exact absurd rfl hne
    · obtain ⟨before, hb, hlast⟩ := hc.fails_at_end hter
      refine ⟨before, i.state, hb, hter, hlast, ?_⟩
      rw [← hc.failure]
      split <;> simp [*]

end Chronicle

end Plan

end ResourceFlow
