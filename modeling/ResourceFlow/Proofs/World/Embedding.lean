import ResourceFlow.Proofs.Engine.Embedding
import ResourceFlow.Proofs.World.Closing
import ResourceFlow.Proofs.World.GivingWay
/-! # Flows among others on one registry

  Engines whose flows are of different vocabularies share a registry in a
  world of a larger vocabulary, in which their definitions and handlers are
  seen from outside. A flow that is started there with a request of its own
  vocabulary ends as it does where all flows are of its kind
  (`World.Execution.endsExplained_of_start`), and gives way to cancels as it
  does there (`Definition.GivesWay.embed`), whatever the other flows are.
-/

namespace ResourceFlow

variable {V W : Vocabulary} {I J : Interface} {em : Embedding V W} {link : Interface.Link I J}
  {d : Definition V I} {hs : List (Handler V I)}

/-- A definition seen from outside gives way to cancels as it did. -/
theorem Definition.GivesWay.embed {polling : Polling} (h : d.GivesWay (.ofList hs) polling)
    (hem : em.Lawful) (link : Interface.Link I J) :
    (em.definition link d).GivesWay (.ofList (hs.map (em.handler link))) polling where
  execute t p x := by
    rcases hem.ours_or_other t x with ⟨s, e, rfl, rfl⟩ | hother
    · rw [hem.execute_state]
      refine (h.execute s p e).through.map ?_
      intro next hnext
      rwa [Option.isSome_map]
    · rw [Embedding.execute_other hother]
      trivial
  closed t p x hter := by
    obtain ⟨s, rfl, hs⟩ := hem.isTerminal_iff.mp hter
    rcases hem.event_or_other x with ⟨e, rfl⟩ | hother
    · obtain ⟨res, hres⟩ := h.closed s p e hs
      refine ⟨res.map (·.map em.event), ?_⟩
      rw [hem.execute_state, hres]
      rfl
    · exact ⟨.ok none, Embedding.execute_other (.inr hother) p⟩
  accept x hd' flow hh := by
    rcases hem.event_or_other x with ⟨e, rfl⟩ | hother
    · obtain ⟨hd, hhd, rfl⟩ := hem.handler?_event.mp hh
      rw [hem.accept_event]
      exact (h.accept e hd flow hhd).through.map fun _ _ => trivial
    · obtain ⟨_, hd, -, rfl⟩ := hem.exists_handler hh
      rw [Embedding.accept_other hother]
      trivial

/-- What is said through the link tells what was said, and that explains how the run ends. -/
theorem Account.Explains.embed {A : Account d (.ofList hs)} {p : FlowParameters}
    {X : Talk I → Instance V → Prop} (hX : A.Explains p X) (hem : em.Lawful)
    (hlink : Function.Injective link.call) :
    (A.embed hem link).Explains p fun talk j =>
      ∃ i own, em.run i = j ∧ link.Carries own talk ∧ X own i := by
  intro j talk s now hrun hparams hclosing hallowed hs
  obtain ⟨i, own, rfl, hc, hclosing⟩ := hclosing
  refine ⟨i.finish s now, own, (em.run_finish i s now).symm, hc, ?_⟩
  refine hX i own s now hrun hparams hclosing ?_ hs
  intro before c call after hown
  rw [hown] at hc
  obtain ⟨before', after', htalk, hbefore⟩ := hc.split
  obtain ⟨_, k, before'', call', -, hbefore', hcall, hallow⟩ := hallowed before' c _ after' htalk
  -- What was allowed from outside is this very call, after this very talk.
  obtain rfl := hlink hcall
  obtain rfl := hbefore'.unique hlink hbefore
  exact ⟨k, hallow⟩

namespace World.Execution

variable {E : Execution W J} {e : EngineId}

/-- A flow ends, and what is said of it from outside tells how, in its own terms: `X` is what it is
    to end so, told by what is said. -/
structure EndsExplained (E : Execution W J) (em : Embedding V W) (link : Interface.Link I J)
    (e : EngineId) (f : FlowId) (r : ResourceId) (X : Talk I → Instance V → Prop) (n : Nat)
    (j : Instance W) : Prop where
  /-- Step `n` ends it. -/
  ends : E.EndsIn e f n j
  /-- After its end nothing is said. -/
  silent : ∀ m, n ≤ m → E.talk e f m = E.talk e f n
  /-- It is cancelled only if a cancel of it is recorded. -/
  calm : (∀ m, ¬ CancelRecorded (E.world m) (E.world (m + 1)) r f) → j.status ≠ .cancelled
  /-- Otherwise what was said explains how it ended. -/
  explained : j.status ≠ .cancelled → ∃ i own, em.run i = j ∧ link.Carries own (E.talk e f n) ∧
    X own i

variable {engines : List (Definition W J × List (Handler W J) × Nat)}
  {retention n₀ serial : Nat} {q : StartRequest V}

/-- A flow with a plan and an account that is started on a free lane, among whatever others, ends in
    every fair execution, and its account explains how. -/
theorem endsExplained_of_start (hem : em.Lawful) (hlink : Function.Injective link.call)
    (A : (ResourceId → Prop) → Account d (.ofList hs)) (P : Plan d (.ofList hs))
    {X : Talk I → Instance V → Prop}
    (hX : (A fun _ => True).Explains (q.params (.opened serial) d.flowType) X)
    (hseen : ∀ seen r, (A seen).seen r ↔ seen r) (hstart : P.awaits d.initial (q.event d.start))
    (hready : ∀ seen, (A seen).ready (.new (q.params (.opened serial) d.flowType) d.initial)
      (q.event d.start) [])
    (h₀ : E.world 0 = initial engines) (hf : E.Fair)
    (he : engines[e]? = some (em.definition link d, hs.map (em.handler link), retention))
    (hl : E.label n₀ = .start e serial (em.request q))
    (hfree : (E.world n₀).lane? q.resourceId = none)
    (hno : ∀ n e' event, E.label n ≠ .dispatch e' (.opened serial) event) :
    ∃ n j, E.EndsExplained em link e (.opened serial) q.resourceId X n j := by
  obtain ⟨n, j, s, hc⟩ := closes_of_start (fun seen => (A seen).embed hem link) (P.embed hem link)
    h₀ hf he hseen ⟨_, _, rfl, rfl, hstart⟩
    (fun seen => ⟨_, _, [], rfl, rfl, .nil, hready seen⟩) hl hfree hno
  exact ⟨n, _, hc.ends, hc.silent, hc.uncancelled, hc.explained (hX.embed hem hlink)⟩

end World.Execution

end ResourceFlow
