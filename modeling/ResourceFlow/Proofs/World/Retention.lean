import ResourceFlow.Proofs.World.Occupancy
/-! # Steps in which nothing is forgotten

  An engine may forget a flow in the very step in which the flow ends, so how
  a flow ended cannot always be read off the world after the step.
  `World.roomy` is the same world with room for one more ended flow at every
  engine: the step that is taken from it is the same up to what is forgotten,
  and forgets nothing. What is said of every step from `w.roomy` is said of
  how flows end, whatever the retention.
-/

namespace ResourceFlow

/-- The engine with room for one more ended flow. -/
def Engine.roomy {V : Vocabulary} {I : Interface} (e : Engine V I) : Engine V I :=
  { e with retention := e.retired.length + 1 }

namespace World

variable {V : Vocabulary} {I : Interface}

/-- The world with room for one more ended flow at every engine. -/
def roomy (w : World V I) : World V I := { w with engines := w.engines.map Engine.roomy }

theorem engines_roomy {w : World V I} {e : EngineId} {eng : Engine V I}
    (h : w.roomy.engines[e]? = some eng) :
    ∃ eng₀, w.engines[e]? = some eng₀ ∧ eng = eng₀.roomy := by
  unfold roomy at h
  rw [List.getElem?_map, Option.map_eq_some_iff] at h
  obtain ⟨eng₀, he, rfl⟩ := h
  exact ⟨eng₀, he, rfl⟩

theorem engine_roomy {w : World V I} {e : EngineId} {eng : Engine V I}
    (h : w.engines[e]? = some eng) : w.roomy.engines[e]? = some eng.roomy := by
  unfold roomy
  rw [List.getElem?_map, h]
  rfl

@[simp] theorem instance?_roomy (w : World V I) (e : EngineId) (f : FlowId) :
    w.roomy.instance? e f = w.instance? e f := by
  unfold instance? roomy
  rw [List.getElem?_map]
  cases w.engines[e]? <;> rfl

@[simp] theorem running?_roomy (w : World V I) (e : EngineId) (f : FlowId) :
    w.roomy.running? e f = w.running? e f := by
  unfold running? roomy
  rw [List.getElem?_map]
  cases w.engines[e]? <;> rfl

/-- An engine that has no room for one more ended flow. -/
def Full (w : World V I) (e : EngineId) : Prop :=
  ∃ eng, w.engines[e]? = some eng ∧ eng.retention ≤ eng.retired.length

theorem not_full_roomy (w : World V I) (e : EngineId) : ¬ w.roomy.Full e := by
  rintro ⟨eng, he, hfull⟩
  obtain ⟨eng₀, -, rfl⟩ := engines_roomy he
  exact absurd hfull (Nat.not_succ_le_self _)

theorem Orderly.roomy {w : World V I} (h : Orderly w) : Orderly w.roomy where
  queues := ⟨h.queues.sound, h.queues.nodup, h.queues.party, h.queues.inHand⟩
  keyed e f i hi := h.keyed e f i (instance?_roomy w e f ▸ hi)
  single e e' f i i' hi hi' :=
    h.single e e' f i i' (instance?_roomy w e f ▸ hi) (instance?_roomy w e' f ▸ hi')
  retired e eng f he hf := by
    obtain ⟨eng₀, he₀, rfl⟩ := engines_roomy he
    exact h.retired e eng₀ f he₀ hf
  occupant r lane hl := by
    simp only [running?_roomy]
    exact h.occupant r lane hl
  occupies e f p hp := h.occupies e f p (running?_roomy w e f ▸ hp)
  given := h.given
  locks := h.locks
  recorded := h.recorded
  stakes := h.stakes
  atWork t task l p ht hp := by
    rw [running?_roomy]
    exact h.atWork t task l p ht hp

end World

end ResourceFlow
