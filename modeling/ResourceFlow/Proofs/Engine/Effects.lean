import ResourceFlow.Proofs.Engine.Moves
/-! # What a step does to occupancy and to locks

  A step of a task does one of two things to the flows that run: it leaves
  them alone (`Desk.Quiet`), or it ends one of them (`Desk.Quits`). Only the
  holder of a lock ends a flow. With the lock of a lane a step does one of
  three things (`Desk.LockMove`): it keeps what the task has, asks, or passes
  the lock on.
-/

namespace ResourceFlow

/-! ### What a task has in hand -/

namespace Work

variable {V : Vocabulary} {I : Interface}

/-- The lock that a task asked for, and the flow on whose behalf. -/
def stake? : Work V I → Option (LockId × FlowId)
  | .process _ flow (.queued lock _) => some (lock, flow)
  | .process _ flow (.ready lock ..) => some (lock, flow)
  | .process _ flow (.handling lock ..) => some (lock, flow)
  | .process _ flow (.acting lock ..) => some (lock, flow)
  | .cancel _ (.queued lock flow) => some (lock, flow)
  | _ => none

/-- The lock that a task holds while it processes events, and the parameters of the flow. -/
def inHand? : Work V I → Option (LockId × FlowParameters)
  | .process _ _ (.ready lock p _) => some (lock, p)
  | .process _ _ (.handling lock p ..) => some (lock, p)
  | .process _ _ (.acting lock p ..) => some (lock, p)
  | _ => none

/-- What is in hand was asked for. -/
theorem stake?_of_inHand? {w : Work V I} {lock : LockId} {p : FlowParameters}
    (h : w.inHand? = some (lock, p)) :
    ∃ o flow stage, w = .process o flow stage ∧ w.stake? = some (lock, flow) := by
  cases w with
  | process o flow stage =>
    cases stage <;> simp only [inHand?, Option.some.injEq, Prod.mk.injEq, reduceCtorEq] at h <;>
      obtain ⟨rfl, rfl⟩ := h <;> exact ⟨o, flow, _, rfl, rfl⟩
  | cancel r stage => simp [inHand?] at h
  | refused e => simp [inHand?] at h

end Work

namespace Desk

variable {V : Vocabulary} {I : Interface}

/-! ### Two kinds of steps -/

/-- Every flow that ran still runs, and every lane is occupied as before. At most, a resource whose
    lane is occupied is marked. -/
structure Quiet (d d' : Desk V I) : Prop where
  /-- The flows that run are the same. -/
  running : ∀ g, d'.engine.running? g = d.engine.running? g
  /-- Every instance was there before. -/
  kept : ∀ g i', d'.engine.instance? g = some i' →
    ∃ i, d.engine.instance? g = some i ∧ i'.params = i.params ∧ i'.status = i.status
  /-- No flow is retired. -/
  retired : d'.engine.retired = d.engine.retired
  /-- The lanes are the same. -/
  lane : ∀ r, d'.registry.lanes.lane? r = d.registry.lanes.lane? r
  /-- What is recorded is the same, up to a mark on an occupied lane. -/
  status : ∀ r, d'.registry.status? r = d.registry.status? r ∨
    (d'.registry.status? r = some .cancelled ∧ (d.registry.lanes.lane? r).isSome)

/-- The flow with parameters `p` ends with status `s`, and its lane is free again. -/
structure Quits (d d' : Desk V I) (p : FlowParameters) (s : FlowStatus) : Prop where
  /-- No other flow ends, and none begins. -/
  running : ∀ g, d'.engine.running? g = if g = p.flow then none else d.engine.running? g
  /-- Every instance was there before. -/
  kept : ∀ g i', d'.engine.instance? g = some i' →
    ∃ i, d.engine.instance? g = some i ∧ i'.params = i.params ∧
      (i'.status = i.status ∨ (g = p.flow ∧ i'.status = s))
  /-- No other flow is retired. -/
  retired : ∀ g ∈ d'.engine.retired, g = p.flow ∨ g ∈ d.engine.retired
  /-- The lane that the flow occupied is free, and no other. -/
  lane : ∀ r, d'.registry.lanes.lane? r =
    if r = p.resourceId ∧ d.registry.lanes.holds p.resourceId p.flow = true then none
    else d.registry.lanes.lane? r
  /-- What was recorded of its resource is dropped, and nothing else. -/
  status : ∀ r, d'.registry.status? r =
    if r = p.resourceId ∧ d.registry.lanes.holds p.resourceId p.flow = true then none
    else d.registry.status? r

theorem Quiet.refl (d : Desk V I) : Quiet d d where
  running _ := rfl
  kept _ i' h := ⟨i', h, rfl, rfl⟩
  retired := rfl
  lane _ := rfl
  status _ := .inl rfl

/-- A lock that is passed on changes nothing here. -/
theorem Quiet.passLock {d d' : Desk V I} (h : Quiet d d') (lock : LockId) :
    Quiet d (d'.passLock lock) where
  running := h.running
  kept := h.kept
  retired := h.retired
  lane := h.lane
  status := h.status

@[inherit_doc Quiet.passLock]
theorem Quits.passLock {d d' : Desk V I} {p : FlowParameters} {s : FlowStatus}
    (h : Quits d d' p s) (lock : LockId) : Quits d (d'.passLock lock) p s where
  running := h.running
  kept := h.kept
  retired := h.retired
  lane := h.lane
  status := h.status

/-- A change of one instance that touches neither parameters nor status. -/
theorem Quiet.update {d : Desk V I} {e : Engine V I} {f : FlowId}
    {change : Instance V → Instance V} (hp : ∀ i, (change i).params = i.params)
    (hs : ∀ i, (change i).status = i.status)
    (he : ∀ g, e.instance? g = (d.engine.update f change).instance? g)
    (hr : e.retired = d.engine.retired) : Quiet d { d with engine := e } where
  running g := by
    show e.running? g = _
    rw [Engine.running?_congr (he g), Engine.running?_update _ _ _ hp hs]
  kept g i' h := by
    have h : e.instance? g = some i' := h
    rw [he, Engine.instance?_update] at h
    split at h
    · obtain ⟨i, hi, rfl⟩ := Option.map_eq_some_iff.mp h
      exact ⟨i, hi, hp i, hs i⟩
    · exact ⟨i', h, rfl, rfl⟩
  retired := hr
  lane _ := rfl
  status _ := .inl rfl

theorem Quiet.enter (d : Desk V I) (a : AuditRecord) (f : FlowId) (s : V.State) (event : V.Event) :
    Quiet d { d with engine := (d.engine.record a).enter f s event } := by
  refine Quiet.update ?_ ?_ (fun g => rfl) rfl
  · intro i; dsimp only; split <;> rfl
  · intro i; dsimp only; split <;> rfl

/-- A cancel marks a resource whose lane is occupied. -/
theorem Quiet.request {d : Desk V I} {r : ResourceId} {lane : Lane}
    (hl : d.registry.lanes.lane? r = some lane) (t : TaskId) :
    Quiet d { d with registry := (d.registry.markCancelled r).askLock lane.lock t } where
  running _ := rfl
  kept _ i' h := ⟨i', h, rfl, rfl⟩
  retired := rfl
  lane _ := rfl
  status r' := by
    rw [Registry.status?_askLock, Registry.status?_markCancelled]
    by_cases h : r' = r
    · subst h; right; simp [hl]
    · left; simp [h]

/-! ### How a flow ends -/

/-- What changed only in the engine, and quietly, does not matter to how a flow ends after it. -/
theorem Quits.after {d d₁ d' : Desk V I} {p : FlowParameters} {s : FlowStatus}
    (hq : Quits d₁ d' p s) (h : Quiet d d₁) (hg : d₁.registry = d.registry) : Quits d d' p s where
  running g := by rw [hq.running, h.running]
  kept g i' h' := by
    obtain ⟨i₁, h₁, hp₁, hs₁⟩ := hq.kept g i' h'
    obtain ⟨i, hi, hp, hs⟩ := h.kept g i₁ h₁
    exact ⟨i, hi, hp₁.trans hp, hs ▸ hs₁⟩
  retired g h' := h.retired ▸ hq.retired g h'
  lane r := by rw [hq.lane, hg]
  status r := by rw [hq.status, hg]

theorem Quits.conclude {d : Desk V I} (hr : ∀ g ∈ d.engine.retired, d.engine.running? g = none)
    (p : FlowParameters) {s : FlowStatus} (hs : s ≠ .running) (now : Duration) :
    Quits d (d.conclude p s now) p s := by
  have hrun : ∀ g, (d.engine.finish p.flow s now).running? g =
      if g = p.flow then none else d.engine.running? g :=
    fun g => Engine.running?_finish _ _ _ hs _
  have hret : ∀ g ∈ (d.engine.finish p.flow s now).retired,
      (d.engine.finish p.flow s now).running? g = none := by
    intro g hg
    rw [Engine.retired_finish] at hg
    rw [hrun, hr g hg, ite_self]
  unfold Desk.conclude discharge
  dsimp only
  split
  · -- The flow ran, so it is retired.
    refine ⟨?_, ?_, ?_, ?_, ?_⟩
    · intro g
      show ((d.engine.finish p.flow s now).retire p.flow).running? g = _
      rw [Engine.running?_retire (by rw [hrun, if_pos rfl]) hret, hrun]
    · intro g i' h
      rcases Engine.instance?_retire (d.engine.finish p.flow s now) p.flow g with he | ⟨he, -⟩
      · exact Engine.kept_finish (he ▸ h)
      · exact absurd (he.symm.trans h) nofun
    · intro g hg
      exact Engine.mem_retired_retire hg
    · intro r
      exact Registry.lane?_discharge ..
    · intro r
      exact Registry.status?_discharge ..
  · -- It does not run here, so nothing is retired.
    refine ⟨hrun, fun g i' h => Engine.kept_finish h, ?_, ?_, ?_⟩
    · intro g hg
      exact .inr hg
    · intro r
      exact Registry.lane?_discharge ..
    · intro r
      exact Registry.status?_discharge ..

theorem Quits.finishCancelled {d : Desk V I}
    (hr : ∀ g ∈ d.engine.retired, d.engine.running? g = none) (p : FlowParameters)
    (now : Duration) : Quits d (d.finishCancelled p now) p .cancelled :=
  Quits.conclude hr p (s := .cancelled) nofun now

/-- The end of a flow in a terminal state. -/
theorem Quits.complete {d : Desk V I}
    (hr : ∀ g ∈ d.engine.retired, d.engine.running? g = none) {p : FlowParameters}
    (hp : d.engine.running? p.flow = some p) (now : Duration) :
    ∃ s, Quits d (d.complete p now).1 p s := by
  obtain ⟨i, hi, -, -⟩ := Engine.running?_eq_some_iff.mp hp
  unfold Desk.complete
  rw [hi]
  refine ⟨_, Quits.conclude hr p ?_ now⟩
  split <;> exact nofun

/-- The end of a flow on an event without transition. -/
theorem Quits.reject {d : Desk V I}
    (hr : ∀ g ∈ d.engine.retired, d.engine.running? g = none) {p : FlowParameters}
    (hp : d.engine.running? p.flow = some p) (s : V.State) (event : V.Event) (now : Duration) :
    Quits d (d.reject p s event now).1 p .failed := by
  unfold Desk.reject
  rw [if_pos (by rw [Engine.isRunning_eq, hp]; rfl)]
  -- The failure is noted and recorded before the flow ends.
  refine (Quits.conclude ?_ p (s := .failed) nofun now).after
    (Quiet.update (f := p.flow) ?_ ?_ (fun g => rfl) rfl) rfl
  · intro g hg
    rw [Engine.running?_record, Engine.running?_update]
    · exact hr g hg
    · intro i; rfl
    · intro i; rfl
  · intro i; rfl
  · intro i; rfl

/-! ### What each step does to the flows -/

/-- Who ends a flow: the task that processes its events, or one that cancels it. -/
def Ends (d : Desk V I) (t : TaskId) (w : Work V I) (p : FlowParameters) (s : FlowStatus) :
    Prop :=
  (∃ lock, w.inHand? = some (lock, p) ∧ (s = .cancelled ∨
      (∃ o flow event, w = .process o flow (.ready lock p event) ∧
        d.registry.isCancelled p.resourceId = false) ∨
      ∃ o flow event state a, w = .process o flow (.acting lock p event state a) ∧
        d.engine.definition.isTerminal state = true)) ∨
    ∃ r lock flow i, w = .cancel r (.queued lock flow) ∧ s = .cancelled ∧
      d.registry.lanes.isHeldBy lock t = true ∧ d.engine.instance? flow = some i ∧ i.params = p

/-- A step leaves the flows alone or ends one of them, as long as the flow at hand runs. -/
theorem Move.effect {d d' : Desk V I} {t : TaskId} {now : Duration} {reply : I.Reply}
    {w w' : Work V I} (h : Move d t now reply w d' w')
    (hr : ∀ g ∈ d.engine.retired, d.engine.running? g = none)
    (hin : ∀ lock p, w.inHand? = some (lock, p) → d.engine.running? p.flow = some p) :
    Quiet d d' ∨ ∃ p s, Quits d d' p s ∧ w'.stake? = none ∧ Ends d t w p s := by
  -- The quiet moves first, then those that end the flow at hand.
  cases h with
  | unknown _ | ended _ _ | displaced _ _ _ | admitted _ _ _ | handle _ | handled | handlerFailed _
  | act _ | acted _ | actionFailed _ _ | nothing => exact .inl (.refl d)
  | forgotten _ _ | late _ _ _ | lost _ _ | parked _ | gone _ _ =>
    exact .inl ((Quiet.refl d).passLock _)
  | queue _ _ _ _ | hand _ _ _ =>
    -- A queue or the audit trail changes, and nothing that `Quiet` looks at.
    exact .inl ⟨fun _ => rfl, fun _ i' h => ⟨i', h, rfl, rfl⟩, rfl, fun _ => rfl,
      fun _ => .inl rfl⟩
  | enter _ _ _ _ => exact .inl (.enter d ..)
  | request hl _ => exact .inl (.request hl t)
  | halt _ | handlerCancelled _ | actionCancelled _ =>
    exact .inr ⟨_, _, (Quits.finishCancelled hr _ now).passLock _, rfl, .inl ⟨_, rfl, .inl rfl⟩⟩
  | refuse hc _ _ _ =>
    exact .inr ⟨_, _, (Quits.reject hr (hin _ _ rfl) _ _ now).passLock _, rfl,
      .inl ⟨_, rfl, .inr (.inl ⟨_, _, _, rfl, hc⟩)⟩⟩
  | completed _ hs =>
    obtain ⟨s, hq⟩ := Quits.complete hr (hin _ _ rfl) now
    exact .inr ⟨_, s, hq.passLock _, rfl, .inl ⟨_, rfl, .inr (.inr ⟨_, _, _, _, _, rfl, hs⟩)⟩⟩
  | finish hh hi =>
    exact .inr ⟨_, _, (Quits.finishCancelled hr _ now).passLock _, rfl,
      .inr ⟨_, _, _, _, rfl, rfl, hh, hi, rfl⟩⟩

/-! ### What each step does to the locks -/

/-- The engines are built alike, and the same locks are given out and held. -/
structure Alike (d d' : Desk V I) : Prop where
  /-- The definition is the same. -/
  definition : d'.engine.definition = d.engine.definition
  /-- The handlers are the same. -/
  dispatcher : d'.engine.dispatcher = d.engine.dispatcher
  /-- No lock is given out. -/
  nextLock : d'.registry.lanes.nextLock = d.registry.lanes.nextLock
  /-- Holders and queues are the same. -/
  lock : ∀ j, d'.registry.lanes.lock j = d.registry.lanes.lock j

theorem Alike.conclude (d : Desk V I) (p : FlowParameters) (s : FlowStatus) (now : Duration) :
    Alike d (d.conclude p s now) := by
  unfold Desk.conclude
  dsimp only
  split
  · exact ⟨rfl, rfl, Registry.nextLock_discharge .., Registry.lock_discharge _ _ _⟩
  · exact ⟨rfl, rfl, Registry.nextLock_discharge .., Registry.lock_discharge _ _ _⟩

theorem Alike.complete (d : Desk V I) (p : FlowParameters) (now : Duration) :
    Alike d (d.complete p now).1 := by
  unfold Desk.complete
  split
  · exact ⟨rfl, rfl, Registry.nextLock_discharge .., Registry.lock_discharge _ _ _⟩
  · exact Alike.conclude ..

theorem Alike.reject (d : Desk V I) (p : FlowParameters) (s : V.State) (event : V.Event)
    (now : Duration) : Alike d (d.reject p s event now).1 := by
  unfold Desk.reject
  dsimp only
  split
  · obtain ⟨h₁, h₂, h₃, h₄⟩ := Alike.conclude (V := V) (I := I) _ p .failed now
    exact ⟨h₁, h₂, h₃, h₄⟩
  · exact ⟨rfl, rfl, rfl, fun _ => rfl⟩

/-- What a step of task `t` does with locks. -/
inductive LockMove (t : TaskId) (d : Desk V I) (w : Work V I) (d' : Desk V I) (w' : Work V I) :
    Prop where
  /-- It does nothing; what it has in hand afterwards, it holds. -/
  | keeps (hs : w'.stake? = w.stake?)
      (hl : ∀ j, d'.registry.lanes.lock j = d.registry.lanes.lock j)
      (hin : ∀ lock p, w'.inHand? = some (lock, p) → d.registry.lanes.isHeldBy lock t = true)
  /-- It asks for the lock of an occupied lane. -/
  | asks {r : ResourceId} {lane : Lane} (hr : d.registry.lanes.lane? r = some lane)
      (hs : w.stake? = none) (hs' : w'.stake? = some (lane.lock, lane.flow))
      (hin : w'.inHand? = none)
      (hl : ∀ j, d'.registry.lanes.lock j =
        if j = lane.lock then (d.registry.lanes.lock j).ask t else d.registry.lanes.lock j)
  /-- It passes the lock on that it holds. -/
  | passes {lock : LockId} {flow : FlowId} (hs : w.stake? = some (lock, flow))
      (hh : d.registry.lanes.isHeldBy lock t = true) (hs' : w'.stake? = none)
      (hl : ∀ j, d'.registry.lanes.lock j =
        if j = lock then (d.registry.lanes.lock j).pass else d.registry.lanes.lock j)

/-- A lock passed on at the end of a step that touched no lock. -/
theorem LockMove.passed {t : TaskId} {d d' : Desk V I} {w w' : Work V I} {lock : LockId}
    {flow : FlowId} (ha : Alike d d') (hs : w.stake? = some (lock, flow))
    (hh : d.registry.lanes.isHeldBy lock t = true) (hs' : w'.stake? = none) :
    LockMove t d w (d'.passLock lock) w' := by
  refine .passes hs hh hs' ?_
  intro j
  show (d'.registry.lanes.pass lock).lock j = _
  rw [Lanes.lock_pass, ha.lock]

theorem Alike.refl (d : Desk V I) : Alike d d := ⟨rfl, rfl, rfl, fun _ => rfl⟩

theorem Move.lockMove {d d' : Desk V I} {t : TaskId} {now : Duration} {reply : I.Reply}
    {w w' : Work V I} (h : Move d t now reply w d' w')
    (hin : ∀ lock p, w.inHand? = some (lock, p) → d.registry.lanes.isHeldBy lock t = true) :
    LockMove t d w d' w' := by
  -- A task asks once, holds the lock while it is at work, and passes it on when it is over.
  cases h with
  | unknown _ | ended _ _ | displaced _ _ _ | nothing =>
    exact .keeps rfl (fun _ => rfl) (fun _ _ h => nomatch h)
  | queue _ _ hl hf =>
    subst hf
    exact .asks hl rfl rfl rfl fun j => Lanes.lock_ask ..
  | request hl _ => exact .asks hl rfl rfl rfl fun j => Lanes.lock_ask ..
  | forgotten hh _ | late hh _ _ | gone hh _ => exact .passed (.refl d) rfl hh rfl
  | finish hh _ => exact .passed (.conclude ..) rfl hh rfl
  | halt _ | handlerCancelled _ | actionCancelled _ =>
    exact .passed (.conclude ..) rfl (hin _ _ rfl) rfl
  | refuse _ _ _ _ => exact .passed (.reject ..) rfl (hin _ _ rfl) rfl
  | completed _ _ => exact .passed (.complete ..) rfl (hin _ _ rfl) rfl
  | lost _ _ | parked _ => exact .passed (.refl d) rfl (hin _ _ rfl) rfl
  | admitted hh _ _ =>
    refine .keeps rfl (fun _ => rfl) ?_
    intro lock p h
    cases h
    exact hh
  | hand _ _ _ | enter _ _ _ _ | handle _ | handled | handlerFailed _ | act _ | acted _
  | actionFailed _ _ =>
    refine .keeps rfl (fun _ => rfl) ?_
    intro lock p h
    exact hin lock p h

/-- A step never changes what the engine is built of, nor which locks are given out. -/
theorem Move.fixed {d d' : Desk V I} {t : TaskId} {now : Duration} {reply : I.Reply}
    {w w' : Work V I} (h : Move d t now reply w d' w') :
    d'.engine.definition = d.engine.definition ∧ d'.engine.dispatcher = d.engine.dispatcher ∧
      d'.registry.lanes.nextLock = d.registry.lanes.nextLock := by
  have hc := fun p s => Alike.conclude d p s now
  cases h with
  | halt _ | handlerCancelled _ | actionCancelled _ | finish _ _ =>
    exact ⟨(hc _ _).definition, (hc _ _).dispatcher, (hc _ _).nextLock⟩
  | refuse _ _ _ _ =>
    exact ⟨(Alike.reject ..).definition, (Alike.reject ..).dispatcher, (Alike.reject ..).nextLock⟩
  | completed _ _ =>
    exact ⟨(Alike.complete ..).definition, (Alike.complete ..).dispatcher,
      (Alike.complete ..).nextLock⟩
  | _ => exact ⟨rfl, rfl, rfl⟩

/-- What is in hand after a step was in hand before, or comes with the lock of a flow that runs. -/
theorem Move.inHand? {d d' : Desk V I} {t : TaskId} {now : Duration} {reply : I.Reply}
    {w w' : Work V I} (h : Move d t now reply w d' w') {lock : LockId} {p : FlowParameters}
    (hp : w'.inHand? = some (lock, p)) :
    w.inHand? = some (lock, p) ∨
      ∃ o flow event, w = .process o flow (.queued lock event) ∧
        d.engine.running? flow = some p := by
  cases h with
  | admitted _ hi hr =>
    cases hp
    exact .inr ⟨_, _, _, rfl, Engine.running?_of_instance? hi hr⟩
  | hand _ _ _ | enter _ _ _ _ | handle _ | handled | handlerFailed _ | act _ | acted _
  | actionFailed _ _ => exact .inl hp
  | _ => cases hp

end Desk

end ResourceFlow
