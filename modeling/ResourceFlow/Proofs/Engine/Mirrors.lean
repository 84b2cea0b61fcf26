import ResourceFlow.Proofs.Engine.Endings
import ResourceFlow.Proofs.Program.Confined
import ResourceFlow.Proofs.Registry.Mirrors
/-! # Desks that agree on one resource

  Two desks mirror each other on a resource if their registries do and their
  engines, built alike, keep the same instances of its flows and recorded the
  same of them. Then

  - a task of the resource takes the same step on both sides
    (`Desk.Mirrors.work`);
  - a step of any other task on the first side is not seen on the second
    (`Desk.Mirrors.aside`).

  An engine forgets flows when too many have ended, on whatever resource. So
  both need room where a flow ends (`Engine.EndsInRoom`).
-/

namespace ResourceFlow

variable {V : Vocabulary} {I : Interface}

/-! ### Engines -/

namespace Engine

variable {S : Scope V} {a b : Engine V I} {f : FlowId}

/-- The engines are built alike, confined to the resource, and agree on its flows. -/
structure Mirrors (S : Scope V) (a b : Engine V I) : Prop where
  /-- They have the same definition. -/
  definition : b.definition = a.definition
  /-- They have the same handlers. -/
  dispatcher : b.dispatcher = a.dispatcher
  /-- They keep as many ended flows. -/
  retention : b.retention = a.retention
  /-- Its flows are confined to the resource. -/
  confined : a.definition.Confined a.dispatcher S.resource S.events
  /-- They keep the same instances of its flows. -/
  instance? : ∀ f, S.Here f → b.instance? f = a.instance? f
  /-- They recorded the same of its flows. -/
  records : ∀ f, S.Here f → b.trail.filter (·.flow = f) = a.trail.filter (·.flow = f)
  /-- The second has no less room. -/
  retired : b.retired.length ≤ a.retired.length

namespace Mirrors

theorem isRunning (h : Mirrors S a b) (hf : S.Here f) : b.isRunning f = a.isRunning f := by
  unfold Engine.isRunning
  rw [h.instance? f hf]

theorem get? (h : Mirrors S a b) (hf : S.Here f) : b.get? f = a.get? f := by
  unfold Engine.get?
  rw [h.instance? f hf]

theorem owns (h : Mirrors S a b) (hf : S.Here f) : b.owns f = a.owns f := by
  unfold Engine.owns
  rw [h.instance? f hf]

theorem statusOf (h : Mirrors S a b) (hf : S.Here f) : b.statusOf f = a.statusOf f := by
  unfold Engine.statusOf
  rw [h.instance? f hf]

/-! Instances. -/

theorem update (h : Mirrors S a b) (f : FlowId) (change : Instance V → Instance V) :
    Mirrors S (a.update f change) (b.update f change) where
  __ := h
  instance? g hg := by rw [instance?_update, instance?_update, h.instance? g hg]

theorem update_left (h : Mirrors S a b) (hf : ¬ S.Here f) (change : Instance V → Instance V) :
    Mirrors S (a.update f change) b where
  __ := h
  instance? g hg := by
    rw [instance?_update, if_neg (Scope.ne_of_here hg hf)]
    exact h.instance? g hg

theorem enter (h : Mirrors S a b) (f : FlowId) (s : V.State) (event : V.Event) :
    Mirrors S (a.enter f s event) (b.enter f s event) := by
  unfold Engine.enter
  rw [h.definition]
  exact h.update f _

theorem add (h : Mirrors S a b) (i : Instance V) : Mirrors S (a.add i) (b.add i) where
  __ := h
  instance? g hg := by rw [instance?_add, instance?_add, h.instance? g hg]

theorem add_left (h : Mirrors S a b) {i : Instance V} (hi : ¬ S.Here i.params.flow) :
    Mirrors S (a.add i) b where
  __ := h
  instance? g hg := by
    rw [instance?_add, if_neg (Scope.ne_of_here hg hi)]
    exact h.instance? g hg

/-! Retiring. -/

theorem retire (h : Mirrors S a b) (hroom : a.retired.length < a.retention) (f : FlowId) :
    Mirrors S (a.retire f) (b.retire f) where
  __ := h
  instance? g hg := by
    have hroom' : b.retired.length < b.retention :=
      h.retention ▸ Nat.lt_of_le_of_lt h.retired hroom
    rw [instance?_retire_of_lt hroom, instance?_retire_of_lt hroom']
    exact h.instance? g hg
  retired := by
    have hr := h.retired
    unfold Engine.retire
    simp only [List.length_drop, List.length_append, List.length_singleton, h.retention]
    omega

theorem retire_left (h : Mirrors S a b) (hroom : a.retired.length < a.retention) (f : FlowId) :
    Mirrors S (a.retire f) b where
  __ := h
  instance? g hg := by
    rw [instance?_retire_of_lt hroom]
    exact h.instance? g hg
  retired := by
    have hr := h.retired
    unfold Engine.retire
    simp only [List.length_drop, List.length_append, List.length_singleton]
    omega

/-! Recording. -/

theorem record (h : Mirrors S a b) (x : AuditRecord) : Mirrors S (a.record x) (b.record x) where
  __ := h
  records f hf := by
    unfold Engine.record
    rw [List.filter_append, List.filter_append, h.records f hf]

theorem record_left (h : Mirrors S a b) {x : AuditRecord} (hx : ¬ S.Here x.flow) :
    Mirrors S (a.record x) b where
  __ := h
  records f hf := by
    have hne : x.flow ≠ f := (Scope.ne_of_here hf hx).symm
    unfold Engine.record
    rw [List.filter_append, List.filter_singleton, decide_eq_false hne]
    exact (h.records f hf).trans (List.append_nil _).symm

end Mirrors

/-- If the flow runs, the engine has room for it to end. -/
def HasRoom (e : Engine V I) (f : FlowId) : Prop :=
  e.isRunning f = true → e.retired.length < e.retention

/-- If a flow ends between the two states of an engine, the engine had room for it. -/
def EndsInRoom (e e' : Engine V I) : Prop :=
  ∀ f, e.running? f ≠ none → e'.running? f = none → e.retired.length < e.retention

end Engine

/-! ### What a task does -/

/-- The stage with another number for the lock. -/
def Processing.renumber (N : Numbering) : Processing V I → Processing V I
  | .arriving event => .arriving event
  | .queued lock event => .queued (N.lock lock) event
  | .ready lock p event => .ready (N.lock lock) p event
  | .handling lock p event h activity => .handling (N.lock lock) p event h activity
  | .acting lock p event s activity => .acting (N.lock lock) p event s activity
  | .over outcome => .over outcome

@[inherit_doc Processing.renumber]
def Cancelling.renumber (N : Numbering) : Cancelling V → Cancelling V
  | .arriving => .arriving
  | .queued lock flow => .queued (N.lock lock) flow
  | .over outcome => .over outcome

@[inherit_doc Processing.renumber]
def Work.renumber (N : Numbering) : Work V I → Work V I
  | .process o flow stage => .process o flow (stage.renumber N)
  | .cancel r stage => .cancel r (stage.renumber N)
  | .refused e => .refused e

theorem Work.result?_renumber (N : Numbering) (w : Work V I) :
    (w.renumber N).result? = w.result? := by
  cases w with
  | process o flow stage => cases stage <;> rfl
  | cancel r stage => cases stage <;> rfl
  | refused e => rfl

/-- The lock is one of the resource's, and the event, the handler and the program in progress are
    those of a flow on it. -/
def Processing.Local (S : Scope V) (N : Numbering) : Processing V I → Prop
  | .arriving event => S.events event
  | .queued lock event => lock ∈ N.locks ∧ S.events event
  | .ready lock _ event => lock ∈ N.locks ∧ S.events event
  | .handling lock _ event h activity => lock ∈ N.locks ∧ S.events event ∧
    (∀ error event, S.events event → S.events (h.failureEvent error event)) ∧
    activity.Within S.resource fun res => ∀ next, res = .ok next → S.events next
  | .acting lock _ event _ activity => lock ∈ N.locks ∧ S.events event ∧
    activity.Within S.resource fun res => ∀ next, res = .ok (some next) → S.events next
  | .over _ => True

/-- The lock is one of the resource's, and the flow to cancel is on it. -/
def Cancelling.Local (S : Scope V) (N : Numbering) : Cancelling V → Prop
  | .arriving => True
  | .queued lock flow => lock ∈ N.locks ∧ S.Here flow
  | .over _ => True

/-- The task is one of the resource. -/
def Work.Local (S : Scope V) (N : Numbering) : Work V I → Prop
  | .process _ flow stage => S.Here flow ∧ stage.Local S N
  | .cancel r stage => r = S.resource ∧ stage.Local S N
  | .refused _ => True

/-- The lock is none of the resource's. -/
def Processing.Foreign (N : Numbering) : Processing V I → Prop
  | .arriving _ => True
  | .queued lock _ => lock ∉ N.locks
  | .ready lock .. => lock ∉ N.locks
  | .handling lock .. => lock ∉ N.locks
  | .acting lock .. => lock ∉ N.locks
  | .over _ => True

/-- The lock is none of the resource's, and the flow to cancel is on another. -/
def Cancelling.Foreign (S : Scope V) (N : Numbering) : Cancelling V → Prop
  | .arriving => True
  | .queued lock flow => lock ∉ N.locks ∧ S.Elsewhere flow
  | .over _ => True

/-- The task is one of another resource. -/
def Work.Foreign (S : Scope V) (N : Numbering) : Work V I → Prop
  | .process _ flow stage => S.Elsewhere flow ∧ stage.Foreign N
  | .cancel r stage => r ≠ S.resource ∧ stage.Foreign S N
  | .refused _ => True

section Stake

variable {S : Scope V} {N : Numbering} {w : Work V I} {l : LockId} {f : FlowId}

theorem Work.Local.stake (h : w.Local S N) (hs : w.stake? = some (l, f)) : l ∈ N.locks := by
  cases w with
  | process o flow stage =>
    cases stage with
    | queued | ready | handling | acting =>
      cases hs
      exact h.2.1
    | _ => cases hs
  | cancel r stage =>
    cases stage with
    | queued =>
      cases hs
      exact h.2.1
    | _ => cases hs
  | refused e => cases hs

theorem Work.Foreign.stake (h : w.Foreign S N) (hs : w.stake? = some (l, f)) :
    l ∉ N.locks ∧ S.Elsewhere f := by
  cases w with
  | process o flow stage =>
    cases stage with
    | queued | ready | handling | acting =>
      cases hs
      exact ⟨h.2, h.1⟩
    | _ => cases hs
  | cancel r stage =>
    cases stage with
    | queued =>
      cases hs
      exact h.2
    | _ => cases hs
  | refused e => cases hs

/-! Other resources use up locks too. -/

theorem Work.Local.addLock (h : w.Local S N) (k : LockId) :
    w.Local S (N.addLock k) ∧ w.renumber (N.addLock k) = w.renumber N := by
  have hmem : ∀ l ∈ N.locks, l ∈ (N.addLock k).locks := fun l hl => List.mem_append_left _ hl
  cases w with
  | process o flow stage =>
    cases stage with
    | queued lock | ready lock | handling lock | acting lock =>
      refine ⟨⟨h.1, hmem _ h.2.1, h.2.2⟩, ?_⟩
      simp only [renumber, Processing.renumber, Numbering.lock_addLock h.2.1]
    | _ => exact ⟨h, rfl⟩
  | cancel r stage =>
    cases stage with
    | queued lock flow =>
      refine ⟨⟨h.1, hmem _ h.2.1, h.2.2⟩, ?_⟩
      simp only [renumber, Cancelling.renumber, Numbering.lock_addLock h.2.1]
    | _ => exact ⟨h, rfl⟩
  | refused e => exact ⟨h, rfl⟩

theorem Work.Foreign.addLock (h : w.Foreign S N) {k : LockId}
    (hk : ∀ l f, w.stake? = some (l, f) → l ≠ k) : w.Foreign S (N.addLock k) := by
  have hmem : ∀ l f, w.stake? = some (l, f) → l ∉ (N.addLock k).locks := by
    intro l f hs hm
    rcases List.mem_append.mp hm with hm | hm
    · exact (h.stake hs).1 hm
    · exact hk l f hs (List.mem_singleton.mp hm)
  cases w with
  | process o flow stage =>
    cases stage with
    | queued | ready | handling | acting => exact ⟨h.1, hmem _ _ rfl⟩
    | _ => exact h
  | cancel r stage =>
    cases stage with
    | queued => exact ⟨h.1, hmem _ _ rfl, h.2.2⟩
    | _ => exact h
  | refused e => exact h

end Stake

/-! ### Desks -/

/-- Where the flows are is where the desk shows them. -/
structure Scope.Fits (S : Scope V) (d : Desk V I) : Prop where
  /-- What is retired does not run. -/
  retired : ∀ f ∈ d.engine.retired, d.engine.running? f = none
  /-- An instance is kept under the id of its flow. -/
  keyed : ∀ f i, d.engine.instance? f = some i → i.params.flow = f
  /-- A flow that is kept is on its resource. -/
  home : ∀ f i, d.engine.instance? f = some i → ∀ r, S.on r f ↔ i.params.resourceId = r
  /-- A flow that occupies a lane is on its resource. -/
  lanes : ∀ r lane, d.registry.lanes.lane? r = some lane → S.on r lane.flow

namespace Scope.Fits

variable {S : Scope V} {d : Desk V I} {f : FlowId} {i : Instance V}

theorem here (h : S.Fits d) (hi : d.engine.instance? f = some i) (hf : S.Here f) :
    i.params.resourceId = S.resource :=
  (h.home f i hi _).mp hf

/-- A flow that is kept is on one resource only. -/
theorem elsewhere (h : S.Fits d) (hi : d.engine.instance? f = some i) (hf : S.Elsewhere f) :
    i.params.resourceId ≠ S.resource ∧ ¬ S.Here f := by
  obtain ⟨r, hr, hon⟩ := hf
  have hres := (h.home f i hi r).mp hon
  refine ⟨fun hs => hr (hres.symm.trans hs), fun hhere => hr ?_⟩
  exact hres.symm.trans (h.here hi hhere)

end Scope.Fits

namespace Desk

variable {S : Scope V} {N : Numbering} {D D' : Desk V I} {p : FlowParameters} {lock : LockId}
  {flow : FlowId} {event : V.Event} {t : TaskId} {now : Duration} {reply : I.Reply}

theorem Quits.room {d d' : Desk V I} {s : FlowStatus} (hq : Quits d d' p s)
    (h : d.engine.EndsInRoom d'.engine) : d.engine.HasRoom p.flow := by
  intro hr
  rw [Engine.isRunning_eq] at hr
  refine h p.flow ?_ ((hq.running p.flow).trans (if_pos rfl))
  intro hn
  rw [hn] at hr
  cases hr

/-- The desks agree on the resource. -/
structure Mirrors (S : Scope V) (N : Numbering) (D D' : Desk V I) : Prop where
  /-- The registries do. -/
  registry : D.registry.Mirrors S N D'.registry
  /-- The engines do. -/
  engine : D.engine.Mirrors S D'.engine

namespace Mirrors

/-- At both desks the resource looks the same. -/
theorem moment (h : Mirrors S N D D') (now : Duration) :
    (D.moment now).Agree S.resource (D'.moment now) where
  now := rfl
  cancelled := h.registry.isCancelled

theorem withEngine (h : Mirrors S N D D') {a b : Engine V I} (he : a.Mirrors S b) :
    Mirrors S N { D with engine := a } { D' with engine := b } :=
  ⟨h.registry, he⟩

theorem withEngine_left (h : Mirrors S N D D') {a : Engine V I} (he : a.Mirrors S D'.engine) :
    Mirrors S N { D with engine := a } D' :=
  ⟨h.registry, he⟩

theorem passLock (h : Mirrors S N D D') (hl : lock ∈ N.locks) :
    Mirrors S N (D.passLock lock) (D'.passLock (N.lock lock)) :=
  ⟨h.registry.passLock hl, h.engine⟩

theorem passLock_left (h : Mirrors S N D D') (hl : lock ∉ N.locks) :
    Mirrors S N (D.passLock lock) D' :=
  ⟨h.registry.passLock_left hl, h.engine⟩

/-! Ending a flow. -/

theorem conclude (h : Mirrors S N D D') (hp : p.resourceId = S.resource) (hf : S.Here p.flow)
    (hroom : D.engine.HasRoom p.flow)
    (s : FlowStatus) (now : Duration) :
    Mirrors S N (D.conclude p s now) (D'.conclude p s now) := by
  have hg := h.registry.discharge p.flow
  have he := h.engine.update p.flow (·.finish s now)
  unfold Desk.conclude Desk.discharge
  dsimp only
  rw [h.engine.isRunning hf, hp]
  split
  · rename_i hr
    exact ⟨hg, he.retire (hroom hr) p.flow⟩
  · exact ⟨hg, he⟩

theorem conclude_left (h : Mirrors S N D D') (hp : p.resourceId ≠ S.resource)
    (hf : ¬ S.Here p.flow)
    (hroom : D.engine.HasRoom p.flow)
    (s : FlowStatus) (now : Duration) : Mirrors S N (D.conclude p s now) D' := by
  have hg := h.registry.discharge_left hp p.flow
  have he := h.engine.update_left hf (·.finish s now)
  unfold Desk.conclude Desk.discharge
  dsimp only
  split
  · rename_i hr
    exact ⟨hg, he.retire_left (hroom hr) p.flow⟩
  · exact ⟨hg, he⟩

theorem finishCancelled (h : Mirrors S N D D')
    (hret : ∀ f ∈ D.engine.retired, D.engine.running? f = none) (hp : p.resourceId = S.resource)
    (hf : S.Here p.flow) (hroom : D.engine.EndsInRoom (D.finishCancelled p now).engine) :
    Mirrors S N (D.finishCancelled p now) (D'.finishCancelled p now) :=
  h.conclude hp hf ((Quits.finishCancelled hret p now).room hroom) .cancelled now

theorem finishCancelled_left (h : Mirrors S N D D')
    (hret : ∀ f ∈ D.engine.retired, D.engine.running? f = none) (hp : p.resourceId ≠ S.resource)
    (hf : ¬ S.Here p.flow) (hroom : D.engine.EndsInRoom (D.finishCancelled p now).engine) :
    Mirrors S N (D.finishCancelled p now) D' :=
  h.conclude_left hp hf ((Quits.finishCancelled hret p now).room hroom) .cancelled now

/-- The failure is noted and the event recorded before the flow ends. -/
theorem reject (h : Mirrors S N D D') (hp : p.resourceId = S.resource) (hf : S.Here p.flow)
    (hroom : D.engine.HasRoom p.flow)
    (s : V.State) (event : V.Event) (now : Duration) :
    Mirrors S N (D.reject p s event now).1 (D'.reject p s event now).1 := by
  unfold Desk.reject
  dsimp only
  rw [h.engine.isRunning hf]
  split
  · rename_i hr
    have hnoted := fun change x => h.withEngine ((h.engine.update p.flow change).record x)
    exact (hnoted _ _).conclude hp hf (fun _ => hroom hr) .failed now
  · exact ⟨h.registry, h.engine.update p.flow _⟩

theorem reject_left (h : Mirrors S N D D') (hp : p.resourceId ≠ S.resource)
    (hf : ¬ S.Here p.flow)
    (hroom : D.engine.HasRoom p.flow)
    (s : V.State) (event : V.Event) (now : Duration) :
    Mirrors S N (D.reject p s event now).1 D' := by
  unfold Desk.reject
  dsimp only
  split
  · rename_i hr
    have hnoted := fun change (x : AuditRecord) (hx : x.flow = p.flow) =>
      h.withEngine_left ((h.engine.update_left hf change).record_left (hx ▸ hf))
    exact (hnoted _ _ rfl).conclude_left hp hf (fun _ => hroom hr) .failed now
  · exact ⟨h.registry, h.engine.update_left hf _⟩

theorem complete (h : Mirrors S N D D') (hp : p.resourceId = S.resource) (hf : S.Here p.flow)
    (hroom : D.engine.HasRoom p.flow)
    (now : Duration) : Mirrors S N (D.complete p now).1 (D'.complete p now).1 ∧
      (D'.complete p now).2 = (D.complete p now).2 := by
  unfold Desk.complete
  rw [h.engine.instance? _ hf]
  cases D.engine.instance? p.flow with
  | none =>
    have hg := h.registry.discharge p.flow
    rw [← hp] at hg
    exact ⟨⟨hg, h.engine⟩, rfl⟩
  | some i => exact ⟨h.conclude hp hf hroom _ now, rfl⟩

theorem complete_left (h : Mirrors S N D D') (hp : p.resourceId ≠ S.resource)
    (hf : ¬ S.Here p.flow)
    (hroom : D.engine.HasRoom p.flow)
    (now : Duration) : Mirrors S N (D.complete p now).1 D' := by
  unfold Desk.complete
  cases D.engine.instance? p.flow with
  | none => exact ⟨h.registry.discharge_left hp p.flow, h.engine⟩
  | some i => exact h.conclude_left hp hf hroom _ now

end Mirrors

/-! ### A task of the resource -/

/-- On both sides a step of processing leads to the same stage, one of the resource, and to desks
    that agree on it. -/
structure Echoes (S : Scope V) (N : Numbering) (x x' : Desk V I × Processing V I) : Prop where
  /-- The desks. -/
  desks : Mirrors S N x.1 x'.1
  /-- The stages. -/
  stage : x'.2 = x.2.renumber N
  /-- It is one of the resource. -/
  stays : x.2.Local S N

/-- A stage in which the task is over. -/
theorem Echoes.ended (h : Mirrors S N D D') (outcome : Outcome V) :
    Echoes S N (D, .over outcome) (D', .over outcome) :=
  ⟨h, rfl, trivial⟩

namespace Mirrors

theorem arrive (h : Mirrors S N D D') (hfit : S.Fits D) (hf : S.Here flow)
    (he : S.events event) (t : TaskId) :
    Echoes S N (D.arrive t flow event) (D'.arrive (N.task t) flow event) := by
  unfold Desk.arrive
  rw [h.engine.instance? _ hf]
  cases hi : D.engine.instance? flow with
  | none => exact .ended h _
  | some i =>
    dsimp only
    split
    · exact .ended h _
    · rw [hfit.here hi hf, h.registry.lane, h.engine.statusOf hf]
      cases hl : D.registry.lanes.lane? S.resource with
      | none => exact .ended h _
      | some lane =>
        have hm : lane.lock ∈ N.locks := (h.registry.owned _ _ hl).mpr rfl
        dsimp only [Option.map_some, Lane.renumber]
        split
        · exact ⟨⟨h.registry.askLock hm t, h.engine⟩, rfl, hm, he⟩
        · exact .ended h _

theorem admitted (h : Mirrors S N D D') (hf : S.Here flow) (hl : lock ∈ N.locks)
    (he : S.events event) :
    Echoes S N (D.admitted flow lock event) (D'.admitted flow (N.lock lock) event) := by
  unfold Desk.admitted
  rw [h.engine.instance? _ hf]
  cases hi : D.engine.instance? flow with
  | none => exact .ended (h.passLock hl) _
  | some i =>
    dsimp only
    split
    · exact .ended (h.passLock hl) _
    · exact ⟨h, rfl, hl, he⟩

end Mirrors

theorem engine_turn (D : Desk V I) (lock : LockId) (p : FlowParameters) (event : V.Event)
    (now : Duration) : (D.turn lock p event now).1.engine = (D.take p event now).1.engine := by
  unfold Desk.turn
  cases hx : D.take p event now with
  | mk d turn => cases turn <;> rfl

/-- An event is handed to the handler of its selector. -/
theorem handler?_of_take (D : Desk V I) (p : FlowParameters) (event : V.Event) (now : Duration)
    (handler : Handler V I) (h : (D.take p event now).2 = .handle handler) :
    (D.take p event now).1.engine.dispatcher.handler? event.selector = some handler := by
  unfold Desk.take at h ⊢
  split at h
  · cases h
  · rename_i hc
    rw [if_neg hc]
    cases hi : D.engine.instance? p.flow with
    | none => simp [hi] at h
    | some i =>
      cases hh : D.engine.dispatcher.handler? event.selector with
      | none => cases ht : D.engine.definition.transition i.state event.selector <;>
          simp [hi, hh, ht] at h
      | some handler' =>
        simp only [hi, hh, Turn.handle.injEq] at h ⊢
        subst h
        exact hh

namespace Mirrors

/-- The flow in hand runs on the resource. -/
theorem take (h : Mirrors S N D D') (hret : ∀ f ∈ D.engine.retired, D.engine.running? f = none)
    (hrun : D.engine.running? p.flow = some p) (hp : p.resourceId = S.resource)
    (hf : S.Here p.flow) (hroom : D.engine.EndsInRoom (D.take p event now).1.engine) :
    Mirrors S N (D.take p event now).1 (D'.take p event now).1 ∧
      (D'.take p event now).2 = (D.take p event now).2 := by
  unfold Desk.take at hroom ⊢
  rw [hp] at hroom
  rw [hp, h.registry.isCancelled, h.engine.instance? _ hf, h.engine.dispatcher,
    h.engine.definition]
  -- A recorded cancel comes before everything else, then handlers, then transitions.
  cases hc : D.registry.isCancelled S.resource with
  | true =>
    simp only [hc, if_true] at hroom ⊢
    exact ⟨h.finishCancelled hret hp hf hroom, trivial⟩
  | false =>
    simp only [hc, Bool.false_eq_true, if_false] at hroom ⊢
    cases hi : D.engine.instance? p.flow with
    | none => exact ⟨h, rfl⟩
    | some i =>
      simp only [hi] at hroom ⊢
      cases hh : D.engine.dispatcher.handler? event.selector with
      | some handler => exact ⟨⟨h.registry, h.engine.record _⟩, rfl⟩
      | none =>
        simp only [hh] at hroom ⊢
        cases ht : D.engine.definition.transition i.state event.selector with
        | none =>
          simp only [ht] at hroom ⊢
          have hend := (Quits.reject hret hrun i.state event now).room hroom
          refine ⟨h.reject hp hf hend i.state event now, ?_⟩
          unfold Desk.reject
          dsimp only
          split <;> split <;> rfl
        | some s => exact ⟨⟨h.registry, (h.engine.record _).enter p.flow s event⟩, rfl⟩

theorem turn (h : Mirrors S N D D') (hret : ∀ f ∈ D.engine.retired, D.engine.running? f = none)
    (hrun : D.engine.running? p.flow = some p) (hp : p.resourceId = S.resource)
    (hf : S.Here p.flow) (hl : lock ∈ N.locks) (he : S.events event)
    (hroom : D.engine.EndsInRoom (D.turn lock p event now).1.engine) :
    Echoes S N (D.turn lock p event now) (D'.turn (N.lock lock) p event now) := by
  rw [engine_turn] at hroom
  obtain ⟨hd, heq⟩ := h.take hret hrun hp hf hroom
  have hhandler := handler?_of_take D p event now
  unfold Desk.turn
  -- From here on only the desks after the turn matter, and what it came to.
  generalize D.take p event now = x at hd heq hhandler ⊢
  generalize D'.take p event now = x' at hd heq ⊢
  obtain ⟨d, turn⟩ := x
  obtain ⟨d', turn'⟩ := x'
  obtain rfl : turn' = turn := heq
  cases turn' with
  | handle handler =>
    have hh := hhandler handler rfl
    have hw := hd.engine.confined.accept _ handler hh (some p.flow) event he
    refine ⟨hd, ?_, hl, he, hd.engine.confined.handlerFails _ handler hh, hw.run _⟩
    show Processing.handling (N.lock lock) p event handler ((handler.accept _ event).run _) = _
    rw [hw.run_eq (hd.moment now)]
    rfl
  | act s =>
    have hw := hd.engine.confined.execute s p event hp he
    refine ⟨hd, ?_, hl, he, hw.run _⟩
    show Processing.acting (N.lock lock) p event s
      ((d'.engine.definition.execute s p event).run _) = _
    rw [hd.engine.definition, hw.run_eq (hd.moment now)]
    rfl
  | _ => exact .ended (hd.passLock hl) _

theorem handled (h : Mirrors S N D D')
    (hret : ∀ f ∈ D.engine.retired, D.engine.running? f = none) (hp : p.resourceId = S.resource)
    (hf : S.Here p.flow) (hl : lock ∈ N.locks) (he : S.events event) {handler : Handler V I}
    (hh : ∀ error event, S.events event → S.events (handler.failureEvent error event))
    {result : HandlerResult V} (hres : ∀ next, result = .ok next → S.events next)
    (hroom : D.engine.EndsInRoom
      (onward lock p (D.handled p handler event now result)).1.engine) :
    Echoes S N (onward lock p (D.handled p handler event now result))
      (onward (N.lock lock) p (D'.handled p handler event now result)) := by
  unfold Desk.handled Handler.delivery at hroom ⊢
  cases result with
  | ok next => exact ⟨h, rfl, hl, hres next rfl⟩
  | error e =>
    cases hc : e.isCancellation with
    | true =>
      simp only [hc, if_true] at hroom ⊢
      exact .ended ((h.finishCancelled hret hp hf hroom).passLock hl) _
    | false =>
      simp only [hc, Bool.false_eq_true, if_false]
      exact ⟨h, rfl, hl, hh e event he⟩

theorem acted (h : Mirrors S N D D')
    (hret : ∀ f ∈ D.engine.retired, D.engine.running? f = none)
    (hrun : D.engine.running? p.flow = some p) (hp : p.resourceId = S.resource)
    (hf : S.Here p.flow) (hl : lock ∈ N.locks) (he : S.events event) {s : V.State}
    {result : ActionResult V} (hres : ∀ next, result = .ok (some next) → S.events next)
    (hroom : D.engine.EndsInRoom (onward lock p (D.acted p s event now result)).1.engine) :
    Echoes S N (onward lock p (D.acted p s event now result))
      (onward (N.lock lock) p (D'.acted p s event now result)) := by
  have hcomplete : D.engine.EndsInRoom ((D.complete p now).1.passLock lock).engine →
      Echoes S N ((D.complete p now).1.passLock lock, .over (D.complete p now).2)
        ((D'.complete p now).1.passLock (N.lock lock), .over (D'.complete p now).2) := by
    intro hroom
    obtain ⟨status, hq⟩ := Quits.complete hret hrun now
    obtain ⟨hd, hout⟩ := h.complete hp hf ((hq.passLock lock).room hroom) now
    rw [hout]
    exact .ended (hd.passLock hl) _
  unfold Desk.acted at hroom ⊢
  rw [h.engine.definition]
  cases result with
  | ok next =>
    dsimp only at hroom ⊢
    cases hs : D.engine.definition.isTerminal s with
    | true =>
      simp only [hs, if_true] at hroom ⊢
      exact hcomplete hroom
    | false =>
      simp only [Bool.false_eq_true, if_false]
      cases next with
      | some next => exact ⟨h, rfl, hl, hres next rfl⟩
      | none =>
        dsimp only
        rw [h.engine.get? hf]
        exact .ended (h.passLock hl) _
  | error e =>
    dsimp only at hroom ⊢
    cases hc : e.isCancellation with
    | true =>
      simp only [hc, if_true] at hroom ⊢
      exact .ended ((h.finishCancelled hret hp hf hroom).passLock hl) _
    | false =>
      simp only [hc, Bool.false_eq_true, if_false] at hroom ⊢
      cases hs : D.engine.definition.isTerminal s with
      | true =>
        simp only [hs, if_true] at hroom ⊢
        exact hcomplete hroom
      | false =>
        simp only [Bool.false_eq_true, if_false]
        exact ⟨h, rfl, hl, h.engine.confined.actionFails s p event e hp he⟩

/-- A step of a task that processes events of a flow on the resource. -/
theorem process (h : Mirrors S N D D') (hfit : S.Fits D) (ht : t ∈ N.tasks) (hf : S.Here flow)
    {o : Origin} {stage : Processing V I} (hs : stage.Local S N)
    (hin : ∀ l p, (Work.process o flow stage).inHand? = some (l, p) →
      D.engine.running? p.flow = some p ∧ (Work.process o flow stage).stake? = some (l, p.flow))
    {x : Desk V I × Processing V I} (hstep : D.process t flow now reply stage = some x)
    (hroom : D.engine.EndsInRoom x.1.engine) :
    ∃ x', D'.process (N.task t) flow now reply (stage.renumber N) = some x' ∧
      Echoes S N x x' := by
  -- A flow that is in hand runs on the resource.
  have hhand : ∀ l p, (Work.process o flow stage).inHand? = some (l, p) →
      D.engine.running? p.flow = some p ∧ p.resourceId = S.resource ∧ S.Here p.flow := by
    intro l p hp
    obtain ⟨hrun, hst⟩ := hin l p hp
    obtain ⟨_, _, _, hw, hst'⟩ := Work.stake?_of_inHand? hp
    cases hw
    have hflow : flow = p.flow := by
      rw [hst'] at hst
      cases hst
      rfl
    have hhere : S.Here p.flow := hflow ▸ hf
    obtain ⟨i, hi, -, rfl⟩ := Engine.running?_eq_some_iff.mp hrun
    exact ⟨hrun, hfit.here hi hhere, hhere⟩
  cases stage with
  | arriving event =>
    cases hstep
    exact ⟨_, rfl, h.arrive hfit hf hs t⟩
  | queued lock event =>
    have hheld := h.registry.isHeldBy hs.1 ht
    unfold Desk.process at hstep
    unfold Desk.process Processing.renumber
    dsimp only at hstep ⊢
    rw [hheld]
    split at hstep
    · cases hstep
      rw [if_pos ‹_›]
      exact ⟨_, rfl, h.admitted hf hs.1 hs.2⟩
    · cases hstep
  | ready lock p event =>
    cases hstep
    obtain ⟨hrun, hp, hhere⟩ := hhand lock p rfl
    exact ⟨_, rfl, h.turn hfit.retired hrun hp hhere hs.1 hs.2 hroom⟩
  | handling lock p event handler activity =>
    obtain ⟨-, hp, hhere⟩ := hhand lock p rfl
    obtain ⟨hl, he, hh, hw⟩ := hs
    -- A handler that has not ended takes a step of its own, whatever it waits for.
    have hactive : activity.step (D'.moment now) reply = activity.step (D.moment now) reply :=
      hw.step_eq (h.moment now)
    cases activity with
    | ended result =>
      cases hstep
      exact ⟨_, rfl, h.handled hfit.retired hp hhere hl he hh hw hroom⟩
    | calling q next | waiting w next =>
      cases hstep
      refine ⟨_, rfl, h, ?_, hl, he, hh, hw.step _ reply⟩
      exact congrArg (Processing.handling (N.lock lock) p event handler) hactive
  | acting lock p event s activity =>
    obtain ⟨hrun, hp, hhere⟩ := hhand lock p rfl
    obtain ⟨hl, he, hw⟩ := hs
    have hactive : activity.step (D'.moment now) reply = activity.step (D.moment now) reply :=
      hw.step_eq (h.moment now)
    cases activity with
    | ended result =>
      cases hstep
      exact ⟨_, rfl, h.acted hfit.retired hrun hp hhere hl he hw hroom⟩
    | calling q next | waiting w next =>
      cases hstep
      refine ⟨_, rfl, h, ?_, hl, he, hw.step _ reply⟩
      exact congrArg (Processing.acting (N.lock lock) p event s) hactive
  | _ => cases hstep

/-- A cancel of the resource that arrives. -/
theorem requestCancel (h : Mirrors S N D D') (hfit : S.Fits D) (t : TaskId) :
    Mirrors S N (D.requestCancel t S.resource).1 (D'.requestCancel (N.task t) S.resource).1 ∧
      (D'.requestCancel (N.task t) S.resource).2 = (D.requestCancel t S.resource).2.renumber N ∧
      (D.requestCancel t S.resource).2.Local S N := by
  unfold Desk.requestCancel
  rw [h.registry.lane]
  cases hl : D.registry.lanes.lane? S.resource with
  | none => exact ⟨h, rfl, trivial⟩
  | some lane =>
    have hf : S.Here lane.flow := hfit.lanes _ _ hl
    have hm : lane.lock ∈ N.locks := (h.registry.owned _ _ hl).mpr rfl
    have hh : D.registry.lanes.holds S.resource lane.flow = true :=
      Lanes.holds_iff.mpr ⟨lane, hl, rfl⟩
    dsimp only [Option.map_some, Lane.renumber, Registry.requestCancel, Registry.withHolder]
    rw [h.engine.owns hf, h.registry.holds, hh]
    split
    · exact ⟨⟨h.registry.markCancelled.askLock hm t, h.engine⟩, rfl, hm, hf⟩
    · exact ⟨h, rfl, trivial⟩

/-- A cancel of a flow on the resource, with the lock in hand. -/
theorem finishCancel (h : Mirrors S N D D') (hfit : S.Fits D) (hf : S.Here flow)
    (hl : lock ∈ N.locks) (hroom : D.engine.EndsInRoom (D.finishCancel lock flow now).1.engine) :
    Mirrors S N (D.finishCancel lock flow now).1 (D'.finishCancel (N.lock lock) flow now).1 ∧
      (D'.finishCancel (N.lock lock) flow now).2 = (D.finishCancel lock flow now).2.renumber N ∧
      (D.finishCancel lock flow now).2.Local S N := by
  unfold Desk.finishCancel at hroom ⊢
  rw [h.engine.instance? _ hf]
  cases hi : D.engine.instance? flow with
  | none => exact ⟨h.passLock hl, rfl, trivial⟩
  | some i =>
    simp only [hi] at hroom ⊢
    have hkey := hfit.keyed flow i hi
    have hd := h.finishCancelled hfit.retired (hfit.here hi hf) (hkey.symm ▸ hf) hroom
    refine ⟨hd.passLock hl, ?_, trivial⟩
    exact congrArg Cancelling.over (hd.engine.get? hf)

/-- A step of a cancel of the resource. -/
theorem cancel (h : Mirrors S N D D') (hfit : S.Fits D) (ht : t ∈ N.tasks) {stage : Cancelling V}
    (hs : stage.Local S N) {x : Desk V I × Cancelling V}
    (hstep : D.cancel t S.resource now stage = some x)
    (hroom : D.engine.EndsInRoom x.1.engine) :
    ∃ x', D'.cancel (N.task t) S.resource now (stage.renumber N) = some x' ∧
      Mirrors S N x.1 x'.1 ∧ x'.2 = x.2.renumber N ∧ x.2.Local S N := by
  cases stage with
  | arriving =>
    obtain rfl := Option.some.inj hstep
    exact ⟨_, rfl, h.requestCancel hfit t⟩
  | queued lock flow =>
    have hheld := h.registry.isHeldBy hs.1 ht
    unfold Desk.cancel at hstep
    unfold Desk.cancel Cancelling.renumber
    dsimp only at hstep ⊢
    rw [hheld]
    split at hstep
    · obtain rfl := Option.some.inj hstep
      rw [if_pos ‹_›]
      exact ⟨_, rfl, h.finishCancel hfit hs.2 hs.1 hroom⟩
    · cases hstep
  | _ => cases hstep

/-- A task of the resource takes the same step on both sides. -/
theorem work (h : Mirrors S N D D') (hfit : S.Fits D) (ht : t ∈ N.tasks) {w w₁ : Work V I}
    {D₁ : Desk V I} (hw : w.Local S N)
    (hin : ∀ l p, w.inHand? = some (l, p) →
      D.engine.running? p.flow = some p ∧ w.stake? = some (l, p.flow))
    (hstep : D.work t now reply w = some (D₁, w₁)) (hroom : D.engine.EndsInRoom D₁.engine) :
    ∃ D₁', D'.work (N.task t) now reply (w.renumber N) = some (D₁', w₁.renumber N) ∧
      Mirrors S N D₁ D₁' ∧ w₁.Local S N := by
  cases w with
  | process o flow stage =>
    simp only [Desk.work, Option.map_eq_some_iff] at hstep
    obtain ⟨⟨d, stage₁⟩, hstep, heq⟩ := hstep
    obtain ⟨rfl, rfl⟩ := Prod.mk.inj heq
    obtain ⟨⟨d', stage₁'⟩, hstep', hecho⟩ := h.process hfit ht hw.1 hw.2 hin hstep hroom
    obtain rfl : stage₁' = stage₁.renumber N := hecho.stage
    refine ⟨d', ?_, hecho.desks, hw.1, ?_⟩
    · unfold Work.renumber Desk.work
      dsimp only
      rw [hstep']
      cases stage₁ <;> rfl
    · have hstays := hecho.stays
      cases stage₁ <;> exact hstays
  | cancel r stage =>
    obtain ⟨rfl, hs⟩ := hw
    simp only [Desk.work, Option.map_eq_some_iff] at hstep
    obtain ⟨⟨d, stage₁⟩, hstep, heq⟩ := hstep
    obtain ⟨rfl, rfl⟩ := Prod.mk.inj heq
    obtain ⟨⟨d', stage₁'⟩, hstep', hd, hstage, hstays⟩ := h.cancel hfit ht hs hstep hroom
    obtain rfl : stage₁' = stage₁.renumber N := hstage
    refine ⟨d', ?_, hd, rfl, hstays⟩
    unfold Work.renumber Desk.work
    dsimp only
    rw [hstep']
    rfl
  | refused e => cases hstep

/-! ### A task of another resource -/

/-- A step of a task of another resource is not seen on the other side. -/
theorem aside (h : Mirrors S N D D') (hfit : S.Fits D) {w w₁ : Work V I} {D₁ : Desk V I}
    (hw : w.Foreign S N)
    (hin : ∀ l p, w.inHand? = some (l, p) →
      D.engine.running? p.flow = some p ∧ w.stake? = some (l, p.flow))
    (hm : Move D t now reply w D₁ w₁) (hroom : D.engine.EndsInRoom D₁.engine) :
    Mirrors S N D₁ D' ∧ w₁.Foreign S N := by
  -- A flow that is in hand runs on another resource, and its lock came with a lane of that one.
  have hhand : ∀ l p, w.inHand? = some (l, p) → D.engine.running? p.flow = some p ∧
      l ∉ N.locks ∧ p.resourceId ≠ S.resource ∧ ¬ S.Here p.flow := by
    intro l p hp
    obtain ⟨hrun, hst⟩ := hin l p hp
    obtain ⟨hl, helse⟩ := hw.stake hst
    obtain ⟨i, hi, -, rfl⟩ := Engine.running?_eq_some_iff.mp hrun
    exact ⟨hrun, hl, hfit.elsewhere hi helse⟩
  have hret := hfit.retired
  cases hm with
  | unknown _ | ended _ _ | displaced _ _ _ | nothing => exact ⟨h, hw.1, trivial⟩
  | @queue _ _ _ i lane hi _ hl _ =>
    have hlock : lane.lock ∉ N.locks := fun hm =>
      (hfit.elsewhere hi hw.1).1 ((h.registry.owned _ _ hl).mp hm)
    exact ⟨⟨h.registry.askLock_left hlock t, h.engine⟩, hw.1, hlock⟩
  | forgotten _ _ | late _ _ _ => exact ⟨h.passLock_left hw.2, hw.1, trivial⟩
  | admitted _ _ _ => exact ⟨h, hw⟩
  | halt _ | handlerCancelled _ | actionCancelled _ =>
    obtain ⟨-, hl, hp, hf⟩ := hhand _ _ rfl
    exact ⟨(h.finishCancelled_left hret hp hf hroom).passLock_left hl, hw.1, trivial⟩
  | lost _ _ | parked _ =>
    obtain ⟨-, hl, -⟩ := hhand _ _ rfl
    exact ⟨h.passLock_left hl, hw.1, trivial⟩
  | hand _ _ _ =>
    obtain ⟨-, -, -, hf⟩ := hhand _ _ rfl
    exact ⟨h.withEngine_left (h.engine.record_left hf), hw⟩
  | enter _ _ _ _ =>
    obtain ⟨-, -, -, hf⟩ := hhand _ _ rfl
    exact ⟨h.withEngine_left ((h.engine.record_left hf).update_left hf _), hw⟩
  | refuse _ _ _ _ =>
    obtain ⟨hrun, hl, hp, hf⟩ := hhand _ _ rfl
    have hend := ((Quits.reject hret hrun _ _ now).passLock _).room hroom
    exact ⟨(h.reject_left hp hf hend _ _ now).passLock_left hl, hw.1, trivial⟩
  | completed _ _ =>
    obtain ⟨hrun, hl, hp, hf⟩ := hhand _ _ rfl
    obtain ⟨status, hq⟩ := Quits.complete hret hrun now
    have hend := (hq.passLock _).room hroom
    exact ⟨(h.complete_left hp hf hend now).passLock_left hl, hw.1, trivial⟩
  | handle _ | handled | handlerFailed _ | act _ | acted _ | actionFailed _ _ => exact ⟨h, hw⟩
  | @request r lane hl _ =>
    have hlock : lane.lock ∉ N.locks := fun hm => hw.1 ((h.registry.owned _ _ hl).mp hm)
    have hg := (h.registry.markCancelled_left hw.1).askLock_left hlock t
    exact ⟨⟨hg, h.engine⟩, hw.1, hlock, r, hw.1, hfit.lanes _ _ hl⟩
  | gone _ _ => exact ⟨h.passLock_left hw.2.1, hw.1, trivial⟩
  | finish _ hi =>
    obtain ⟨hp, hf⟩ := hfit.elsewhere hi hw.2.2
    have hkey := hfit.keyed _ _ hi
    have hd := h.finishCancelled_left hret hp (hkey.symm ▸ hf) hroom
    exact ⟨hd.passLock_left hw.2.1, hw.1, trivial⟩

end Mirrors

end Desk

end ResourceFlow
