import Mathlib.Tactic.Spread
import ResourceFlow.Engine.Desk
import ResourceFlow.Proofs.Engine.Instances
import ResourceFlow.Proofs.Program.Calls
/-! # Desks that differ in payloads and times only

  A `Likeness` says which payloads are alike, so that they are written alike,
  and which answers, and whether the times are the same. A definition with its
  handlers is oblivious of it (`Definition.Oblivious`) if alike events make the
  actions and the handlers do the same and answer with alike events. So is one
  that makes no calls but some, of what is answered to the others
  (`Definition.Calls.oblivious`).

  Desks are alike if their registries are the same and their engines recorded
  the same and keep the same instances, apart from the times of their ends. A
  step of a task keeps that, and leaves the tasks alike
  (`Desk.Resembles.work`): no look, no record and no decision of an engine
  depends on more of a payload than is written, or on the time, but for waits,
  which only resemble each other where the times are the same.
-/

namespace ResourceFlow

variable {V : Vocabulary} {I : Interface}

/-! ### Likeness -/

/-- Which payloads and which answers are alike, and whether times are. -/
structure Likeness (V : Vocabulary) (I : Interface) where
  /-- Payloads. -/
  payload : V.Payload → V.Payload → Prop
  /-- Alike payloads are written the same. -/
  written : ∀ {p p'}, payload p p' → V.payloadJson p' = V.payloadJson p
  /-- Answers. -/
  reply : I.Reply → I.Reply → Prop
  /-- The times are the same, or need not be. -/
  timed : Prop

/-- The events are the same but for alike payloads. -/
structure Likeness.Event (L : Likeness V I) (e e' : V.Event) : Prop where
  /-- The payloads are alike. -/
  payload : L.payload e.payload e'.payload
  /-- All else is the same. -/
  rest : e' = { e with payload := e'.payload }

namespace Likeness.Event

variable {L : Likeness V I} {e e' : V.Event}

theorem selector (h : L.Event e e') : e'.selector = e.selector := by rw [h.rest]

theorem failure (h : L.Event e e') : e'.failure = e.failure := by rw [h.rest]

theorem resourceId (h : L.Event e e') : e'.resourceId = e.resourceId := by rw [h.rest]

/-- Follow-ups are as alike as their payloads. -/
theorem followUpWith (h : L.Event e e') (s : V.Selector) {p p' : V.Payload}
    (hp : L.payload p p') : L.Event (e.followUpWith s p) (e'.followUpWith s p') := by
  refine ⟨hp, ?_⟩
  rw [h.rest]
  rfl

theorem followUp (h : L.Event e e') (s : V.Selector) : L.Event (e.followUp s) (e'.followUp s) := by
  refine ⟨h.payload, ?_⟩
  rw [h.rest]
  rfl

theorem failed (h : L.Event e e') (s : V.Selector) (type : FailureType) (cause : String) :
    L.Event (e.failed s type cause) (e'.failed s type cause) := by
  refine ⟨h.payload, ?_⟩
  rw [h.rest]
  rfl

/-- What is recorded of alike events is the same. -/
theorem ofEvent (h : L.Event e e') (p : FlowParameters) (s : V.State) (s' : Option V.State) :
    AuditRecord.ofEvent p s s' e' = AuditRecord.ofEvent p s s' e := by
  unfold AuditRecord.ofEvent
  rw [L.written h.payload, h.rest]

end Likeness.Event

/-- Actions and handlers do not tell alike events and answers apart. -/
structure Definition.Oblivious (d : Definition V I) (h : Dispatcher V I) (L : Likeness V I) :
    Prop where
  /-- Actions do the same and answer with alike events, if with any. -/
  execute : ∀ s p e e', L.Event e e' →
    (d.execute s p e).Resembles L.reply L.timed (Likewise (Option.Rel L.Event)) (d.execute s p e')
  /-- The events that report their failures are alike. -/
  actionFails : ∀ s p error e e', L.Event e e' →
    L.Event (d.failureEvent s e p error) (d.failureEvent s e' p error)
  /-- Handlers do the same and answer with alike events. -/
  accept : ∀ {selector hd}, h.handler? selector = some hd → ∀ f e e', L.Event e e' →
    (hd.accept f e).Resembles L.reply L.timed (Likewise L.Event) (hd.accept f e')
  /-- The events that report their failures are alike. -/
  handlerFails : ∀ {selector hd}, h.handler? selector = some hd → ∀ error e e', L.Event e e' →
    L.Event (hd.failureEvent error e) (hd.failureEvent error e')

/-! ### Definitions that make only some of the calls -/

section Calls

variable {P : I.Call → Prop}

/-- Payloads and times are the same, and so are the answers to calls of `P`. -/
def Likeness.same (V : Vocabulary) (P : I.Call → Prop) : Likeness V I where
  payload p p' := p' = p
  written h := congrArg V.payloadJson h
  reply ρ ρ' := ∀ q, P q → ρ' q = ρ q
  timed := True

theorem Likeness.event_same {e e' : V.Event} :
    (Likeness.same V P).Event e e' ↔ e' = e := by
  constructor
  · intro h
    have hp : e'.payload = e.payload := h.payload
    rw [h.rest, hp]
  · rintro rfl
    exact ⟨rfl, rfl⟩

/-- Whatever is answered to other calls, such a definition does the same. -/
theorem Definition.Calls.oblivious {d : Definition V I} {h : Dispatcher V I} (hd : d.Calls h P) :
    d.Oblivious h (.same V P) where
  execute s p e e' he := by
    obtain rfl := Likeness.event_same.mp he
    refine ((hd.execute s p e').resembles (fun _ _ hρ => hρ) trivial).mono ?_
    rintro _ res rfl
    cases res with
    | ok next =>
      cases next with
      | none => exact .ok .none
      | some next => exact .ok (.some (Likeness.event_same.mpr rfl))
    | error e => exact .error e
  actionFails s p error e e' he := by
    obtain rfl := Likeness.event_same.mp he
    exact Likeness.event_same.mpr rfl
  accept hh f e e' he := by
    obtain rfl := Likeness.event_same.mp he
    refine ((hd.accept hh f e').resembles (fun _ _ hρ => hρ) trivial).mono ?_
    rintro _ res rfl
    cases res with
    | ok next => exact .ok (Likeness.event_same.mpr rfl)
    | error e => exact .error e
  handlerFails hh error e e' he := by
    obtain rfl := Likeness.event_same.mp he
    exact Likeness.event_same.mpr rfl

end Calls

/-! ### Times aside -/

/-- A run, but for the time of its end. -/
def Instance.untimed (i : Instance V) : Instance V :=
  { i with finishedAt := i.finishedAt.map fun _ => 0 }

/-- What a caller sees of a run, but for the time of its end. -/
def Snapshot.untimed (s : Snapshot V) : Snapshot V :=
  { s with finishedAt := s.finishedAt.map fun _ => 0 }

namespace Instance

variable {i j : Instance V}

theorem params_of_untimed (h : j.untimed = i.untimed) : j.params = i.params := by
  injection h

theorem state_of_untimed (h : j.untimed = i.untimed) : j.state = i.state := by
  injection h

theorem status_of_untimed (h : j.untimed = i.untimed) : j.status = i.status := by
  injection h

theorem failure_of_untimed (h : j.untimed = i.untimed) : j.failure = i.failure := by
  injection h

/-- What is entered does not depend on times. -/
theorem untimed_enter (h : j.untimed = i.untimed) (s : V.State) :
    (j.enter s).untimed = (i.enter s).untimed := by
  have he : ∀ k : Instance V, (k.enter s).untimed = k.untimed.enter s := fun _ => rfl
  rw [he, he, h]

/-- Neither does what is noted as the failure. -/
theorem untimed_failure (h : j.untimed = i.untimed) (failure : Option Failure) :
    ({ j with failure } : Instance V).untimed = ({ i with failure } : Instance V).untimed := by
  have hf : ∀ k : Instance V, ({ k with failure } : Instance V).untimed =
      { k.untimed with failure } := fun _ => rfl
  rw [hf, hf, h]

/-- Neither does whether the run ends, nor how. -/
theorem untimed_finish (h : j.untimed = i.untimed) (s : FlowStatus) (now now' : Duration) :
    (j.finish s now').untimed = (i.finish s now).untimed := by
  unfold finish
  rw [status_of_untimed h]
  split
  · exact h
  · obtain ⟨params, state, status, finishedAt, failure, history⟩ := i
    obtain ⟨params', state', status', finishedAt', failure', history'⟩ := j
    simp only [untimed, Instance.mk.injEq] at h
    simp [untimed, h]

theorem untimed_snapshot (h : j.untimed = i.untimed) :
    j.snapshot.untimed = i.snapshot.untimed := by
  have hs : ∀ k : Instance V, k.snapshot.untimed = k.untimed.snapshot := fun _ => rfl
  rw [hs, hs, h]

end Instance

/-! ### Engines -/

namespace Engine

variable {L : Likeness V I} {a b : Engine V I} {f : FlowId}

/-- The engines are built alike, recorded the same, and keep the same instances, times aside. -/
structure Resembles (L : Likeness V I) (a b : Engine V I) : Prop where
  /-- They have the same definition. -/
  definition : b.definition = a.definition
  /-- They have the same handlers. -/
  dispatcher : b.dispatcher = a.dispatcher
  /-- They keep as many ended flows. -/
  retention : b.retention = a.retention
  /-- The definition and the handlers do not tell alike events apart. -/
  oblivious : a.definition.Oblivious a.dispatcher L
  /-- They keep the same instances. -/
  instance? : ∀ f, (b.instance? f).map Instance.untimed = (a.instance? f).map Instance.untimed
  /-- The same flows have ended. -/
  retired : b.retired = a.retired
  /-- They recorded the same. -/
  trail : b.trail = a.trail

namespace Resembles

/-- A flow is known to both or to none. -/
theorem look (h : Resembles L a b) (f : FlowId) :
    (a.instance? f = none ∧ b.instance? f = none) ∨
      ∃ i j, a.instance? f = some i ∧ b.instance? f = some j ∧ j.untimed = i.untimed := by
  have hi := h.instance? f
  cases ha : a.instance? f with
  | none =>
    rw [ha] at hi
    exact .inl ⟨rfl, Option.map_eq_none_iff.mp hi⟩
  | some i =>
    rw [ha] at hi
    obtain ⟨j, hj, hij⟩ := Option.map_eq_some_iff.mp hi
    exact .inr ⟨i, j, rfl, hj, hij⟩

theorem isRunning (h : Resembles L a b) (f : FlowId) : b.isRunning f = a.isRunning f := by
  unfold Engine.isRunning
  rcases h.look f with ⟨ha, hb⟩ | ⟨i, j, ha, hb, hij⟩
  · rw [ha, hb]
  · rw [ha, hb]
    dsimp only
    rw [Instance.status_of_untimed hij]

theorem owns (h : Resembles L a b) (f : FlowId) : b.owns f = a.owns f := by
  unfold Engine.owns
  rcases h.look f with ⟨ha, hb⟩ | ⟨i, j, ha, hb, hij⟩
  · rw [ha, hb]
  · rw [ha, hb]
    rfl

theorem statusOf (h : Resembles L a b) (f : FlowId) : b.statusOf f = a.statusOf f := by
  unfold Engine.statusOf
  rcases h.look f with ⟨ha, hb⟩ | ⟨i, j, ha, hb, hij⟩
  · rw [ha, hb]
  · rw [ha, hb, Option.map_some, Option.map_some, Instance.status_of_untimed hij]

theorem get? (h : Resembles L a b) (f : FlowId) :
    (b.get? f).map Snapshot.untimed = (a.get? f).map Snapshot.untimed := by
  unfold Engine.get?
  rcases h.look f with ⟨ha, hb⟩ | ⟨i, j, ha, hb, hij⟩
  · rw [ha, hb]
  · rw [ha, hb]
    exact congrArg some (Instance.untimed_snapshot hij)

/-! What is done to both. -/

theorem update (h : Resembles L a b) (f : FlowId) {change change' : Instance V → Instance V}
    (hc : ∀ i j : Instance V, j.untimed = i.untimed →
      (change' j).untimed = (change i).untimed) :
    Resembles L (a.update f change) (b.update f change') where
  __ := h
  instance? g := by
    rw [instance?_update, instance?_update]
    split
    · rcases h.look g with ⟨ha, hb⟩ | ⟨i, j, ha, hb, hij⟩
      · rw [ha, hb]
        rfl
      · rw [ha, hb]
        exact congrArg some (hc i j hij)
    · exact h.instance? g

theorem enter (h : Resembles L a b) (f : FlowId) (s : V.State) {e e' : V.Event}
    (he : L.Event e e') : Resembles L (a.enter f s e) (b.enter f s e') := by
  unfold Engine.enter
  rw [h.definition, he.failure, he.selector]
  refine h.update f fun i j hij => ?_
  have hs := Instance.untimed_enter hij s
  dsimp only
  split
  · exact Instance.untimed_failure hs _
  · exact hs

theorem finish (h : Resembles L a b) (f : FlowId) (s : FlowStatus) (now now' : Duration) :
    Resembles L (a.finish f s now) (b.finish f s now') :=
  h.update f fun _ _ hij => Instance.untimed_finish hij s now now'

theorem add (h : Resembles L a b) (i : Instance V) : Resembles L (a.add i) (b.add i) where
  __ := h
  instance? g := by
    rw [instance?_add, instance?_add]
    split
    · rfl
    · exact h.instance? g

theorem record (h : Resembles L a b) (x : AuditRecord) : Resembles L (a.record x) (b.record x) where
  __ := h
  trail := by
    unfold Engine.record
    rw [h.trail]

theorem retire (h : Resembles L a b) (f : FlowId) : Resembles L (a.retire f) (b.retire f) where
  __ := h
  instance? g := by
    have hi := h.instance? g
    unfold Engine.retire
    unfold Engine.instance? at hi ⊢
    simp only [Table.get?_foldl_erase, h.retired, h.retention]
    split
    · rfl
    · exact hi
  retired := by
    unfold Engine.retire
    simp only [h.retired, h.retention]

end Resembles

end Engine

/-! ### Desks -/

/-- The same error, or snapshots that are the same, times aside. -/
abbrev Outcome.Resembles (o o' : Outcome V) : Prop :=
  Likewise (fun s s' : Snapshot V => s'.untimed = s.untimed) o o'

/-- So are the outcomes that callers are told of. -/
theorem Outcome.Resembles.report {o o' : Outcome V} (h : Outcome.Resembles o o') (origin : Origin)
    (f : FlowId) : Outcome.Resembles (origin.report f o) (origin.report f o') := by
  cases h with
  | ok h => cases origin <;> exact .ok h
  | error e =>
    unfold Origin.report
    split <;> exact .error _

/-- The stages are the same, but for alike events and activities, and times in outcomes. -/
inductive Processing.Resembles (L : Likeness V I) : Processing V I → Processing V I → Prop where
  /-- About to find the lane. -/
  | arriving {e e' : V.Event} (he : L.Event e e') : Resembles L (.arriving e) (.arriving e')
  /-- In the queue of a lock. -/
  | queued {lock : LockId} {e e' : V.Event} (he : L.Event e e') :
      Resembles L (.queued lock e) (.queued lock e')
  /-- About to take an event. -/
  | ready {lock : LockId} {p : FlowParameters} {e e' : V.Event} (he : L.Event e e') :
      Resembles L (.ready lock p e) (.ready lock p e')
  /-- A handler is at work. -/
  | handling {lock : LockId} {p : FlowParameters} {e e' : V.Event} {hd : Handler V I}
      {a a' : Activity I (HandlerResult V)} (he : L.Event e e')
      (hf : ∀ error e e', L.Event e e' →
        L.Event (hd.failureEvent error e) (hd.failureEvent error e'))
      (ha : a.Resembles L.reply L.timed (Likewise L.Event) a') :
      Resembles L (.handling lock p e hd a) (.handling lock p e' hd a')
  /-- An action is at work. -/
  | acting {lock : LockId} {p : FlowParameters} {e e' : V.Event} {s : V.State}
      {a a' : Activity I (ActionResult V)} (he : L.Event e e')
      (ha : a.Resembles L.reply L.timed (Likewise (Option.Rel L.Event)) a') :
      Resembles L (.acting lock p e s a) (.acting lock p e' s a')
  /-- Over. -/
  | over {o o' : Outcome V} (ho : Outcome.Resembles o o') : Resembles L (.over o) (.over o')

@[inherit_doc Processing.Resembles]
inductive Work.Resembles (L : Likeness V I) : Work V I → Work V I → Prop where
  /-- Processing events of a flow. -/
  | process {o : Origin} {f : FlowId} {stage stage' : Processing V I}
      (hs : stage.Resembles L stage') : Resembles L (.process o f stage) (.process o f stage')
  /-- About to look who occupies a lane. -/
  | arriving {r : ResourceId} : Resembles L (.cancel r .arriving) (.cancel r .arriving)
  /-- Waiting to cancel. -/
  | queued {r : ResourceId} {lock : LockId} {f : FlowId} :
      Resembles L (.cancel r (.queued lock f)) (.cancel r (.queued lock f))
  /-- A cancel is over. -/
  | over {r : ResourceId} {o o' : Option (Snapshot V)}
      (ho : o'.map Snapshot.untimed = o.map Snapshot.untimed) :
      Resembles L (.cancel r (.over o)) (.cancel r (.over o'))
  /-- No flow could be opened. -/
  | refused {error : FlowError} : Resembles L (.refused error) (.refused error)

namespace Desk

/-- The registries are the same, and the engines are alike. -/
structure Resembles (L : Likeness V I) (D D' : Desk V I) : Prop where
  /-- The registries. -/
  registry : D'.registry = D.registry
  /-- The engines. -/
  engine : D.engine.Resembles L D'.engine

/-- The desks and the stages are alike. -/
def Abreast (L : Likeness V I) (x x' : Desk V I × Processing V I) : Prop :=
  Resembles L x.1 x'.1 ∧ x.2.Resembles L x'.2

namespace Resembles

variable {L : Likeness V I} {D D' : Desk V I} {p : FlowParameters} {now now' : Duration}
  {lock : LockId} {t : TaskId} {flow : FlowId} {e e' : V.Event} {reply reply' : I.Reply}

theorem passLock (h : Resembles L D D') (lock : LockId) :
    Resembles L (D.passLock lock) (D'.passLock lock) :=
  ⟨congrArg (·.passLock lock) h.registry, h.engine⟩

theorem withEngine (h : Resembles L D D') {a b : Engine V I} (he : a.Resembles L b) :
    Resembles L { D with engine := a } { D' with engine := b } :=
  ⟨h.registry, he⟩

theorem discharge (h : Resembles L D D') (p : FlowParameters) :
    Resembles L (D.discharge p) (D'.discharge p) :=
  ⟨congrArg (·.discharge p.resourceId p.flow) h.registry, h.engine⟩

theorem conclude (h : Resembles L D D') (p : FlowParameters) (s : FlowStatus)
    (now now' : Duration) : Resembles L (D.conclude p s now) (D'.conclude p s now') := by
  have hd := (h.withEngine (h.engine.finish p.flow s now now')).discharge p
  unfold Desk.conclude
  rw [h.engine.isRunning]
  dsimp only
  split
  · exact ⟨hd.registry, hd.engine.retire p.flow⟩
  · exact hd

theorem finishCancelled (h : Resembles L D D') (p : FlowParameters) (now now' : Duration) :
    Resembles L (D.finishCancelled p now) (D'.finishCancelled p now') :=
  h.conclude p .cancelled now now'

theorem complete (h : Resembles L D D') (p : FlowParameters) (now now' : Duration) :
    Resembles L (D.complete p now).1 (D'.complete p now').1 ∧
      Outcome.Resembles (D.complete p now).2 (D'.complete p now').2 := by
  unfold Desk.complete
  rcases h.engine.look p.flow with ⟨hi, hj⟩ | ⟨i, j, hi, hj, hij⟩
  · rw [hi, hj]
    exact ⟨h.discharge p, .error _⟩
  · rw [hi, hj]
    dsimp only
    rw [Instance.failure_of_untimed hij]
    refine ⟨h.conclude p _ now now', .ok ?_⟩
    exact Instance.untimed_snapshot (Instance.untimed_finish hij _ now now')

theorem reject (h : Resembles L D D') (p : FlowParameters) (s : V.State) (he : L.Event e e')
    (now now' : Duration) :
    Resembles L (D.reject p s e now).1 (D'.reject p s e' now').1 ∧
      (D'.reject p s e' now').2 = (D.reject p s e now).2 := by
  have hnoted : ∀ failure : Failure,
      (D.engine.update p.flow fun i => { i with failure := some failure }).Resembles L
        (D'.engine.update p.flow fun i => { i with failure := some failure }) := by
    exact fun failure => h.engine.update p.flow fun i j hij => Instance.untimed_failure hij _
  unfold Desk.reject
  rw [h.engine.isRunning, he.selector, he.ofEvent]
  dsimp only
  split
  · exact ⟨(h.withEngine ((hnoted _).record _)).conclude p .failed now now', rfl⟩
  · exact ⟨h.withEngine (hnoted _), rfl⟩

/-! Processing, stage by stage. -/

theorem arrive (h : Resembles L D D') (t : TaskId) (flow : FlowId) (he : L.Event e e') :
    Abreast L (D.arrive t flow e) (D'.arrive t flow e') := by
  unfold Desk.arrive
  rcases h.engine.look flow with ⟨hi, hj⟩ | ⟨i, j, hi, hj, hij⟩
  · rw [hi, hj]
    exact ⟨h, .over (.error _)⟩
  · rw [hi, hj]
    dsimp only
    rw [Instance.status_of_untimed hij, Instance.params_of_untimed hij, h.registry,
      h.engine.statusOf]
    split
    · exact ⟨h, .over (.error _)⟩
    · cases D.registry.lanes.lane? i.params.resourceId with
      | none => exact ⟨h, .over (.error _)⟩
      | some lane =>
        dsimp only
        split
        · exact ⟨⟨rfl, h.engine⟩, .queued he⟩
        · exact ⟨h, .over (.error _)⟩

theorem admitted (h : Resembles L D D') (flow : FlowId) (lock : LockId) (he : L.Event e e') :
    Abreast L (D.admitted flow lock e) (D'.admitted flow lock e') := by
  unfold Desk.admitted
  rcases h.engine.look flow with ⟨hi, hj⟩ | ⟨i, j, hi, hj, hij⟩
  · rw [hi, hj]
    exact ⟨h.passLock lock, .over (.error _)⟩
  · rw [hi, hj]
    dsimp only
    rw [Instance.status_of_untimed hij, Instance.params_of_untimed hij]
    split
    · exact ⟨h.passLock lock, .over (.error _)⟩
    · exact ⟨h, .ready he⟩

/-- A cancellation is noticed on both sides or on none. -/
theorem cancelled (h : Resembles L D D') :
    (D'.moment now').cancelled = (D.moment now).cancelled := by
  show D'.registry.isCancelled = D.registry.isCancelled
  rw [h.registry]

theorem turn (h : Resembles L D D') (lock : LockId) (p : FlowParameters) (he : L.Event e e')
    (hnow : L.timed → now' = now) :
    Abreast L (D.turn lock p e now) (D'.turn lock p e' now') := by
  unfold Desk.turn Desk.take
  rw [show D'.registry.isCancelled p.resourceId = D.registry.isCancelled p.resourceId by
    rw [h.registry], he.selector, h.engine.dispatcher, h.engine.definition]
  -- A recorded cancel comes before everything else, then handlers, then transitions.
  cases hc : D.registry.isCancelled p.resourceId with
  | true => exact ⟨(h.finishCancelled p now now').passLock lock, .over (.error _)⟩
  | false =>
    rcases h.engine.look p.flow with ⟨hi, hj⟩ | ⟨i, j, hi, hj, hij⟩
    · simp only [hi, hj]
      exact ⟨h.passLock lock, .over (.error _)⟩
    · simp only [hi, hj, Instance.state_of_untimed hij, he.ofEvent, Bool.false_eq_true, if_false]
      cases hh : D.engine.dispatcher.handler? e.selector with
      | some hd =>
        have hd' := h.withEngine (h.engine.record (.ofEvent p i.state none e))
        refine ⟨hd', .handling he (h.engine.oblivious.handlerFails hh) ?_⟩
        exact (h.engine.oblivious.accept hh _ e e' he).run hd'.cancelled hnow
      | none =>
        dsimp only
        cases ht : D.engine.definition.transition i.state e.selector with
        | none =>
          obtain ⟨hd, ho⟩ := h.reject p i.state he now now'
          dsimp only
          rw [ho]
          refine ⟨hd.passLock lock, .over ?_⟩
          unfold Desk.reject
          dsimp only
          split <;> exact .error _
        | some s =>
          have hd := h.withEngine
            ((h.engine.record (.ofEvent p i.state (some s) e)).enter p.flow s he)
          refine ⟨hd, .acting he ?_⟩
          show Activity.Resembles _ _ _ _ ((D'.engine.definition.execute s p e').run _)
          rw [h.engine.definition]
          exact (h.engine.oblivious.execute s p e e' he).run hd.cancelled hnow

theorem handled (h : Resembles L D D') (lock : LockId) (p : FlowParameters) {hd : Handler V I}
    (hf : ∀ error e e', L.Event e e' → L.Event (hd.failureEvent error e) (hd.failureEvent error e'))
    (he : L.Event e e') {r r' : HandlerResult V} (hr : Likewise L.Event r r')
    (now now' : Duration) :
    Abreast L (onward lock p (D.handled p hd e now r))
      (onward lock p (D'.handled p hd e' now' r')) := by
  unfold Desk.handled Handler.delivery
  cases hr with
  | ok hnext => exact ⟨h, .ready hnext⟩
  | error x =>
    cases hc : x.isCancellation with
    | true =>
      simp only [hc, if_true]
      exact ⟨(h.finishCancelled p now now').passLock lock, .over (.error _)⟩
    | false =>
      simp only [hc, Bool.false_eq_true, if_false]
      exact ⟨h, .ready (hf x e e' he)⟩

theorem acted (h : Resembles L D D') (lock : LockId) (p : FlowParameters) (s : V.State)
    (he : L.Event e e') {r r' : ActionResult V} (hr : Likewise (Option.Rel L.Event) r r')
    (now now' : Duration) :
    Abreast L (onward lock p (D.acted p s e now r)) (onward lock p (D'.acted p s e' now' r')) := by
  obtain ⟨hcomplete, houtcome⟩ := h.complete p now now'
  unfold Desk.acted
  rw [h.engine.definition]
  cases hr with
  | ok hnext =>
    dsimp only
    split
    · exact ⟨hcomplete.passLock lock, .over houtcome⟩
    · cases hnext with
      | some hnext => exact ⟨h, .ready hnext⟩
      | none =>
        refine ⟨h.passLock lock, .over ?_⟩
        have hg := h.engine.get? p.flow
        cases hs : D.engine.get? p.flow with
        | none =>
          rw [hs] at hg
          rw [Option.map_eq_none_iff.mp hg]
          exact .error _
        | some snapshot =>
          rw [hs] at hg
          obtain ⟨snapshot', hs', heq⟩ := Option.map_eq_some_iff.mp hg
          rw [hs']
          exact .ok heq
  | error x =>
    dsimp only
    split
    · exact ⟨(h.finishCancelled p now now').passLock lock, .over (.error _)⟩
    · split
      · exact ⟨hcomplete.passLock lock, .over houtcome⟩
      · exact ⟨h, .ready (h.engine.oblivious.actionFails s (some p) x e e' he)⟩

/-- One step of processing events. -/
theorem process (h : Resembles L D D') (t : TaskId) (flow : FlowId) (hnow : L.timed → now' = now)
    (hρ : L.reply reply reply') {stage stage' : Processing V I} (hs : stage.Resembles L stage') :
    Option.Rel (Abreast L) (D.process t flow now reply stage)
      (D'.process t flow now' reply' stage') := by
  cases hs with
  | arriving he => exact .some (h.arrive t flow he)
  | @queued lock e e' he =>
    unfold Desk.process
    rw [h.registry]
    dsimp only
    split
    · exact .some (h.admitted flow lock he)
    · exact .none
  | @ready lock p e e' he => exact .some (h.turn lock p he hnow)
  | @handling lock p e e' hd a a' he hf ha =>
    cases ha with
    | ended hr => exact .some (h.handled lock p hf he hr now now')
    | calling ha =>
      exact .some ⟨h, .handling he hf ((Activity.Resembles.calling ha).step h.cancelled hnow hρ)⟩
    | waiting hT hw ha =>
      exact .some ⟨h, .handling he hf ((Activity.Resembles.waiting hT hw ha).step h.cancelled hnow
        hρ)⟩
  | @acting lock p e e' s a a' he ha =>
    cases ha with
    | ended hr => exact .some (h.acted lock p s he hr now now')
    | calling ha =>
      exact .some ⟨h, .acting he ((Activity.Resembles.calling ha).step h.cancelled hnow hρ)⟩
    | waiting hT hw ha =>
      exact .some ⟨h, .acting he ((Activity.Resembles.waiting hT hw ha).step h.cancelled hnow hρ)⟩
  | «over» ho => exact .none

/-! Cancelling. -/

theorem requestCancel (h : Resembles L D D') (t : TaskId) (r : ResourceId) :
    Resembles L (D.requestCancel t r).1 (D'.requestCancel t r).1 ∧
      Work.Resembles L (.cancel r (D.requestCancel t r).2)
        (.cancel r (D'.requestCancel t r).2) := by
  unfold Desk.requestCancel
  rw [h.registry]
  cases D.registry.lanes.lane? r with
  | none => exact ⟨h, .over rfl⟩
  | some lane =>
    dsimp only
    rw [h.engine.owns]
    split
    · cases D.registry.requestCancel r lane.flow with
      | none => exact ⟨h, .over rfl⟩
      | some g => exact ⟨⟨rfl, h.engine⟩, .queued⟩
    · exact ⟨h, .over rfl⟩

theorem finishCancel (h : Resembles L D D') (lock : LockId) (flow : FlowId) (r : ResourceId)
    (now now' : Duration) :
    Resembles L (D.finishCancel lock flow now).1 (D'.finishCancel lock flow now').1 ∧
      Work.Resembles L (.cancel r (D.finishCancel lock flow now).2)
        (.cancel r (D'.finishCancel lock flow now').2) := by
  unfold Desk.finishCancel
  rcases h.engine.look flow with ⟨hi, hj⟩ | ⟨i, j, hi, hj, hij⟩
  · rw [hi, hj]
    exact ⟨h.passLock lock, .over rfl⟩
  · rw [hi, hj]
    dsimp only
    rw [Instance.params_of_untimed hij]
    have hd := h.finishCancelled i.params now now'
    exact ⟨hd.passLock lock, .over (hd.engine.get? flow)⟩

/-- One step of a task leaves the desks and the tasks alike. -/
theorem work (h : Resembles L D D') (t : TaskId) (hnow : L.timed → now' = now)
    (hρ : L.reply reply reply') {w w' : Work V I} (hw : w.Resembles L w') :
    Option.Rel (fun x x' => Resembles L x.1 x'.1 ∧ x.2.Resembles L x'.2) (D.work t now reply w)
      (D'.work t now' reply' w') := by
  cases hw with
  | @process o f stage stage' hs =>
    have hx := h.process t f hnow hρ hs
    unfold Desk.work
    dsimp only
    generalize D.process t f now reply stage = x at hx
    generalize D'.process t f now' reply' stage' = x' at hx
    cases hx with
    | none => exact .none
    | @some a b hx =>
      obtain ⟨d, stage₁⟩ := a
      obtain ⟨d', stage₁'⟩ := b
      obtain ⟨hd, hs⟩ : Resembles L d d' ∧ stage₁.Resembles L stage₁' := hx
      refine .some ⟨hd, .process ?_⟩
      cases hs with
      | arriving he => exact .arriving he
      | queued he => exact .queued he
      | ready he => exact .ready he
      | handling he hf ha => exact .handling he hf ha
      | acting he ha => exact .acting he ha
      | «over» ho => exact .over (ho.report o f)
  | arriving => exact .some (h.requestCancel t _)
  | @queued r lock f =>
    unfold Desk.work Desk.cancel
    rw [h.registry]
    dsimp only
    split
    · exact .some (h.finishCancel lock f r now now')
    · exact .none
  | «over» | refused => exact .none

end Resembles

end Desk

end ResourceFlow
