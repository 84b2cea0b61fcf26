import Mathlib.Data.List.DropRight
import ResourceFlow.Proofs.Engine.Taken
/-! # Which flows an engine keeps

  A step leaves the flows of an engine alone (`Engine.Keeps`), or it ends one
  of them, which is retired (`Engine.Retires`): it comes last among the retired
  flows, and those that exceed the retention are forgotten, the oldest first.

  So with the list of the flows that have ended, in order, an engine keeps the
  flows that run and the last ones of the list, as many as the retention says
  (`Engine.Remembers`).
-/

namespace ResourceFlow

variable {V : Vocabulary} {I : Interface}

namespace Engine

variable {e e₁ e' : Engine V I} {f : FlowId}

theorem owns_update (e : Engine V I) (f g : FlowId) (change : Instance V → Instance V) :
    (e.update f change).owns g = e.owns g := by
  unfold owns
  rw [instance?_update]
  split
  · exact Option.isSome_map
  · rfl

/-- What is forgotten where a flow is retired. -/
theorem owns_retire_iff (e : Engine V I) (f g : FlowId) : (e.retire f).owns g = true ↔
    e.owns g = true ∧ g ∉ (e.retired ++ [f]).take ((e.retired ++ [f]).length - e.retention) := by
  unfold owns retire instance?
  rw [Table.get?_foldl_erase]
  split
  · rename_i hg
    exact ⟨nofun, fun h => absurd hg h.2⟩
  · rename_i hg
    exact ⟨fun h => ⟨h, hg⟩, And.left⟩

/-- The engine keeps the same flows, and the same of them run. -/
structure Keeps (e e' : Engine V I) : Prop where
  /-- It keeps as many that have ended. -/
  retention : e'.retention = e.retention
  /-- None is retired. -/
  retired : e'.retired = e.retired
  /-- None is forgotten, and none is new. -/
  owns : ∀ g, e'.owns g = e.owns g
  /-- None ends, and none begins. -/
  running : ∀ g, e'.running? g = e.running? g

/-- A flow that ran has ended with a status and is retired. -/
structure Retires (e e' : Engine V I) (f : FlowId) (s : FlowStatus) : Prop where
  /-- It ran. -/
  ran : e.running? f ≠ none
  /-- The engine keeps as many flows that have ended. -/
  retention : e'.retention = e.retention
  /-- The flow comes last among the retired flows. -/
  retired : e'.retired = (e.retire f).retired
  /-- What exceeds the retention is forgotten. -/
  owns : ∀ g, e'.owns g = (e.retire f).owns g
  /-- No other flow ends, and none begins. -/
  running : ∀ g, e'.running? g = if g = f then none else e.running? g
  /-- The flow has that status, unless it is forgotten. -/
  status : ∀ i, e'.instance? f = some i → i.status = s

theorem Keeps.refl (e : Engine V I) : Keeps e e := ⟨rfl, rfl, fun _ => rfl, fun _ => rfl⟩

theorem Keeps.trans (h : Keeps e e₁) (h' : Keeps e₁ e') : Keeps e e' where
  retention := h'.retention.trans h.retention
  retired := h'.retired.trans h.retired
  owns g := (h'.owns g).trans (h.owns g)
  running g := (h'.running g).trans (h.running g)

theorem Keeps.record (h : Keeps e e') (a : AuditRecord) : Keeps e (e'.record a) :=
  ⟨h.retention, h.retired, h.owns, h.running⟩

/-- A change of one instance that touches neither parameters nor status. -/
theorem Keeps.update (e : Engine V I) (f : FlowId) {change : Instance V → Instance V}
    (hp : ∀ i, (change i).params = i.params) (hs : ∀ i, (change i).status = i.status) :
    Keeps e (e.update f change) :=
  ⟨rfl, rfl, fun g => owns_update e f g change, fun g => running?_update e f g hp hs⟩

/-- What was kept before a flow is retired does not matter. -/
theorem Retires.after {s : FlowStatus} (h : Retires e₁ e' f s) (hk : Keeps e e₁) :
    Retires e e' f s where
  ran := hk.running f ▸ h.ran
  retention := h.retention.trans hk.retention
  retired := by
    rw [h.retired]
    unfold retire
    dsimp only
    rw [hk.retired, hk.retention]
  owns g := by
    rw [h.owns, Bool.eq_iff_iff, owns_retire_iff, owns_retire_iff, hk.retired, hk.retention,
      hk.owns]
  running g := by rw [h.running, hk.running]
  status := h.status

/-- How a flow ends in a terminal state: failed if a failure was recorded. -/
def verdict (e : Engine V I) (f : FlowId) : FlowStatus :=
  if ((e.instance? f).bind Instance.failure).isSome then .failed else .finished

end Engine

namespace Desk

/-- The end of a flow leaves the engine as it was if the flow did not run. -/
theorem memory_of_conclude {d : Desk V I} (hr : ∀ g ∈ d.engine.retired, d.engine.running? g = none)
    (p : FlowParameters) {s : FlowStatus} (hs : s ≠ .running) (now : Duration) :
    d.engine.Keeps (d.conclude p s now).engine ∨
      d.engine.Retires (d.conclude p s now).engine p.flow s := by
  have hrunning := (Quits.conclude hr p hs now).running
  have hstatus := fun i => (Quits.conclude hr p hs now).kept p.flow i
  have howns : ∀ g, (d.engine.finish p.flow s now).owns g = d.engine.owns g :=
    fun g => Engine.owns_update ..
  unfold Desk.conclude at hrunning hstatus ⊢
  dsimp only at hrunning hstatus ⊢
  by_cases hran : d.engine.isRunning p.flow = true
  · rw [if_pos hran] at hrunning hstatus ⊢
    rw [Engine.isRunning_eq] at hran
    refine .inr ⟨Option.isSome_iff_ne_none.mp hran, rfl, rfl, ?_, hrunning, ?_⟩
    · intro g
      rw [Bool.eq_iff_iff, Engine.owns_retire_iff, Engine.owns_retire_iff]
      exact and_congr (Bool.eq_iff_iff.mp (howns g)) Iff.rfl
    · intro i hi
      obtain ⟨j, hj, -, hsame | ⟨-, hends⟩⟩ := hstatus i hi
      · -- With the status that it had it would run still.
        have hgone := (hrunning p.flow).trans (if_pos rfl)
        obtain ⟨q, hq⟩ := Option.isSome_iff_exists.mp hran
        obtain ⟨k, hk, hkr, -⟩ := Engine.running?_eq_some_iff.mp hq
        obtain rfl := Option.some.inj (hj.symm.trans hk)
        rw [Engine.running?_of_instance? hi (hsame.trans hkr)] at hgone
        cases hgone
      · exact hends
  · rw [if_neg hran] at hrunning hstatus ⊢
    refine .inl ⟨rfl, rfl, howns, ?_⟩
    intro g
    refine (hrunning g).trans ?_
    split
    · rename_i hg
      rw [Engine.isRunning_eq] at hran
      rw [hg, Option.not_isSome_iff_eq_none.mp hran]
    · rfl

/-! ### Which flow a step ends -/

/-- The flow that ends in the next step of a task, if it still runs, and how it ends. -/
def bound? (d : Desk V I) : Work V I → Option (FlowId × FlowStatus)
  | .process _ _ (.ready _ p event) =>
    if d.registry.isCancelled p.resourceId then some (p.flow, .cancelled)
    else match d.engine.instance? p.flow, d.engine.dispatcher.handler? event.selector with
      | some i, none =>
        if d.engine.definition.transition i.state event.selector = none then some (p.flow, .failed)
        else none
      | _, _ => none
  | .process _ _ (.handling _ p _ _ (.ended (.error e))) =>
    if e.isCancellation then some (p.flow, .cancelled) else none
  | .process _ _ (.acting _ p _ s (.ended (.ok _))) =>
    if d.engine.definition.isTerminal s then some (p.flow, d.engine.verdict p.flow) else none
  | .process _ _ (.acting _ p _ s (.ended (.error e))) =>
    if e.isCancellation then some (p.flow, .cancelled)
    else if d.engine.definition.isTerminal s then some (p.flow, d.engine.verdict p.flow) else none
  | .cancel _ (.queued _ f) => (d.engine.instance? f).map (·.params.flow, .cancelled)
  | _ => none

/-- The flow that ends in the next step of a task, and how it ends. -/
def stops? (d : Desk V I) (w : Work V I) : Option (FlowId × FlowStatus) :=
  (d.bound? w).filter fun x => d.engine.isRunning x.1

/-- A step leaves the flows of the engine alone, or the flow that it ends is retired. -/
theorem Move.stops {d d' : Desk V I} {t : TaskId} {now : Duration} {reply : I.Reply}
    {w w' : Work V I} (h : Move d t now reply w d' w')
    (hr : ∀ g ∈ d.engine.retired, d.engine.running? g = none)
    (hin : ∀ lock p, w.inHand? = some (lock, p) → d.engine.running? p.flow = some p) :
    (d.stops? w = none ∧ d.engine.Keeps d'.engine) ∨
      ∃ f s, d.stops? w = some (f, s) ∧ d.engine.Retires d'.engine f s := by
  have hstay (hb : d.bound? w = none) (hk : d.engine.Keeps d'.engine) :
      (d.stops? w = none ∧ d.engine.Keeps d'.engine) ∨
        ∃ f s, d.stops? w = some (f, s) ∧ d.engine.Retires d'.engine f s :=
    .inl ⟨by unfold stops?; rw [hb]; rfl, hk⟩
  -- A flow that does not run after the step is retired unless it did not run before.
  have hend {p : FlowParameters} {s : FlowStatus} {d₁ : Desk V I}
      (hb : d.bound? w = some (p.flow, s)) (hq : Quits d d₁ p s) (hd : d'.engine = d₁.engine)
      (h : d.engine.Keeps d₁.engine ∨ d.engine.Retires d₁.engine p.flow s) :
      (d.stops? w = none ∧ d.engine.Keeps d'.engine) ∨
        ∃ f s, d.stops? w = some (f, s) ∧ d.engine.Retires d'.engine f s := by
    have hgone := hq.running p.flow
    rw [if_pos rfl] at hgone
    unfold stops?
    rw [hb, hd, Option.filter_some, Engine.isRunning_eq]
    rcases h with hk | hf
    · rw [hk.running] at hgone
      exact .inl ⟨by rw [hgone]; rfl, hk⟩
    · exact .inr ⟨p.flow, s, if_pos (Option.isSome_iff_ne_none.mpr hf.ran), hf⟩
  have hcancel (p : FlowParameters) (hb : d.bound? w = some (p.flow, .cancelled))
      (hd : d'.engine = (d.finishCancelled p now).engine) :=
    hend hb (.finishCancelled hr p now) hd (memory_of_conclude hr p (s := .cancelled) nofun now)
  cases h with
  | hand hc hi hh => exact hstay (by simp [bound?, hc, hi, hh]) ((Engine.Keeps.refl _).record _)
  | enter hc hi hh ht =>
    refine hstay (by simp [bound?, hc, hi, hh, ht])
      (((Engine.Keeps.refl _).record _).trans (.update _ _ ?_ ?_))
    · intro i; dsimp only; split <;> rfl
    · intro i; dsimp only; split <;> rfl
  | halt hc => exact hcancel _ (by simp [bound?, hc]) rfl
  | handlerCancelled he => exact hcancel _ (by simp [bound?, he]) rfl
  | actionCancelled he => exact hcancel _ (by simp [bound?, he]) rfl
  | finish hh hi => exact hcancel _ (by simp [bound?, hi]) rfl
  | @refuse _ _ _ p event i hc hi hh ht =>
    refine hend (by simp [bound?, hc, hi, hh, ht]) (.reject hr (hin _ _ rfl) i.state event now) rfl ?_
    -- The failure is noted and recorded before the flow ends.
    have hnoted : d.engine.Keeps ((d.engine.update p.flow fun j =>
        { j with failure := some (V.noTransition i.state event) }).record
        { AuditRecord.ofEvent p i.state none event with
          failure := some (V.noTransition i.state event) }) := by
      refine Engine.Keeps.record (.update _ _ ?_ ?_) _
      · intro j; rfl
      · intro j; rfl
    unfold Desk.reject
    rw [if_pos (by rw [Engine.isRunning_eq, hin _ _ rfl]; rfl)]
    have hmemory := memory_of_conclude (d := { d with engine := _ })
      (fun g hg => (hnoted.running g).trans (hr g (hnoted.retired ▸ hg))) p (s := .failed) nofun now
    exact hmemory.imp hnoted.trans fun h => h.after hnoted
  | @completed _ _ _ p event state result he hs =>
    obtain ⟨i, hi, -⟩ := Engine.running?_eq_some_iff.mp (hin _ _ rfl)
    have hverdict : d.engine.verdict p.flow = if i.failure.isSome then .failed else .finished := by
      unfold Engine.verdict
      rw [hi]
      rfl
    have hne : d.engine.verdict p.flow ≠ .running := by
      rw [hverdict]
      split <;> exact nofun
    refine hend (p := p) (s := d.engine.verdict p.flow) ?_ (.conclude hr p hne now) ?_
      (memory_of_conclude hr p hne now)
    · cases result with
      | ok next => simp [bound?, hs]
      | error e => simp [bound?, hs, he e rfl]
    · show (d.complete p now).1.engine = _
      rw [complete_eq hi, hverdict]
  | acted hs | parked hs => exact hstay (by simp [bound?, hs]) (.refl _)
  | actionFailed he hs => exact hstay (by simp [bound?, he, hs]) (.refl _)
  | handlerFailed he => exact hstay (by simp [bound?, he]) (.refl _)
  | lost hc hi => exact hstay (by simp [bound?, hc, hi]) (.refl _)
  | gone hh hi => exact hstay (by simp [bound?, hi]) (.refl _)
  | @handle _ _ _ _ _ _ a hn =>
    refine hstay ?_ (.refl _)
    cases a with
    | ended result => exact absurd rfl (hn result)
    | _ => rfl
  | @act _ _ _ _ _ _ a hn =>
    refine hstay ?_ (.refl _)
    cases a with
    | ended result => exact absurd rfl (hn result)
    | _ => rfl
  | _ => exact hstay rfl (.refl _)

end Desk

/-! ### What is remembered -/

/-- The last elements of a list with one more are found among the last ones of the list and the new
    one. -/
theorem List.rtake_rtake_concat {α : Type} (l : List α) (a : α) (n : Nat) :
    (l.rtake n ++ [a]).rtake n = (l ++ [a]).rtake n := by
  unfold List.rtake
  rw [← List.drop_append_of_le_length (Nat.sub_le _ _), List.drop_drop]
  congr 1
  simp only [List.length_append, List.length_drop, List.length_singleton]
  omega

/-- An element is among the last ones if not as many come after it. -/
theorem List.mem_rtake_iff {α : Type} {before after : List α} {a : α} {n : Nat}
    (h : (before ++ a :: after).Nodup) :
    a ∈ (before ++ a :: after).rtake n ↔ after.length < n := by
  have hlength : (before ++ a :: after).length = before.length + (after.length + 1) :=
    List.length_append
  unfold List.rtake
  constructor
  · intro hmem
    refine Nat.lt_of_not_le fun hn => ?_
    -- It would be among those that are dropped.
    have hdropped : a ∈ (before ++ a :: after).take ((before ++ a :: after).length - n) := by
      rw [hlength, List.take_append, List.mem_append]
      refine .inr ?_
      rw [show before.length + (after.length + 1) - n - before.length =
        (after.length - n) + 1 by omega]
      exact List.mem_cons_self
    rw [← List.take_append_drop ((before ++ a :: after).length - n) (before ++ a :: after)] at h
    exact (List.nodup_append.mp h).2.2 a hdropped a hmem rfl
  · intro hn
    rw [List.drop_append_of_le_length (by omega)]
    exact List.mem_append_right _ List.mem_cons_self

namespace Engine

/-- The engine keeps the flows that run and, of those that have ended, which are these in order, the
    last ones, as many as the retention says. -/
structure Remembers (e : Engine V I) (n : Nat) (l : List FlowId) : Prop where
  /-- How many it keeps that have ended. -/
  retention : e.retention = n
  /-- Those are retired. -/
  retired : e.retired = l.rtake n
  /-- A flow ends once. -/
  nodup : l.Nodup
  /-- What has ended does not run. -/
  ended : ∀ f ∈ l, e.running? f = none
  /-- Which flows are kept. -/
  owns : ∀ f, e.owns f = true ↔ e.running? f ≠ none ∨ f ∈ l.rtake n

namespace Remembers

variable {e e' : Engine V I} {f : FlowId} {n : Nat} {l : List FlowId}

/-- An engine that has just been built remembers nothing. -/
theorem new (d : Definition V I) (h : Dispatcher V I) (n : Nat) :
    Remembers { definition := d, dispatcher := h, retention := n } n [] where
  retention := rfl
  retired := (List.rtake_nil n).symm
  nodup := .nil
  ended f hf := by cases hf
  owns f := by
    rw [List.rtake_nil]
    refine ⟨nofun, ?_⟩
    rintro (hf | hf)
    · exact absurd rfl hf
    · cases hf

theorem keeps (h : e.Remembers n l) (hk : e.Keeps e') : e'.Remembers n l where
  retention := hk.retention.trans h.retention
  retired := hk.retired.trans h.retired
  nodup := h.nodup
  ended g hg := (hk.running g).trans (h.ended g hg)
  owns g := by
    rw [hk.owns, hk.running]
    exact h.owns g

/-- A new flow is kept. -/
theorem add (h : e.Remembers n l) {i : Instance V} (hi : i.status = .running)
    (hnew : i.params.flow ∉ l) : (e.add i).Remembers n l where
  retention := h.retention
  retired := h.retired
  nodup := h.nodup
  ended g hg := by
    have hne : g ≠ i.params.flow := fun heq => hnew (heq ▸ hg)
    rw [running?_add e hi, if_neg hne]
    exact h.ended g hg
  owns g := by
    have howns := h.owns g
    unfold Engine.owns at howns ⊢
    rw [running?_add e hi, instance?_add]
    by_cases hg : g = i.params.flow
    · simp [hg]
    · simpa [hg] using howns

/-- A flow that ends is the last one that has ended, and the oldest beyond the retention is
    forgotten. -/
theorem retires {s : FlowStatus} (h : e.Remembers n l) (hr : e.Retires e' f s) :
    e'.Remembers n (l ++ [f]) := by
  have hfresh : f ∉ l := fun hf => hr.ran (h.ended f hf)
  have hretired : e'.retired = (l ++ [f]).rtake n := by
    rw [hr.retired, ← List.rtake_rtake_concat, ← h.retired, ← h.retention]
    rfl
  have hnodup : (l ++ [f]).Nodup := by
    simpa [List.nodup_append] using ⟨h.nodup, fun g hg heq => hfresh (heq ▸ hg)⟩
  refine ⟨hr.retention.trans h.retention, hretired, hnodup, ?_, ?_⟩
  · intro g hg
    rw [hr.running]
    split
    · rfl
    · rcases List.mem_append.mp hg with hg | hg
      · exact h.ended g hg
      · exact absurd (List.mem_singleton.mp hg) ‹_›
  · intro g
    -- What was retired, with the flow that ends, is forgotten or retired afterwards.
    let forgotten := (e.retired ++ [f]).take ((e.retired ++ [f]).length - e.retention)
    have hsplit : forgotten ++ (l ++ [f]).rtake n = e.retired ++ [f] := by
      rw [← hretired, hr.retired]
      exact List.take_append_drop ..
    have hmem : g ∈ forgotten ∨ g ∈ (l ++ [f]).rtake n ↔ g ∈ e.retired ∨ g = f := by
      rw [← List.mem_append, hsplit, List.mem_append, List.mem_singleton]
    have hdisjoint : g ∈ forgotten → g ∉ (l ++ [f]).rtake n := by
      have hsub : List.Sublist (e.retired ++ [f]) (l ++ [f]) := by
        rw [h.retired]
        exact (List.drop_sublist ..).append (List.Sublist.refl _)
      have hnd := hsub.nodup hnodup
      rw [← hsplit] at hnd
      exact fun hf hl => (List.nodup_append.mp hnd).2.2 g hf g hl rfl
    have hended : g ∈ e.retired → e.running? g = none :=
      fun hg => h.ended g (List.mem_of_mem_drop (h.retired ▸ hg))
    rw [hr.owns, owns_retire_iff, h.owns, hr.running, ← h.retired]
    show _ ∧ g ∉ forgotten ↔ _
    by_cases hg : g = f
    · have hran := hr.ran
      subst hg
      simp only [if_true, ne_eq, not_true_eq_false, false_or]
      tauto
    · rw [if_neg hg]
      tauto

end Remembers

end Engine

end ResourceFlow
