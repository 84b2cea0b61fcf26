import ResourceFlow.Engine.Threads
import ResourceFlow.Proofs.Engine.Instances
/-! # What an ended flow leaves in the registry

  Between the critical section that drops the record of a resource and the one
  that frees its lane, a cancel that looked the flow up earlier may still
  record itself: the flow occupies the lane until it is freed. Nobody drops
  that record afterwards. So the registry of a free lane holds either nothing
  or a cancel, and it holds a cancel exactly if one was recorded in that gap
  (`Threads.entry_of_free_lane`); and that happens (`Threads.entry_left_behind`).

  Two invariants carry the proof. `Threads.Known`: while a flow is being
  opened, nobody else has got hold of it. `Threads.Traced`: records and lanes
  are what the log says, and after a thread dropped the record, only cancels
  follow as long as the flow occupies the lane.
-/

namespace ResourceFlow

/-! ### What one critical section does -/

/-- The flow that a thread is opening. -/
def Thread.opening? : Thread → Option FlowId
  | .claim _ _ f _ => some f
  | .markRunning _ _ f => some f
  | .insert _ _ f => some f
  | _ => none

/-- The flow whose instance a thread has seen. -/
def Thread.seen? : Thread → Option FlowId
  | .lookup _ _ f => some f
  | .ask _ _ f _ => some f
  | .wait _ _ f _ => some f
  | .work _ _ f _ => some f
  | .finish _ _ f _ => some f
  | .clear _ f _ => some f
  | .release _ f _ => some f
  | .markCancelled _ _ f _ => some f
  | .askCancel _ f _ => some f
  | .waitCancel _ f _ => some f
  | .retrieve _ f _ => some f
  | _ => none

/-- An engine keeps an instance of the flow. -/
def Shared.Keeps (s : Shared) (f : FlowId) : Prop := ∃ e, (s.instances.get? (e, f)).isSome

/-- The flow occupies the lane. -/
def Shared.Holds (s : Shared) (r : ResourceId) (f : FlowId) : Prop :=
  ∃ lane, s.registry.lanes.lane? r = some lane ∧ lane.flow = f

/-- Lanes, records and log are the same. -/
structure Shared.Same (s s' : Shared) : Prop where
  lane : ∀ r, s'.registry.lanes.lane? r = s.registry.lanes.lane? r
  status : ∀ r, s'.registry.status? r = s.registry.status? r
  log : s'.log = s.log

theorem Shared.Same.refl (s : Shared) : s.Same s := ⟨fun _ => rfl, fun _ => rfl, rfl⟩

/-- What a critical section does to lanes and records. -/
inductive Thread.Move (s : Shared) : Thread → Shared → Thread → Prop where
  /-- Nothing. -/
  | goes {th th' : Thread} {s' : Shared} (hs : s.Same s') (ho : th'.opening? = none)
      (hr : ∀ r f lock, th' ≠ .release r f lock) : Move s th s' th'
  | claims {e : EngineId} {r : ResourceId} {f : FlowId} {flowType : String} {g : Registry}
      (hfree : s.registry.lanes.lane? r = none) (hg : s.registry.claim r f flowType = .ok g) :
      Move s (.claim e r f flowType) (s.put g (.claimed r f)) (.markRunning e r f)
  | runs {e : EngineId} {r : ResourceId} {f : FlowId} :
      Move s (.markRunning e r f) (s.put (s.registry.markRunning r) (.running r f)) (.insert e r f)
  | clears {r : ResourceId} {f : FlowId} {lock : LockId} (hh : s.Holds r f) :
      Move s (.clear r f lock) (s.put (s.registry.clear r) (.cleared r f)) (.release r f lock)
  | frees {r : ResourceId} {f : FlowId} {lock : LockId} (hh : s.Holds r f) :
      Move s (.release r f lock) (s.put (s.registry.releaseLane r f) (.released r f))
        (.unlock lock)
  | marks {e : EngineId} {r : ResourceId} {f : FlowId} {lock : LockId} (hh : s.Holds r f) :
      Move s (.markCancelled e r f lock) (s.put (s.registry.markCancelled r) (.cancelled r f))
        (.askCancel e f lock)

/-- The thread goes on and leaves everything as it is. -/
theorem Thread.Move.stays {s : Shared} {th th' : Thread} (ho : th'.opening? = none)
    (hr : ∀ r f lock, th' ≠ .release r f lock) : Move s th s th' :=
  .goes (.refl s) ho hr

theorem Thread.move_of_step {s s' : Shared} {t : Nat} {ends : Bool} {th th' : Thread}
    (h : th.step s t ends = some (s', th')) : th.Move s s' th' := by
  cases th with
  | claim e r f flowType =>
    unfold Thread.step at h
    cases hg : s.registry.claim r f flowType with
    | error err =>
      simp only [hg, Option.some.injEq, Prod.mk.injEq] at h
      obtain ⟨rfl, rfl⟩ := h
      exact .stays rfl (fun _ _ _ => nofun)
    | ok g =>
      simp only [hg, Option.some.injEq, Prod.mk.injEq] at h
      obtain ⟨rfl, rfl⟩ := h
      obtain ⟨lanes, hc, -⟩ := Registry.claim_eq_ok_iff.mp hg
      exact .claims (Lanes.lane?_eq_none_of_claim hc) hg
  | markRunning e r f =>
    obtain ⟨rfl, rfl⟩ := Prod.mk.inj (Option.some.inj h)
    exact .runs
  | clear r f lock =>
    simp only [step] at h
    split at h
    · obtain ⟨rfl, rfl⟩ := Prod.mk.inj (Option.some.inj h)
      exact .stays rfl (fun _ _ _ => nofun)
    · rename_i g hg
      obtain ⟨rfl, rfl⟩ := Prod.mk.inj (Option.some.inj h)
      obtain ⟨hh, rfl⟩ := Registry.withHolder_eq_some_iff.mp hg
      exact .clears (Lanes.holds_iff.mp hh)
  | release r f lock =>
    simp only [step] at h
    split at h
    · rename_i hh
      obtain ⟨rfl, rfl⟩ := Prod.mk.inj (Option.some.inj h)
      exact .frees (Lanes.holds_iff.mp hh)
    · obtain ⟨rfl, rfl⟩ := Prod.mk.inj (Option.some.inj h)
      exact .stays rfl (fun _ _ _ => nofun)
  | markCancelled e r f lock =>
    simp only [step, Registry.requestCancel] at h
    split at h
    · obtain ⟨rfl, rfl⟩ := Prod.mk.inj (Option.some.inj h)
      exact .stays rfl (fun _ _ _ => nofun)
    · rename_i g hg
      obtain ⟨rfl, rfl⟩ := Prod.mk.inj (Option.some.inj h)
      obtain ⟨hh, rfl⟩ := Registry.withHolder_eq_some_iff.mp hg
      exact .marks (Lanes.holds_iff.mp hh)
  | insert e r f | finish e r f lock | ask e r f lock | askCancel e f lock | unlock lock =>
    obtain ⟨rfl, rfl⟩ := Prod.mk.inj (Option.some.inj h)
    exact .goes ⟨fun _ => rfl, fun _ => rfl, rfl⟩ rfl (fun _ _ _ => nofun)
  | find e f | lookup e r f | work e r f lock | owns e r f lock =>
    -- Where the thread goes depends on what it finds; what is shared stays.
    simp only [step] at h
    repeat' split at h
    all_goals
      obtain ⟨rfl, rfl⟩ := Prod.mk.inj (Option.some.inj h)
      exact .stays rfl (fun _ _ _ => nofun)
  | look e r | retrieve e f lock =>
    simp only [step] at h
    split at h
    all_goals
      obtain ⟨rfl, rfl⟩ := Prod.mk.inj (Option.some.inj h)
      exact .stays rfl (fun _ _ _ => nofun)
  | wait e r f lock | waitCancel e f lock =>
    simp only [step] at h
    split at h
    · obtain ⟨rfl, rfl⟩ := Prod.mk.inj (Option.some.inj h)
      exact .stays rfl (fun _ _ _ => nofun)
    · cases h
  | idle => cases h

/-- Instances are added and changed, but none is lost. -/
theorem Shared.keeps_insert {s : Shared} {e : EngineId} {f g : FlowId} {i : Holding}
    (h : Shared.Keeps { s with instances := s.instances.insert (e, f) i } g) :
    s.Keeps g ∨ f = g := by
  obtain ⟨e', h⟩ := h
  rw [Table.get?_insert] at h
  split at h
  · rename_i he
    exact .inr (Prod.mk.inj he).2.symm
  · exact .inl ⟨e', h⟩

theorem Shared.keeps_modify {s : Shared} {k : EngineId × FlowId} {g : FlowId}
    {change : Holding → Holding}
    (h : Shared.Keeps { s with instances := s.instances.modify k change } g) : s.Keeps g := by
  obtain ⟨e', h⟩ := h
  rw [Table.get?_modify] at h
  split at h
  · rw [Option.isSome_map] at h
    exact ⟨e', h⟩
  · exact ⟨e', h⟩

/-- Who has got hold of a flow after a critical section: a thread that opens a flow opened it
    before; one that has seen its instance had seen it before or saw it now; and an instance that is
    there was there before, or the thread that opened the flow added it. -/
theorem Thread.holders_of_step {s s' : Shared} {t : Nat} {ends : Bool} {th th' : Thread}
    (h : th.step s t ends = some (s', th')) (f : FlowId) :
    (th'.opening? = some f → th.opening? = some f) ∧
    (th'.seen? = some f → th.seen? = some f ∨ s.Keeps f) ∧
    (s'.Keeps f → s.Keeps f ∨ (th.opening? = some f ∧ th'.opening? = none)) := by
  -- Only adding an instance and looking one up hand a flow on to someone.
  cases th with
  | claim e r g flowType | clear r g lock | release r g lock | markCancelled e r g lock
  | lookup e r g | work e r g lock =>
    simp only [step] at h
    repeat' split at h
    all_goals
      obtain ⟨rfl, rfl⟩ := Prod.mk.inj (Option.some.inj h)
      exact ⟨by first | exact id | exact nofun, by first | exact .inl | exact nofun, .inl⟩
  | markRunning e r g =>
    obtain ⟨rfl, rfl⟩ := Prod.mk.inj (Option.some.inj h)
    exact ⟨id, nofun, .inl⟩
  | ask e r g lock | askCancel e g lock | unlock lock =>
    obtain ⟨rfl, rfl⟩ := Prod.mk.inj (Option.some.inj h)
    exact ⟨nofun, .inl, .inl⟩
  | insert e r g =>
    -- The flow is not being opened any more, but kept for everyone to see.
    obtain ⟨rfl, rfl⟩ := Prod.mk.inj (Option.some.inj h)
    refine ⟨nofun, nofun, ?_⟩
    intro hk
    rcases Shared.keeps_insert hk with hk | rfl
    · exact .inl hk
    · exact .inr ⟨rfl, rfl⟩
  | finish e r g lock =>
    obtain ⟨rfl, rfl⟩ := Prod.mk.inj (Option.some.inj h)
    exact ⟨nofun, .inl, fun hk => .inl (Shared.keeps_modify hk)⟩
  | find e g =>
    simp only [step] at h
    split at h
    · obtain ⟨rfl, rfl⟩ := Prod.mk.inj (Option.some.inj h)
      exact ⟨nofun, nofun, .inl⟩
    · rename_i i hi
      obtain ⟨rfl, rfl⟩ := Prod.mk.inj (Option.some.inj h)
      refine ⟨by split <;> exact nofun, ?_, .inl⟩
      intro hs
      split at hs
      · cases hs
      · -- What the thread has seen is kept.
        cases hs
        exact .inr ⟨e, by rw [hi]; rfl⟩
  | owns e r g lock =>
    obtain ⟨rfl, rfl⟩ := Prod.mk.inj (Option.some.inj h)
    refine ⟨by split <;> exact nofun, ?_, .inl⟩
    intro hs
    split at hs
    · rename_i hi
      cases hs
      exact .inr ⟨e, hi⟩
    · cases hs
  | look e r =>
    simp only [step] at h
    split at h
    all_goals
      obtain ⟨rfl, rfl⟩ := Prod.mk.inj (Option.some.inj h)
      exact ⟨nofun, nofun, .inl⟩
  | retrieve e g lock =>
    simp only [step] at h
    split at h
    · obtain ⟨rfl, rfl⟩ := Prod.mk.inj (Option.some.inj h)
      exact ⟨nofun, nofun, .inl⟩
    · obtain ⟨rfl, rfl⟩ := Prod.mk.inj (Option.some.inj h)
      exact ⟨nofun, .inl, .inl⟩
  | wait e r g lock | waitCancel e g lock =>
    simp only [step] at h
    split at h
    · obtain ⟨rfl, rfl⟩ := Prod.mk.inj (Option.some.inj h)
      exact ⟨nofun, .inl, .inl⟩
    · cases h
  | idle => cases h

/-! ### Who has got hold of a flow -/

namespace Threads

/-- Flows that somebody has got hold of have been opened, and while a flow is being opened, nobody
    else has got hold of it. -/
structure Known (w : Threads) : Prop where
  opening : ∀ (t : Nat) (th : Thread) (f : FlowId), w.threads[t]? = some th →
    th.opening? = some f → ∃ n, f = .opened n ∧ n < w.nextFlow
  seen : ∀ (t : Nat) (th : Thread) (f : FlowId), w.threads[t]? = some th →
    th.seen? = some f → ∃ n, f = .opened n ∧ n < w.nextFlow
  kept : ∀ f, w.shared.Keeps f → ∃ n, f = .opened n ∧ n < w.nextFlow
  alone : ∀ (t : Nat) (th : Thread) (f : FlowId), w.threads[t]? = some th →
    th.opening? = some f → ¬ w.shared.Keeps f ∧
      ∀ (u : Nat) (th' : Thread), w.threads[u]? = some th' →
        th'.seen? ≠ some f ∧ (th'.opening? = some f → u = t)

/-- A step of a thread. -/
structure RunStep (w : Threads) (t : Nat) (w' : Threads) (th : Thread) (s' : Shared)
    (th' : Thread) : Prop where
  hasThread : w.threads[t]? = some th
  step : ∃ ends, th.step w.shared t ends = some (s', th')
  result : w' = { w with shared := s', threads := w.threads.set t th' }

theorem runStep_of_step {w w' : Threads} {t : Nat} {ends : Bool}
    (h : w.step (.run t ends) = some w') : ∃ th s' th', RunStep w t w' th s' th' := by
  obtain ⟨th, ht, h⟩ := Option.bind_eq_some_iff.mp h
  obtain ⟨⟨s', th'⟩, hs, h⟩ := Option.bind_eq_some_iff.mp h
  exact ⟨th, s', th', ht, ⟨ends, hs⟩, (Option.some.inj h).symm⟩

theorem RunStep.threads {w w' : Threads} {t : Nat} {th th' : Thread} {s' : Shared}
    (h : RunStep w t w' th s' th') (u : Nat) :
    w'.threads[u]? = if u = t then some th' else w.threads[u]? := by
  obtain ⟨ht, -, rfl⟩ := h
  have hlt : t < w.threads.length := (List.getElem?_eq_some_iff.mp ht).1
  by_cases hu : u = t
  · subst hu; simp [hlt]
  · simp [hu, Ne.symm hu]

theorem threads_spawn {w : Threads} {th th' : Thread} {u : Nat} :
    (w.spawn th).threads[u]? = some th' ↔
      w.threads[u]? = some th' ∨ (u = w.threads.length ∧ th' = th) :=
  getElem?_snoc_iff

namespace Known

variable {w w' : Threads}

theorem init : Known {} where
  opening _ _ _ h := nomatch h
  seen _ _ _ h := nomatch h
  kept _ h := by
    obtain ⟨e, h⟩ := h
    cases h
  alone _ _ _ h := nomatch h

section Run

variable {t : Nat} {th th' : Thread} {s' : Shared}

/-- Whoever opens a flow after the step opened it before. -/
theorem opening_before (hr : RunStep w t w' th s' th') {u : Nat} {k : Thread} {f : FlowId}
    (hk : w'.threads[u]? = some k) (hf : k.opening? = some f) :
    ∃ k₀, w.threads[u]? = some k₀ ∧ k₀.opening? = some f := by
  obtain ⟨ends, hstep⟩ := hr.step
  rw [hr.threads] at hk
  split at hk
  · rename_i hu
    cases hk
    exact ⟨th, hu ▸ hr.hasThread, (Thread.holders_of_step hstep f).1 hf⟩
  · exact ⟨k, hk, hf⟩

/-- Whoever has seen a flow after the step had seen it before, or saw it in this step. -/
theorem seen_before (hr : RunStep w t w' th s' th') {u : Nat} {k : Thread} {f : FlowId}
    (hk : w'.threads[u]? = some k) (hf : k.seen? = some f) :
    (∃ k₀, w.threads[u]? = some k₀ ∧ k₀.seen? = some f) ∨ w.shared.Keeps f := by
  obtain ⟨ends, hstep⟩ := hr.step
  rw [hr.threads] at hk
  split at hk
  · rename_i hu
    cases hk
    rcases (Thread.holders_of_step hstep f).2.1 hf with hf | hf
    · exact .inl ⟨th, hu ▸ hr.hasThread, hf⟩
    · exact .inr hf
  · exact .inl ⟨k, hk, hf⟩

/-- What is kept after the step was kept before, or the thread that opened the flow added it. -/
theorem keeps_before (hr : RunStep w t w' th s' th') {f : FlowId} (hf : w'.shared.Keeps f) :
    w.shared.Keeps f ∨ (th.opening? = some f ∧ th'.opening? = none) := by
  obtain ⟨ends, hstep⟩ := hr.step
  rw [hr.result] at hf
  exact (Thread.holders_of_step hstep f).2.2 hf

/-- A flow that is still being opened after the step is not known to anyone else. -/
theorem alone_run (h : Known w) (hr : RunStep w t w' th s' th') {u : Nat} {k : Thread}
    {f : FlowId} (hk : w'.threads[u]? = some k) (hf : k.opening? = some f) :
    ¬ w'.shared.Keeps f ∧ ∀ (v : Nat) (k' : Thread), w'.threads[v]? = some k' →
      k'.seen? ≠ some f ∧ (k'.opening? = some f → v = u) := by
  -- The flow was being opened by the same thread before, so nobody else knew of it.
  obtain ⟨k₀, hk₀, hf₀⟩ := opening_before hr hk hf
  obtain ⟨hnk, hno⟩ := h.alone u k₀ f hk₀ hf₀
  refine ⟨?_, ?_⟩
  · intro hkeeps
    rcases keeps_before hr hkeeps with hkeeps | ⟨hopen, hdone⟩
    · exact hnk hkeeps
    · obtain rfl := (hno t th hr.hasThread).2 hopen
      rw [hr.threads, if_pos rfl] at hk
      cases hk
      rw [hdone] at hf
      cases hf
  · intro v k' hk'
    refine ⟨?_, ?_⟩
    · intro hs
      rcases seen_before hr hk' hs with ⟨k₁, hk₁, hs₁⟩ | hkeeps
      · exact (hno v k₁ hk₁).1 hs₁
      · exact hnk hkeeps
    · intro ho
      obtain ⟨k₁, hk₁, ho₁⟩ := opening_before hr hk' ho
      exact (hno v k₁ hk₁).2 ho₁

theorem run (h : Known w) (hr : RunStep w t w' th s' th') : Known w' := by
  have hnext : w'.nextFlow = w.nextFlow := by
    rw [hr.result]
  refine ⟨?_, ?_, ?_, fun u k f => h.alone_run hr⟩
  · intro u k f hk hf
    rw [hnext]
    obtain ⟨k₀, hk₀, hf₀⟩ := opening_before hr hk hf
    exact h.opening u k₀ f hk₀ hf₀
  · intro u k f hk hf
    rw [hnext]
    rcases seen_before hr hk hf with ⟨k₀, hk₀, hf₀⟩ | hkeeps
    · exact h.seen u k₀ f hk₀ hf₀
    · exact h.kept f hkeeps
  · intro f hf
    rw [hnext]
    rcases keeps_before hr hf with hf | ⟨hf, -⟩
    · exact h.kept f hf
    · exact h.opening t th f hr.hasThread hf

end Run

/-- A new thread that neither opens a flow nor has seen one. -/
theorem spawn (h : Known w) {th : Thread} (ho : th.opening? = none) (hs : th.seen? = none) :
    Known (w.spawn th) := by
  have hold : ∀ (u : Nat) (k : Thread), (w.spawn th).threads[u]? = some k →
      w.threads[u]? = some k ∨ k = th := by
    intro u k hk
    rcases threads_spawn.mp hk with hk | ⟨-, hk⟩
    · exact .inl hk
    · exact .inr hk
  refine ⟨?_, ?_, h.kept, ?_⟩
  · intro u k f hk hf
    rcases hold u k hk with hk | rfl
    · exact h.opening u k f hk hf
    · rw [ho] at hf; cases hf
  · intro u k f hk hf
    rcases hold u k hk with hk | rfl
    · exact h.seen u k f hk hf
    · rw [hs] at hf; cases hf
  · intro u k f hk hf
    rcases hold u k hk with hk | rfl
    · obtain ⟨hnk, hno⟩ := h.alone u k f hk hf
      refine ⟨hnk, ?_⟩
      intro v k' hk'
      rcases hold v k' hk' with hk' | rfl
      · exact hno v k' hk'
      · rw [hs, ho]; exact ⟨nofun, nofun⟩
    · rw [ho] at hf; cases hf

/-- A new thread that opens a new flow. -/
theorem start (h : Known w) (e : EngineId) (r : ResourceId) (flowType : String) :
    Known { w.spawn (.claim e r (.opened w.nextFlow) flowType) with
      nextFlow := w.nextFlow + 1 } := by
  have hgrow : ∀ f, (∃ n, f = FlowId.opened n ∧ n < w.nextFlow) →
      ∃ n, f = FlowId.opened n ∧ n < w.nextFlow + 1 := by
    rintro f ⟨n, hf, hn⟩
    exact ⟨n, hf, by omega⟩
  have hnew : ¬ ∃ n, FlowId.opened w.nextFlow = .opened n ∧ n < w.nextFlow := by
    rintro ⟨n, hf, hn⟩
    cases hf
    omega
  refine ⟨?_, ?_, fun f hf => hgrow f (h.kept f hf), ?_⟩
  · intro u k f hk hf
    rcases threads_spawn.mp hk with hk | ⟨-, rfl⟩
    · exact hgrow f (h.opening u k f hk hf)
    · cases hf
      exact ⟨_, rfl, Nat.lt_succ_self _⟩
  · intro u k f hk hf
    rcases threads_spawn.mp hk with hk | ⟨-, rfl⟩
    · exact hgrow f (h.seen u k f hk hf)
    · cases hf
  · intro u k f hk hf
    rcases threads_spawn.mp hk with hk | ⟨hu, rfl⟩
    · obtain ⟨hnk, hno⟩ := h.alone u k f hk hf
      refine ⟨hnk, ?_⟩
      intro v k' hk'
      rcases threads_spawn.mp hk' with hk' | ⟨-, rfl⟩
      · exact hno v k' hk'
      · refine ⟨nofun, ?_⟩
        intro hf'
        cases hf'
        exact absurd (h.opening u k _ hk hf) hnew
    · -- Nobody can have got hold of a flow that has not been opened.
      cases hf
      refine ⟨fun hk' => hnew (h.kept _ hk'), ?_⟩
      intro v k' hk'
      rcases threads_spawn.mp hk' with hk' | ⟨hv, rfl⟩
      · exact ⟨fun hs => hnew (h.seen v k' _ hk' hs),
          fun ho => absurd (h.opening v k' _ hk' ho) hnew⟩
      · exact ⟨nofun, fun _ => hv.trans hu.symm⟩

theorem forget (h : Known w) (k : EngineId × FlowId) :
    Known { w with shared := { w.shared with instances := w.shared.instances.erase k } } := by
  have hk : ∀ f, Shared.Keeps { w.shared with instances := w.shared.instances.erase k } f →
      w.shared.Keeps f := by
    rintro f ⟨e, he⟩
    rw [Table.get?_erase] at he
    split at he
    · cases he
    · exact ⟨e, he⟩
  refine ⟨h.opening, h.seen, fun f hf => h.kept f (hk f hf), ?_⟩
  intro t th f ht hf
  obtain ⟨hnk, hno⟩ := h.alone t th f ht hf
  exact ⟨fun hf => hnk (hk f hf), hno⟩

end Known

/-! ### Lanes, records and the log -/

/-- What is recorded of a resource after an act about it. -/
def recordAfter (before : Option RunStatus) : Act → Option RunStatus
  | .running .. => some .running
  | .cancelled .. => some .cancelled
  | .cleared .. => none
  | .claimed .. | .released .. => before

/-- The acts about a resource, in order. -/
def acts (w : Threads) (r : ResourceId) : List Act := w.shared.log.filter (·.resource = r)

/-- Since the record was last dropped on behalf of the flow, nothing but cancels was recorded. -/
def ClearedBy (acts : List Act) (r : ResourceId) (f : FlowId) : Prop :=
  ∃ before marks, acts = before ++ .cleared r f :: marks ∧ ∀ a ∈ marks, a = .cancelled r f

/-- Lanes, records, threads and log fit together. -/
structure Traced (w : Threads) : Prop where
  known : Known w
  /-- What is recorded is what the log says. -/
  records : ∀ r, w.shared.registry.status? r = (w.acts r).foldl recordAfter none
  /-- Whoever marks a resource as running has its lane. -/
  held : ∀ (t : Nat) (e : EngineId) (r : ResourceId) (f : FlowId),
    w.threads[t]? = some (.markRunning e r f) → w.shared.Holds r f
  /-- Whoever is about to free a lane has dropped the record. -/
  cleared : ∀ (t : Nat) (r : ResourceId) (f : FlowId) (lock : LockId),
    w.threads[t]? = some (.release r f lock) → w.shared.Holds r f → ClearedBy (w.acts r) r f
  /-- A lane that is free has never been claimed, or was freed right after its record was dropped,
      but for cancels. -/
  freed : ∀ r, w.shared.registry.lanes.lane? r = none → w.acts r = [] ∨
    ∃ f before, w.acts r = before ++ [.released r f] ∧ ClearedBy before r f

theorem holds_unique {s : Shared} {r : ResourceId} {f g : FlowId} (hf : s.Holds r f)
    (hg : s.Holds r g) : f = g := by
  obtain ⟨lane, hl, rfl⟩ := hf
  obtain ⟨lane', hl', rfl⟩ := hg
  rw [Option.some.inj (hl.symm.trans hl')]

/-- Holding a lane depends on that lane only. -/
theorem holds_congr {s s' : Shared} {r : ResourceId} {f : FlowId}
    (h : s'.registry.lanes.lane? r = s.registry.lanes.lane? r) :
    s'.Holds r f ↔ s.Holds r f := by
  unfold Shared.Holds
  rw [h]

theorem not_holds_of_free {s : Shared} {r : ResourceId} {f : FlowId}
    (h : s.registry.lanes.lane? r = none) : ¬ s.Holds r f := by
  rintro ⟨lane, hl, -⟩
  rw [h] at hl
  cases hl

namespace Traced

variable {w w' : Threads} {t : Nat} {th th' : Thread} {s' : Shared}

/-- The acts about a resource after one more act. -/
theorem acts_put {g : Registry} {a : Act} {r : ResourceId} (h : w'.shared = w.shared.put g a)
    (ha : a.resource = r) (r' : ResourceId) :
    w'.acts r' = if r' = r then w.acts r' ++ [a] else w.acts r' := by
  unfold acts
  rw [h]
  show (w.shared.log ++ [a]).filter _ = _
  rw [List.filter_append]
  by_cases hr : r' = r
  · subst hr; simp [ha]
  · have hne : a.resource ≠ r' := fun h => hr (h.symm.trans ha)
    simp [hr, hne]

/-- The records stay what the log says if an act does to them what it says. -/
theorem records_put {g : Registry} {a : Act} {r : ResourceId} (h : Traced w)
    (hp : w'.shared = w.shared.put g a) (ha : a.resource = r)
    (hg : ∀ r', g.status? r' = if r' = r then
      recordAfter (w.shared.registry.status? r') a else w.shared.registry.status? r')
    (r' : ResourceId) : w'.shared.registry.status? r' = (w'.acts r').foldl recordAfter none := by
  rw [acts_put hp ha]
  have hs : w'.shared.registry.status? r' = g.status? r' := by
    rw [hp]
    rfl
  rw [hs, hg]
  split
  · rw [List.foldl_append, ← h.records]
    rfl
  · exact h.records r'

/-- A thread other than the one that moved is where it was. -/
theorem thread_ne (hr : RunStep w t w' th s' th') {u : Nat} {k : Thread}
    (hk : w'.threads[u]? = some k) (hne : k ≠ th') : w.threads[u]? = some k := by
  rw [hr.threads] at hk
  split at hk
  · cases hk
    exact absurd rfl hne
  · exact hk

theorem shared_eq (hr : RunStep w t w' th s' th') : w'.shared = s' := by
  rw [hr.result]

theorem run_goes (h : Traced w) (hr : RunStep w t w' th s' th') (hs : w.shared.Same s')
    (ho : th'.opening? = none) (hrel : ∀ r f lock, th' ≠ .release r f lock) : Traced w' := by
  have hshared := shared_eq hr
  have hlane : ∀ r, w'.shared.registry.lanes.lane? r = w.shared.registry.lanes.lane? r := by
    intro r
    rw [hshared]
    exact hs.lane r
  have hacts : ∀ r, w'.acts r = w.acts r := by
    intro r
    unfold acts
    rw [hshared, hs.log]
  refine ⟨h.known.run hr, ?_, ?_, ?_, ?_⟩
  · intro r
    rw [hacts, hshared, hs.status]
    exact h.records r
  · intro u e r f hu
    rw [holds_congr (hlane r)]
    refine h.held u e r f (thread_ne hr hu ?_)
    rintro rfl
    cases ho
  · intro u r f lock hu hh
    rw [hacts]
    rw [holds_congr (hlane r)] at hh
    exact h.cleared u r f lock (thread_ne hr hu (hrel r f lock).symm) hh
  · intro r hl
    rw [hacts]
    exact h.freed r (hlane r ▸ hl)

theorem run_claims {e : EngineId} {r : ResourceId} {f : FlowId} {flowType : String} {g : Registry}
    (h : Traced w) (hfree : w.shared.registry.lanes.lane? r = none)
    (hg : w.shared.registry.claim r f flowType = .ok g)
    (hr : RunStep w t w' (.claim e r f flowType) (w.shared.put g (.claimed r f))
      (.markRunning e r f)) : Traced w' := by
  have hshared := shared_eq hr
  obtain ⟨lanes, hc, rfl⟩ := Registry.claim_eq_ok_iff.mp hg
  have hlane : ∀ r', w'.shared.registry.lanes.lane? r' = if r' = r then
      some ⟨f, flowType, w.shared.registry.lanes.nextLock⟩
      else w.shared.registry.lanes.lane? r' := by
    intro r'
    rw [hshared]
    exact Lanes.lane?_claim hc r'
  refine ⟨h.known.run hr, ?_, ?_, ?_, ?_⟩
  · refine h.records_put (r := r) hshared rfl ?_
    intro r'
    exact (ite_self _).symm
  · intro u e' r' f' hu
    by_cases hrr : r' = r
    · subst hrr
      rw [hr.threads] at hu
      split at hu
      · cases hu
        exact ⟨_, (hlane r').trans (if_pos rfl), rfl⟩
      · exact absurd (h.held u e' r' f' hu) (not_holds_of_free hfree)
    · rw [hr.threads] at hu
      split at hu
      · cases hu
        exact absurd rfl hrr
      · rw [holds_congr ((hlane r').trans (if_neg hrr))]
        exact h.held u e' r' f' hu
  · intro u r' f' lock hu hh
    have hu := thread_ne hr hu nofun
    by_cases hrr : r' = r
    · -- The flow was only just being opened, so nobody is about to free its lane.
      subst hrr
      obtain ⟨lane, hl, rfl⟩ := hh
      rw [hlane, if_pos rfl] at hl
      cases hl
      exact absurd rfl ((h.known.alone t _ f hr.hasThread rfl).2 u _ hu).1
    · rw [holds_congr ((hlane r').trans (if_neg hrr))] at hh
      rw [acts_put (r := r) hshared rfl, if_neg hrr]
      exact h.cleared u r' f' lock hu hh
  · intro r' hl
    have hrr : r' ≠ r := by
      rintro rfl
      rw [hlane, if_pos rfl] at hl
      cases hl
    rw [acts_put (r := r) hshared rfl, if_neg hrr]
    rw [hlane, if_neg hrr] at hl
    exact h.freed r' hl

/-- A section that changes the record of a resource whose lane a flow holds. -/
theorem run_records {r : ResourceId} {f : FlowId} {g : Registry} {a : Act} (h : Traced w)
    (ha : a.resource = r) (hh : w.shared.Holds r f)
    (hr : RunStep w t w' th (w.shared.put g a) th')
    (hlanes : g.lanes = w.shared.registry.lanes)
    (hg : ∀ r', g.status? r' = if r' = r then
      recordAfter (w.shared.registry.status? r') a else w.shared.registry.status? r')
    (hmark : ∀ e r f, th' ≠ .markRunning e r f)
    (hrel : ∀ r' f' lock, th' = .release r' f' lock → r' = r)
    (hclear : ∀ (u : Nat) (f' : FlowId) (lock : LockId),
      w'.threads[u]? = some (Thread.release r f' lock) → w.shared.Holds r f' →
      ClearedBy (w.acts r ++ [a]) r f') : Traced w' := by
  have hshared := shared_eq hr
  have hlane : ∀ r', w'.shared.registry.lanes.lane? r' =
      w.shared.registry.lanes.lane? r' := by
    intro r'
    rw [hshared]
    show g.lanes.lane? r' = _
    rw [hlanes]
  -- Lanes stay, so all that matters is what the act means for the record.
  refine ⟨h.known.run hr, h.records_put hshared ha hg, ?_, ?_, ?_⟩
  · intro u e r' f' hu
    rw [holds_congr (hlane r')]
    exact h.held u e r' f' (thread_ne hr hu (hmark e r' f').symm)
  · intro u r' f' lock hu hh'
    rw [holds_congr (hlane r')] at hh'
    rw [acts_put hshared ha]
    split
    · rename_i hrr
      subst hrr
      exact hclear u f' lock hu hh'
    · rename_i hrr
      exact h.cleared u r' f' lock (thread_ne hr hu fun hth => hrr (hrel r' f' lock hth.symm)) hh'
  · intro r' hl
    rw [hlane] at hl
    have hrr : r' ≠ r := by
      rintro rfl
      exact not_holds_of_free hl hh
    rw [acts_put hshared ha, if_neg hrr]
    exact h.freed r' hl

theorem run_runs {e : EngineId} {r : ResourceId} {f : FlowId} (h : Traced w)
    (hr : RunStep w t w' (.markRunning e r f)
      (w.shared.put (w.shared.registry.markRunning r) (.running r f)) (.insert e r f)) :
    Traced w' := by
  have hh := h.held t e r f hr.hasThread
  refine h.run_records (a := .running r f) rfl hh hr rfl (Registry.status?_markRunning _ r)
    (fun _ _ _ => nofun) (fun _ _ _ => nofun) ?_
  intro u f' lock hu hh'
  -- The flow is still being opened, so nobody is about to free its lane.
  obtain rfl := holds_unique hh hh'
  exact absurd rfl ((h.known.alone t _ f hr.hasThread rfl).2 u _ (thread_ne hr hu nofun)).1

theorem run_clears {r : ResourceId} {f : FlowId} {lock : LockId} (h : Traced w)
    (hh : w.shared.Holds r f)
    (hr : RunStep w t w' (.clear r f lock)
      (w.shared.put (w.shared.registry.clear r) (.cleared r f)) (.release r f lock)) :
    Traced w' := by
  refine h.run_records (a := .cleared r f) rfl hh hr rfl (Registry.status?_clear _ r)
    (fun _ _ _ => nofun) ?_ ?_
  · intro r' f' lock' hth
    cases hth
    rfl
  · intro u f' lock' hu hh'
    obtain rfl := holds_unique hh hh'
    exact ⟨w.acts r, [], rfl, nofun⟩

theorem run_marks {e : EngineId} {r : ResourceId} {f : FlowId} {lock : LockId} (h : Traced w)
    (hh : w.shared.Holds r f)
    (hr : RunStep w t w' (.markCancelled e r f lock)
      (w.shared.put (w.shared.registry.markCancelled r) (.cancelled r f))
      (.askCancel e f lock)) : Traced w' := by
  refine h.run_records (a := .cancelled r f) rfl hh hr rfl (Registry.status?_markCancelled _ r)
    (fun _ _ _ => nofun) (fun _ _ _ => nofun) ?_
  intro u f' lock' hu hh'
  obtain rfl := holds_unique hh hh'
  -- One more cancel after the record was dropped.
  obtain ⟨before, marks, hacts, hmarks⟩ := h.cleared u r f lock' (thread_ne hr hu nofun) hh
  refine ⟨before, marks ++ [.cancelled r f], ?_, ?_⟩
  · show w.acts r ++ [.cancelled r f] = before ++ .cleared r f :: (marks ++ [.cancelled r f])
    rw [hacts, List.append_assoc, List.cons_append]
  intro a ha
  rcases List.mem_append.mp ha with ha | ha
  · exact hmarks a ha
  · exact List.mem_singleton.mp ha

theorem run_frees {r : ResourceId} {f : FlowId} {lock : LockId} (h : Traced w)
    (hh : w.shared.Holds r f)
    (hr : RunStep w t w' (.release r f lock)
      (w.shared.put (w.shared.registry.releaseLane r f) (.released r f)) (.unlock lock)) :
    Traced w' := by
  have hshared := shared_eq hr
  have hlane : ∀ r', w'.shared.registry.lanes.lane? r' =
      if r' = r then none else w.shared.registry.lanes.lane? r' := by
    intro r'
    rw [hshared]
    refine (Lanes.lane?_release w.shared.registry.lanes r r' f).trans ?_
    rw [Lanes.holds_iff.mpr hh]
    simp
  refine ⟨h.known.run hr, ?_, ?_, ?_, ?_⟩
  · refine h.records_put (r := r) hshared rfl ?_
    intro r'
    exact (ite_self _).symm
  · intro u e r' f' hu
    have hu := thread_ne hr hu nofun
    have hh' := h.held u e r' f' hu
    have hrr : r' ≠ r := by
      -- Otherwise the flow whose lane is freed would still be being opened.
      rintro rfl
      obtain rfl := holds_unique hh hh'
      exact ((h.known.alone u _ f hu rfl).2 t _ hr.hasThread).1 rfl
    rw [holds_congr ((hlane r').trans (if_neg hrr))]
    exact hh'
  · intro u r' f' lock' hu hh'
    -- Nobody holds the lane that is free now.
    have hrr : r' ≠ r := by
      rintro rfl
      exact not_holds_of_free ((hlane r').trans (if_pos rfl)) hh'
    rw [holds_congr ((hlane r').trans (if_neg hrr))] at hh'
    rw [acts_put (r := r) hshared rfl, if_neg hrr]
    exact h.cleared u r' f' lock' (thread_ne hr hu nofun) hh'
  · intro r' hl
    rw [acts_put (r := r) hshared rfl]
    split
    · -- The thread that frees the lane had dropped the record, and only cancels came since.
      rename_i hrr
      subst hrr
      exact .inr ⟨f, w.acts r', rfl, h.cleared t r' f lock hr.hasThread hh⟩
    · rename_i hrr
      rw [hlane, if_neg hrr] at hl
      exact h.freed r' hl

theorem run (h : Traced w) (hr : RunStep w t w' th s' th') : Traced w' := by
  obtain ⟨ends, hstep⟩ := hr.step
  cases Thread.move_of_step hstep with
  | goes hs ho hrel => exact h.run_goes hr hs ho hrel
  | claims hfree hg => exact h.run_claims hfree hg hr
  | runs => exact h.run_runs hr
  | clears hh => exact h.run_clears hh hr
  | frees hh => exact h.run_frees hh hr
  | marks hh => exact h.run_marks hh hr

/-- A thread that only just began has claimed and freed nothing. -/
theorem of_threads (h : Traced w) (hk : Known w') (hs : w'.shared.registry = w.shared.registry)
    (hlog : w'.shared.log = w.shared.log)
    (hmark : ∀ (u : Nat) (e : EngineId) (r : ResourceId) (f : FlowId),
      w'.threads[u]? = some (Thread.markRunning e r f) →
      w.threads[u]? = some (Thread.markRunning e r f))
    (hrel : ∀ (u : Nat) (r : ResourceId) (f : FlowId) (lock : LockId),
      w'.threads[u]? = some (Thread.release r f lock) →
      w.threads[u]? = some (Thread.release r f lock)) : Traced w' := by
  have hacts : ∀ r, w'.acts r = w.acts r := by
    intro r
    unfold acts
    rw [hlog]
  have hholds : ∀ r f, w'.shared.Holds r f ↔ w.shared.Holds r f :=
    fun r f => holds_congr (by rw [hs])
  refine ⟨hk, ?_, ?_, ?_, ?_⟩
  · intro r
    rw [hacts, hs]
    exact h.records r
  · intro u e r f hu
    rw [hholds]
    exact h.held u e r f (hmark u e r f hu)
  · intro u r f lock hu hh
    rw [hacts]
    exact h.cleared u r f lock (hrel u r f lock hu) ((hholds r f).mp hh)
  · intro r hl
    rw [hacts]
    rw [hs] at hl
    exact h.freed r hl

theorem step {l : Label} (h : Traced w) (hs : w.step l = some w') : Traced w' := by
  have hspawn : ∀ {th k : Thread} {u : Nat}, (w.spawn th).threads[u]? = some k → k ≠ th →
      w.threads[u]? = some k := by
    intro th k u hk hne
    rcases threads_spawn.mp hk with hk | ⟨-, hk⟩
    · exact hk
    · exact absurd hk hne
  cases l with
  | start e r flowType =>
    cases hs
    exact h.of_threads (h.known.start e r flowType) rfl rfl
      (fun u e r f hu => hspawn hu nofun) (fun u r f lock hu => hspawn hu nofun)
  | dispatch e f =>
    cases hs
    exact h.of_threads (h.known.spawn rfl rfl) rfl rfl
      (fun u e r f hu => hspawn hu nofun) (fun u r f lock hu => hspawn hu nofun)
  | cancel e r =>
    cases hs
    exact h.of_threads (h.known.spawn rfl rfl) rfl rfl
      (fun u e r f hu => hspawn hu nofun) (fun u r f lock hu => hspawn hu nofun)
  | run t ends =>
    obtain ⟨th, s', th', hr⟩ := runStep_of_step hs
    exact h.run hr
  | forget e f =>
    simp only [Threads.step] at hs
    split at hs
    · cases hs
      exact h.of_threads (h.known.forget _) rfl rfl (fun u e r f hu => hu)
        (fun u r f lock hu => hu)
    · cases hs

theorem reachable (h : Reachable w) : Traced w := by
  induction h with
  | init => exact ⟨.init, fun _ => rfl, nofun, nofun, fun _ _ => .inl rfl⟩
  | step l _ hs ih => exact ih.step hs

end Traced

/-! ### What a free lane leaves -/

/-- A record that was dropped and then only marked as cancelled. -/
theorem foldl_marks {r : ResourceId} {f : FlowId} {marks : List Act}
    (h : ∀ a ∈ marks, a = .cancelled r f) (s : Option RunStatus) :
    marks.foldl recordAfter s = if marks = [] then s else some .cancelled := by
  induction marks generalizing s with
  | nil => rfl
  | cons a rest ih =>
    obtain rfl := h a List.mem_cons_self
    rw [List.foldl_cons, ih (fun b hb => h b (List.mem_cons_of_mem _ hb))]
    simp [recordAfter]

/-- What the registry holds of a resource whose lane is free, in whatever order the critical
    sections of opening, ending and cancelling flows were taken: nothing if the lane was never
    claimed; else, when the lane was last freed, its record had been dropped before, and the
    registry holds a cancel exactly if one was recorded in between, and never a flow that runs. -/
theorem entry_of_free_lane {w : Threads} (h : Reachable w) {r : ResourceId}
    (hr : w.shared.registry.lanes.lane? r = none) :
    (w.acts r = [] ∧ w.shared.registry.status? r = none) ∨
    ∃ f before marks, w.acts r = before ++ .cleared r f :: marks ++ [.released r f] ∧
      (∀ a ∈ marks, a = .cancelled r f) ∧
      w.shared.registry.status? r = if marks = [] then none else some .cancelled := by
  have ht := Traced.reachable h
  rcases ht.freed r hr with hnil | ⟨f, acts, hacts, before, marks, rfl, hmarks⟩
  · left
    refine ⟨hnil, ?_⟩
    rw [ht.records, hnil]
    rfl
  · right
    refine ⟨f, before, marks, hacts, hmarks, ?_⟩
    rw [ht.records, hacts, List.foldl_append, List.foldl_append, List.foldl_cons]
    exact foldl_marks hmarks none

theorem reachable_follow {w w' : Threads} (h : Reachable w) {ls : List Label}
    (hf : w.follow ls = some w') : Reachable w' := by
  induction ls generalizing w with
  | nil => cases hf; exact h
  | cons l rest ih =>
    obtain ⟨w₁, hs, hf⟩ := Option.bind_eq_some_iff.mp hf
    exact ih (h.step l hs) hf

/-- Thread 0 opens a flow, works, ends the flow and drops its record; thread 1, which had looked the
    flow up to cancel it, records the cancel; then thread 0 frees the lane. -/
def cancelInGap : List Label :=
  [.start 0 7 "deletion", .run 0 false, .run 0 false, .run 0 false, .run 0 false, .run 0 false,
    .run 0 false, .run 0 false, .run 0 true, .cancel 0 7, .run 1 false, .run 1 false,
    .run 0 false, .run 0 false, .run 1 false, .run 0 false]

/-- What the threads come to. -/
def afterCancelInGap : Threads := (({} : Threads).follow cancelInGap).get rfl

theorem reachable_afterCancelInGap : Reachable afterCancelInGap :=
  reachable_follow .init (Option.some_get _).symm

/-- There, the cancel was recorded between the two sections that end a flow. -/
theorem entry_of_free_lane_gap :
    afterCancelInGap.shared.registry.lanes.lane? 7 = none ∧ ∃ f before marks, marks ≠ [] ∧
      afterCancelInGap.acts 7 = before ++ .cleared 7 f :: marks ++ [.released 7 f] ∧
      ∀ a ∈ marks, a = .cancelled 7 f := by
  have hfree : afterCancelInGap.shared.registry.lanes.lane? 7 = none := rfl
  have hentry : afterCancelInGap.shared.registry.status? 7 = some .cancelled := rfl
  refine ⟨hfree, ?_⟩
  rcases entry_of_free_lane reachable_afterCancelInGap hfree with
    ⟨-, hnone⟩ | ⟨f, before, marks, hacts, hmarks, hstatus⟩
  · rw [hentry] at hnone
    cases hnone
  · refine ⟨f, before, marks, ?_, hacts, hmarks⟩
    intro hnil
    rw [hentry, if_pos hnil] at hstatus
    cases hstatus

/-- The registry may keep a cancel of a resource whose lane is free. -/
theorem entry_left_behind : ∃ w, Reachable w ∧ w.shared.registry.lanes.lane? 7 = none ∧
    w.shared.registry.status? 7 = some .cancelled :=
  ⟨afterCancelInGap, reachable_afterCancelInGap, rfl, rfl⟩

end Threads

/-! ### Sections that nothing comes between

  Where no other thread comes in, the sections do what an engine on one thread
  does in one step. -/

namespace Thread

variable {s s₁ s₂ : Shared} {t : Nat} {ends : Bool} {r : ResourceId} {f : FlowId}

theorem enroll_of_sections {e : EngineId} {flowType : String} {th : Thread}
    (h₁ : (Thread.claim e r f flowType).step s t ends = some (s₁, .markRunning e r f))
    (h₂ : (Thread.markRunning e r f).step s₁ t ends = some (s₂, th)) :
    s.registry.enroll r f flowType = .ok s₂.registry := by
  cases hg : s.registry.claim r f flowType with
  | error e => simp [step, hg] at h₁
  | ok g =>
    simp only [step, hg, Option.some.injEq, Prod.mk.injEq, and_true] at h₁
    subst h₁
    cases h₂
    simp [Registry.enroll, hg, Shared.put]

theorem discharge_of_sections {lock : LockId} {th th' : Thread}
    (h₁ : (Thread.clear r f lock).step s t ends = some (s₁, th))
    (h₂ : (Thread.release r f lock).step s₁ t ends = some (s₂, th')) :
    s₂.registry = s.registry.discharge r f := by
  unfold Registry.discharge
  by_cases hh : s.registry.lanes.holds r f = true
  · simp only [step, Registry.withHolder, hh, if_true, Option.some.injEq, Prod.mk.injEq] at h₁
    obtain ⟨rfl, -⟩ := h₁
    have hh' : (s.put (s.registry.clear r) (.cleared r f)).registry.lanes.holds r f = true := hh
    simp only [step, hh', if_true, Option.some.injEq, Prod.mk.injEq] at h₂
    obtain ⟨rfl, -⟩ := h₂
    simp [Registry.withHolder, hh, Shared.put]
  · simp only [step, Registry.withHolder, hh, Bool.false_eq_true, if_false, Option.some.injEq,
      Prod.mk.injEq] at h₁
    obtain ⟨rfl, -⟩ := h₁
    simp only [step, hh, Bool.false_eq_true, if_false, Option.some.injEq, Prod.mk.injEq] at h₂
    obtain ⟨rfl, -⟩ := h₂
    simp [Registry.withHolder, hh]

end Thread

end ResourceFlow
