import ResourceFlow.Proofs.Engine.Mirrors
import ResourceFlow.Proofs.World.Poised
import ResourceFlow.Proofs.World.Started
/-! # Worlds that agree on one resource

  Two worlds mirror each other on a resource if their registries and engines
  do, and the tasks of the second are those of the resource in the first, in
  the same order. Every step of the first world either has a counterpart in
  the second, if it is one of the resource, or is not seen there, and the
  worlds agree again. What a step can do to the resource is said at its desk
  (`Desk.Mirrors.work`, `Desk.Mirrors.aside`); this module carries it over to
  engines side by side and to the list of tasks.
-/

namespace ResourceFlow

variable {V : Vocabulary} {I : Interface} {S : Scope V} {N : Numbering}

/-! ### Lists of tasks -/

/-- The task with another number for its lock. -/
def Task.renumber (N : Numbering) (k : Task V I) : Task V I :=
  { k with work := k.work.renumber N }

/-- The second list has the tasks of the resource, in the order of the first. -/
structure Roster (S : Scope V) (N : Numbering) (ks ks' : List (Task V I)) : Prop where
  /-- The numbered tasks are there. -/
  given : ∀ t ∈ N.tasks, t < ks.length
  /-- The second list has no others. -/
  count : ks'.length = N.tasks.length
  /-- The numbered tasks are those of the resource, and do the same in both lists. -/
  own : ∀ (t : TaskId) (k : Task V I), t ∈ N.tasks → ks[t]? = some k →
    k.work.Local S N ∧ ks'[N.task t]? = some (k.renumber N)
  /-- All others are tasks of other resources. -/
  others : ∀ (t : TaskId) (k : Task V I), t ∉ N.tasks → ks[t]? = some k → k.work.Foreign S N

namespace Roster

variable {ks ks' : List (Task V I)} {k : Task V I} {t : TaskId}

/-- A new task has a new number. -/
theorem fresh (h : Roster S N ks ks') : ks.length ∉ N.tasks :=
  fun hm => Nat.lt_irrefl _ (h.given _ hm)

theorem add (h : Roster S N ks ks') (hk : k.work.Local S N) :
    Roster S (N.addTask ks.length) (ks ++ [k]) (ks' ++ [k.renumber N]) where
  given u hu := by
    have hu := List.mem_append.mp hu
    rw [List.length_append, List.length_singleton]
    rcases hu with hu | hu
    · exact Nat.lt_succ_of_lt (h.given u hu)
    · exact List.mem_singleton.mp hu ▸ Nat.lt_succ_self _
  count := by
    unfold Numbering.addTask
    rw [List.length_append, List.length_append, h.count]
    rfl
  own u k' hu hk' := by
    rcases getElem?_snoc_iff.mp hk' with hk' | ⟨rfl, rfl⟩
    · have hlt : u < ks.length := (List.getElem?_eq_some_iff.mp hk').1
      have hm : u ∈ N.tasks := by
        rcases List.mem_append.mp hu with hm | hm
        · exact hm
        · exact absurd (List.mem_singleton.mp hm) (Nat.ne_of_lt hlt)
      obtain ⟨hlocal, htask⟩ := h.own u k' hm hk'
      rw [Numbering.task_addTask hm]
      exact ⟨hlocal, getElem?_snoc_iff.mpr (.inl htask)⟩
    · rw [Numbering.task_addTask_self h.fresh]
      exact ⟨hk, getElem?_snoc_iff.mpr (.inr ⟨h.count.symm, rfl⟩)⟩
  others u k' hu hk' := by
    have hm : u ∉ N.tasks := fun hm => hu (List.mem_append_left _ hm)
    rcases getElem?_snoc_iff.mp hk' with hk' | ⟨rfl, -⟩
    · exact h.others u k' hm hk'
    · exact absurd (List.mem_append_right _ (List.mem_singleton.mpr rfl)) hu

theorem add_left (h : Roster S N ks ks') (hk : k.work.Foreign S N) :
    Roster S N (ks ++ [k]) ks' where
  given u hu := by
    rw [List.length_append, List.length_singleton]
    exact Nat.lt_succ_of_lt (h.given u hu)
  count := h.count
  own u k' hu hk' := by
    rcases getElem?_snoc_iff.mp hk' with hk' | ⟨rfl, -⟩
    · exact h.own u k' hu hk'
    · exact absurd hu h.fresh
  others u k' hu hk' := by
    rcases getElem?_snoc_iff.mp hk' with hk' | ⟨-, rfl⟩
    · exact h.others u k' hu hk'
    · exact hk

theorem set (h : Roster S N ks ks') (ht : t ∈ N.tasks) (hk : k.work.Local S N) :
    Roster S N (ks.set t k) (ks'.set (N.task t) (k.renumber N)) where
  given u hu := by
    rw [List.length_set]
    exact h.given u hu
  count := by
    rw [List.length_set]
    exact h.count
  own u k' hu hk' := by
    by_cases hut : u = t
    · subst hut
      rw [List.getElem?_set_self (h.given u ht)] at hk'
      cases hk'
      refine ⟨hk, List.getElem?_set_self ?_⟩
      rw [h.count]
      exact List.idxOf_lt_length_iff.mpr ht
    · rw [List.getElem?_set_ne (Ne.symm hut)] at hk'
      have hne : N.task t ≠ N.task u := fun he => hut ((Numbering.task_inj ht u).mp he.symm)
      rw [List.getElem?_set_ne hne]
      exact h.own u k' hu hk'
  others u k' hu hk' := by
    have hut : t ≠ u := fun he => hu (he ▸ ht)
    rw [List.getElem?_set_ne hut] at hk'
    exact h.others u k' hu hk'

theorem set_left (h : Roster S N ks ks') (ht : t ∉ N.tasks) (hk : k.work.Foreign S N) :
    Roster S N (ks.set t k) ks' where
  given u hu := by
    rw [List.length_set]
    exact h.given u hu
  count := h.count
  own u k' hu hk' := by
    have hut : t ≠ u := fun he => ht (he ▸ hu)
    rw [List.getElem?_set_ne hut] at hk'
    exact h.own u k' hu hk'
  others u k' hu hk' := by
    by_cases hut : t = u
    · subst hut
      have hlt : t < (ks.set t k).length := (List.getElem?_eq_some_iff.mp hk').1
      rw [List.length_set] at hlt
      rw [List.getElem?_set_self hlt] at hk'
      cases hk'
      exact hk
    · rw [List.getElem?_set_ne hut] at hk'
      exact h.others u k' hu hk'

/-- A lock that nobody has asked for is given out. -/
theorem addLock (h : Roster S N ks ks') {lock : LockId}
    (hn : ∀ (t : TaskId) (k : Task V I) (l : LockId) (f : FlowId), ks[t]? = some k →
      k.work.stake? = some (l, f) → l ≠ lock) : Roster S (N.addLock lock) ks ks' where
  __ := h
  own u k' hu hk' := by
    obtain ⟨hlocal, htask⟩ := h.own u k' hu hk'
    obtain ⟨hlocal', hsame⟩ := hlocal.addLock lock
    refine ⟨hlocal', htask.trans ?_⟩
    unfold Task.renumber
    rw [hsame]
  others u k' hu hk' := (h.others u k' hu hk').addLock fun l f hs => hn u k' l f hk' hs

end Roster

namespace World

variable {w w' v : World V I}

/-! ### The relation -/

/-- The worlds agree on the resource. -/
structure Mirrors (S : Scope V) (N : Numbering) (w v : World V I) : Prop where
  /-- It is the same time. -/
  now : v.now = w.now
  /-- What is a new serial number in the first is one in the second. -/
  nextFlow : v.nextFlow ≤ w.nextFlow
  /-- The registries agree. -/
  registry : w.registry.Mirrors S N v.registry
  /-- The engines agree, one by one. -/
  engines : ∀ e : EngineId, Option.Rel (Engine.Mirrors S) w.engines[e]? v.engines[e]?
  /-- The tasks of the second are those of the resource. -/
  tasks : Roster S N w.tasks v.tasks

/-- Every flow is on the resource of its instances. -/
def Placed (S : Scope V) (w : World V I) : Prop :=
  ∀ e f i, w.instance? e f = some i → ∀ r, S.on r f ↔ i.params.resourceId = r

/-- Where a flow ends, its engine has room for it. -/
def EndsInRoom (w w' : World V I) : Prop :=
  ∀ e f, w.running? e f ≠ none → w'.running? e f = none → ¬ w.Full e

/-- The desk of an engine shows every flow on its resource. -/
theorem Orderly.fits (h : Orderly w) (hp : Placed S w) {e : EngineId} {eng : Engine V I}
    (he : w.engines[e]? = some eng) : S.Fits ⟨w.registry, eng⟩ where
  retired f hf := (h.retired e eng f he hf).1
  keyed f i hi := (h.keyed e f i (instance?_eq_some_iff.mpr ⟨eng, he, hi⟩)).1
  home f i hi := hp e f i (instance?_eq_some_iff.mpr ⟨eng, he, hi⟩)
  lanes r lane hl := by
    obtain ⟨e', p, hrun, hr⟩ := h.occupant r lane hl
    obtain ⟨i, hi, -, rfl⟩ := running?_eq_some_iff.mp hrun
    exact (hp e' lane.flow i hi r).mpr hr

/-- A lock that was not given out is free. -/
theorem Orderly.lock_fresh (h : Orderly w) :
    w.registry.lanes.lock w.registry.lanes.nextLock = {} := by
  have hnone : (w.registry.lanes.lock w.registry.lanes.nextLock).parties = [] := by
    rw [List.eq_nil_iff_forall_not_mem]
    intro t ht
    obtain ⟨k, f, hk, hs⟩ := (h.queues.party _ t).mp ht
    exact Nat.lt_irrefl _ (h.stakes t k _ f hk hs).1
  generalize w.registry.lanes.lock w.registry.lanes.nextLock = lock at hnone
  obtain ⟨holder, queue⟩ := lock
  unfold Lock.parties at hnone
  obtain ⟨hh, rfl⟩ := List.append_eq_nil_iff.mp hnone
  cases holder with
  | none => rfl
  | some t => cases hh

namespace Mirrors

variable {e : EngineId} {t : TaskId} {reply : I.Reply} {a : Engine V I}

theorem engine (h : Mirrors S N w v) (he : w.engines[e]? = some a) :
    ∃ b, v.engines[e]? = some b ∧ a.Mirrors S b := by
  have hrel := h.engines e
  rw [he] at hrel
  generalize hv : v.engines[e]? = x at hrel
  cases hrel with
  | some hm => exact ⟨_, rfl, hm⟩

/-- Whoever holds the lock of a flow on the resource or waits for it is a task of the resource. -/
theorem parties (h : Mirrors S N w v) (ho : Orderly w) {l : LockId} (hl : l ∈ N.locks)
    (ht : t ∈ (w.registry.lanes.lock l).parties) : t ∈ N.tasks := by
  obtain ⟨k, f, hk, hs⟩ := (ho.queues.party l t).mp ht
  by_contra hn
  exact ((h.tasks.others t k hn hk).stake hs).1 hl

/-! ### Requests -/

/-- A request for the resource adds a task on both sides. -/
theorem addTask (h : Mirrors S N w v) (ho : Orderly w) (e : EngineId) (work : Work V I)
    (hw : work.Local S N) :
    Mirrors S (N.addTask w.tasks.length) (w.addTask e work) (v.addTask e (work.renumber N)) where
  __ := h
  registry := h.registry.addTask (fun _ hl _ ht => h.parties ho hl ht) _
  tasks := h.tasks.add (k := ⟨e, work⟩) hw

theorem addTask_left (h : Mirrors S N w v) (e : EngineId) (work : Work V I)
    (hw : work.Foreign S N) : Mirrors S N (w.addTask e work) v where
  __ := h
  tasks := h.tasks.add_left hw

section Opens

variable {serial : Nat} {q : StartRequest V} {b : Engine V I} {g g' : Registry}

/-- A flow that is opened on the resource is opened on both sides. -/
theorem opens (h : Mirrors S N w v) (ho : Orderly w) (ho' : Orderly v) {v' : World V I}
    (hw : OpenStep w e serial q w' a g) (hv : OpenStep v e serial q v' b g')
    (hq : q.resourceId = S.resource) (hf : S.Here (.opened serial)) :
    Mirrors S ((N.addLock w.registry.lanes.nextLock).addTask w.tasks.length) w' v' := by
  obtain ⟨b', hb, hab⟩ := h.engine hw.hasEngine
  obtain rfl : b' = b := Option.some.inj (hb.symm.trans hv.hasEngine)
  have hw' := hw.enrolled
  have hv' := hv.enrolled
  rw [hq] at hw' hv'
  rw [hab.definition] at hv'
  -- Nobody has asked for the new lock yet.
  have hreg := h.registry.enroll hw' hv' ho.given ho.lock_fresh ho'.lock_fresh
  have htasks := h.tasks.addLock fun t k l f hk hs => Nat.ne_of_lt (ho.stakes t k l f hk hs).1
  have hevent : S.events (q.event a.definition.start) := S.carries _ hq
  refine ⟨?_, ?_, ?_, ?_, ?_⟩
  · rw [hv.result, hw.result]
    exact h.now
  · exact Nat.le_of_eq (hv.nextFlow.trans hw.nextFlow.symm)
  · rw [hv.registry, hw.registry]
    refine hreg.addTask ?_ _
    intro l hl t ht
    rw [hw.enrolled.lock] at ht
    rcases List.mem_append.mp hl with hl | hl
    · exact h.parties ho hl ht
    · rw [List.mem_singleton.mp hl, ho.lock_fresh] at ht
      cases ht
  · intro e'
    rw [hw.engines, hv.engines]
    split
    · rw [hab.definition]
      exact .some (hab.add _)
    · exact h.engines e'
  · rw [hw.result, hv.result, hab.definition]
    exact htasks.add ⟨hf, hevent⟩

/-- What is opened on another resource is not seen. -/
theorem opens_left (h : Mirrors S N w v) (hw : OpenStep w e serial q w' a g)
    (hq : q.resourceId ≠ S.resource) (hf : ¬ S.Here (.opened serial))
    (helse : S.Elsewhere (.opened serial)) : Mirrors S N w' v := by
  obtain ⟨b, hb, hab⟩ := h.engine hw.hasEngine
  refine ⟨?_, ?_, ?_, ?_, ?_⟩
  · rw [hw.result]
    exact h.now
  · rw [hw.nextFlow]
    have hle := h.nextFlow
    have hfresh := hw.fresh
    omega
  · rw [hw.registry]
    exact h.registry.enroll_left hq hw.enrolled
  · intro e'
    rw [hw.engines]
    split
    · rename_i he
      rw [he, hb]
      exact .some (hab.add_left hf)
    · exact h.engines e'
  · rw [hw.result]
    exact h.tasks.add_left ⟨helse, trivial⟩

/-- Where a start can be asked for, a flow is opened, or it is refused as the registry says. -/
theorem start_cases {w : World V I} (he : w.engines[e]? = some a) (hs : w.nextFlow ≤ serial)
    (q : StartRequest V) :
    (∃ error,
      w.registry.enroll q.resourceId (.opened serial) a.definition.flowType = .error error ∧
      w.start e serial q = some (w.addTask e (.refused error))) ∨
    ∃ w' g, w.registry.enroll q.resourceId (.opened serial) a.definition.flowType = .ok g ∧
      w.start e serial q = some w' ∧ OpenStep w e serial q w' a g := by
  have hd : w.desk? e = some ⟨w.registry, a⟩ := by
    unfold World.desk?
    rw [he]
    rfl
  unfold World.start
  rw [hd, Option.bind_eq_bind, Option.bind_some, if_neg (Nat.not_lt.mpr hs)]
  unfold Desk.start
  dsimp only [StartRequest.params]
  cases hg : w.registry.enroll q.resourceId (.opened serial) a.definition.flowType with
  | error error => exact .inl ⟨error, rfl, rfl⟩
  | ok g => exact .inr ⟨_, g, rfl, rfl, he, hs, Registry.enrolled_of_enroll hg, rfl⟩

/-- A start on the resource opens a flow on both sides, or is refused on both for the same
    reason. -/
theorem start (h : Mirrors S N w v) (ho : Orderly w) (ho' : Orderly v)
    (hw : w.start e serial q = some w') (hp : Placed S w') (hq : q.resourceId = S.resource) :
    ∃ locks v', v.start e serial q = some v' ∧
      Mirrors S ⟨N.tasks ++ [w.tasks.length], locks⟩ w' v' := by
  obtain ⟨d, hd, hguard⟩ := Option.bind_eq_some_iff.mp hw
  obtain ⟨a, ha, rfl⟩ := desk?_eq_some hd
  have hs : w.nextFlow ≤ serial := by
    refine Nat.le_of_not_lt fun hlt => ?_
    rw [if_pos hlt] at hguard
    cases hguard
  obtain ⟨b, hb, hab⟩ := h.engine ha
  have hv := start_cases hb (Nat.le_trans h.nextFlow hs) q
  rw [hab.definition, hq] at hv
  rcases start_cases ha hs q with ⟨error, herr, hw₁⟩ | ⟨w₁, g, -, hw₁, hopen⟩
  · -- The lane is occupied by the same flow on both sides.
    obtain rfl := Option.some.inj (hw₁.symm.trans hw)
    rw [hq] at herr
    have herr' := h.registry.enroll_error herr
    rcases hv with ⟨error', herr'', hv⟩ | ⟨v', g', hok, -⟩
    · obtain rfl : error' = error := Except.error.inj (herr''.symm.trans herr')
      exact ⟨_, _, hv, h.addTask ho e (.refused error') trivial⟩
    · rw [hok] at herr'
      cases herr'
  · obtain rfl := Option.some.inj (hw₁.symm.trans hw)
    have hfree : v.registry.lanes.lane? S.resource = none := by
      rw [h.registry.lane, ← hq, hopen.enrolled.free]
      rfl
    rcases hv with ⟨error', herr', -⟩ | ⟨v', g', -, hv, hopen'⟩
    · obtain ⟨g', hg'⟩ := Registry.enroll_of_free hfree (.opened serial) a.definition.flowType
      rw [hg'] at herr'
      cases herr'
    · have hi := hopen.instance? e (.opened serial)
      rw [if_pos ⟨rfl, rfl⟩] at hi
      have hf : S.Here (.opened serial) := (hp _ _ _ hi _).mpr hq
      exact ⟨_, v', hv, h.opens ho ho' hopen hopen' hq hf⟩

/-- A start on another resource is not seen. -/
theorem start_left (h : Mirrors S N w v) (hw : w.start e serial q = some w') (hp : Placed S w')
    (hq : q.resourceId ≠ S.resource) : Mirrors S N w' v := by
  cases change_of_start hw with
  | refuses error => exact h.addTask_left e (.refused error) trivial
  | opens hopen =>
    have hi := hopen.instance? e (.opened serial)
    rw [if_pos ⟨rfl, rfl⟩] at hi
    have hon := hp _ _ _ hi
    exact h.opens_left hopen hq (fun hf => hq ((hon _).mp hf)) ⟨_, hq, (hon _).mpr rfl⟩

end Opens

/-- Time passes on both sides. -/
theorem elapse (h : Mirrors S N w v) (d : Duration) :
    Mirrors S N { w with now := w.now + d } { v with now := v.now + d } where
  __ := h
  now := congrArg (· + d) h.now

/-! ### Steps of tasks -/

/-- A step that a task can take is one that its world can take. -/
theorem runStep_of_work {w : World V I} {k : Task V I} {d' : Desk V I} {work' : Work V I}
    (hk : w.tasks[t]? = some k) (he : w.engines[k.engine]? = some a)
    (hw : (⟨w.registry, a⟩ : Desk V I).work t w.now reply k.work = some (d', work')) :
    ∃ w', w.run t reply = some w' ∧ RunStep w t reply w' k a d' work' := by
  refine ⟨_, ?_, hk, he, Desk.move_of_work hw, rfl⟩
  unfold World.run World.desk?
  rw [hk, Option.bind_eq_bind, Option.bind_some, he, Option.map_some, Option.bind_eq_bind,
    Option.bind_some, hw]
  rfl

/-- What a world does when a task takes a step, the task does at the desk of its engine. -/
theorem work_of_run {w w' : World V I} (h : w.run t reply = some w') :
    ∃ k a d' work', RunStep w t reply w' k a d' work' ∧
      (⟨w.registry, a⟩ : Desk V I).work t w.now reply k.work = some (d', work') := by
  unfold World.run at h
  obtain ⟨k, hk, h⟩ := Option.bind_eq_some_iff.mp h
  obtain ⟨d, hd, h⟩ := Option.bind_eq_some_iff.mp h
  obtain ⟨a, ha, rfl⟩ := desk?_eq_some hd
  obtain ⟨⟨d', work'⟩, hw, h⟩ := Option.bind_eq_some_iff.mp h
  exact ⟨k, a, d', work', ⟨hk, ha, Desk.move_of_work hw, (Option.some.inj h).symm⟩, hw⟩

section Run

variable {k : Task V I} {d' : Desk V I} {work' : Work V I}

/-- What a task has in hand runs at its engine. -/
theorem inHand (ho : Orderly w) (hr : RunStep w t reply w' k a d' work') {l : LockId}
    {p : FlowParameters} (hp : k.work.inHand? = some (l, p)) :
    a.running? p.flow = some p ∧ k.work.stake? = some (l, p.flow) := by
  obtain ⟨hrun, hst⟩ := ho.atWork t k l p hr.hasTask hp
  exact ⟨(hr.running?_self _).symm.trans hrun, hst⟩

/-- If flows end where there is room, they do so at the desk of the engine. -/
theorem endsInRoom (hr : RunStep w t reply w' k a d' work') (h : EndsInRoom w w') :
    a.EndsInRoom d'.engine := by
  intro f hrun hend
  refine Nat.lt_of_not_le fun hfull => h k.engine f ?_ ?_ ⟨a, hr.hasEngine, hfull⟩
  · rw [hr.running?_self]
    exact hrun
  · rw [hr.running?, if_pos rfl]
    exact hend

/-- A task of the resource takes its step on both sides. -/
theorem run (h : Mirrors S N w v) (ho : Orderly w) (hp : Placed S w) (ht : t ∈ N.tasks)
    (hw : w.run t reply = some w') (hroom : EndsInRoom w w') :
    ∃ v', v.run (N.task t) reply = some v' ∧ Mirrors S N w' v' := by
  obtain ⟨k, a, d', work', hr, hwork⟩ := work_of_run hw
  obtain ⟨hlocal, hk⟩ := h.tasks.own t k ht hr.hasTask
  obtain ⟨b, hb, hab⟩ := h.engine hr.hasEngine
  have hdesk : Desk.Mirrors S N ⟨w.registry, a⟩ ⟨v.registry, b⟩ := ⟨h.registry, hab⟩
  obtain ⟨d₁, hwork', hd, hstays⟩ := hdesk.work (ho.fits hp hr.hasEngine) ht hlocal
    (fun l p => inHand ho hr) hwork (endsInRoom hr hroom)
  rw [← h.now] at hwork'
  obtain ⟨v', hv, hr'⟩ := runStep_of_work hk hb hwork'
  refine ⟨v', hv, ?_, ?_, ?_, ?_, ?_⟩
  · rw [hr.result, hr'.result]
    exact h.now
  · rw [hr.nextFlow, hr'.nextFlow]
    exact h.nextFlow
  · rw [hr.registry, hr'.registry]
    exact hd.registry
  · intro e
    rw [hr.engines, hr'.engines]
    show Option.Rel _ (if e = k.engine then _ else _) (if e = k.engine then _ else _)
    split
    · exact .some hd.engine
    · exact h.engines e
  · rw [hr.result, hr'.result]
    exact h.tasks.set ht hstays

/-- A step of another task is not seen. -/
theorem run_left (h : Mirrors S N w v) (ho : Orderly w) (hp : Placed S w) (ht : t ∉ N.tasks)
    (hr : RunStep w t reply w' k a d' work') (hroom : EndsInRoom w w') : Mirrors S N w' v := by
  have hforeign := h.tasks.others t k ht hr.hasTask
  obtain ⟨b, hb, hab⟩ := h.engine hr.hasEngine
  have hdesk : Desk.Mirrors S N ⟨w.registry, a⟩ ⟨v.registry, b⟩ := ⟨h.registry, hab⟩
  obtain ⟨hd, hforeign'⟩ := hdesk.aside (ho.fits hp hr.hasEngine) hforeign
    (fun l p => inHand ho hr) hr.move (endsInRoom hr hroom)
  refine ⟨?_, ?_, ?_, ?_, ?_⟩
  · rw [hr.result]
    exact h.now
  · rw [hr.nextFlow]
    exact h.nextFlow
  · rw [hr.registry]
    exact hd.registry
  · intro e
    rw [hr.engines]
    split
    · rename_i he
      rw [he, hb]
      exact .some hd.engine
    · exact h.engines e
  · rw [hr.result]
    exact h.tasks.set_left ht hforeign'

end Run

end Mirrors

end World

end ResourceFlow
