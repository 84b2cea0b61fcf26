import ResourceFlow.Engine.Task
/-! # What engines and registries show after each operation

  Everything that is proved about engines looks at a few views: the instance
  of a flow, the parameters of a flow that runs, the lane of a resource, what
  the registry records of it, and the holder and queue of a lock. This module
  says what each operation does to these views. Later modules use these
  lemmas and open no operation.
-/

namespace ResourceFlow

/-- What is in a list with one more at its end. -/
theorem getElem?_snoc_iff {α : Type} {l : List α} {a b : α} {i : Nat} :
    (l ++ [a])[i]? = some b ↔ l[i]? = some b ∨ (i = l.length ∧ b = a) := by
  by_cases h : i < l.length
  · rw [List.getElem?_append_left h]
    have hne : i ≠ l.length := by omega
    simp [hne]
  · have h : l.length ≤ i := by omega
    rw [List.getElem?_append_right h, List.getElem?_eq_none_iff.mpr h]
    by_cases hi : i = l.length
    · subst hi; simp [eq_comm]
    · have hpos : i - l.length ≠ 0 := by omega
      simp [hi, hpos]

/-! ### Status -/

theorem FlowStatus.isTerminal_iff {s : FlowStatus} : s.isTerminal = true ↔ s ≠ .running := by
  cases s <;> simp [FlowStatus.isTerminal]

/-! ### Instances -/

namespace Instance

variable {V : Vocabulary}

@[simp] theorem params_finish (i : Instance V) (s : FlowStatus) (now : Duration) :
    (i.finish s now).params = i.params := by
  unfold finish; split <;> rfl

@[simp] theorem history_finish (i : Instance V) (s : FlowStatus) (now : Duration) :
    (i.finish s now).history = i.history := by
  unfold finish; split <;> rfl

/-- The first terminal status is the last. -/
theorem finish_of_ended {i : Instance V} (h : i.status ≠ .running) (s : FlowStatus)
    (now : Duration) : i.finish s now = i := by
  unfold finish
  rw [if_pos (FlowStatus.isTerminal_iff.mpr h)]

theorem status_finish_of_running {i : Instance V} (h : i.status = .running) (s : FlowStatus)
    (now : Duration) : (i.finish s now).status = s := by
  simp [finish, h, FlowStatus.isTerminal]

end Instance

namespace Table

variable {κ ν : Type} [DecidableEq κ]

/-- Look-up after several keys were erased. -/
theorem get?_foldl_erase (ks : List κ) (t : Table κ ν) (k : κ) :
    (ks.foldl erase t).get? k = if k ∈ ks then none else t.get? k := by
  induction ks generalizing t with
  | nil => simp
  | cons a rest ih =>
    rw [List.foldl_cons, ih, get?_erase]
    by_cases hr : k ∈ rest
    · simp [hr]
    · by_cases ha : k = a <;> simp [hr, ha]

end Table

/-! ### Engines -/

namespace Engine

variable {V : Vocabulary} {I : Interface}

@[simp] theorem instance?_record (e : Engine V I) (a : AuditRecord) (g : FlowId) :
    (e.record a).instance? g = e.instance? g := rfl

theorem instance?_add (e : Engine V I) (i : Instance V) (g : FlowId) :
    (e.add i).instance? g = if g = i.params.flow then some i else e.instance? g :=
  Table.get?_insert ..

theorem instance?_update (e : Engine V I) (f g : FlowId) (change : Instance V → Instance V) :
    (e.update f change).instance? g =
      if g = f then (e.instance? g).map change else e.instance? g :=
  Table.get?_modify ..

theorem instance?_finish (e : Engine V I) (f g : FlowId) (s : FlowStatus) (now : Duration) :
    (e.finish f s now).instance? g =
      if g = f then (e.instance? g).map (·.finish s now) else e.instance? g :=
  instance?_update ..

theorem instance?_enter_ne (e : Engine V I) {f g : FlowId} (s : V.State) (event : V.Event)
    (h : g ≠ f) : (e.enter f s event).instance? g = e.instance? g := by
  simp [enter, instance?_update, h]

/-- Finishing a flow keeps every instance, and changes the status of that flow at most. -/
theorem kept_finish {e : Engine V I} {f g : FlowId} {s : FlowStatus} {now : Duration}
    {i' : Instance V} (h : (e.finish f s now).instance? g = some i') :
    ∃ i, e.instance? g = some i ∧ i'.params = i.params ∧
      (i'.status = i.status ∨ (g = f ∧ i'.status = s)) := by
  rw [instance?_finish] at h
  split at h
  · rename_i hg
    obtain ⟨i, hi, rfl⟩ := Option.map_eq_some_iff.mp h
    refine ⟨i, hi, Instance.params_finish .., ?_⟩
    -- The first terminal status stays, so a flow that has ended keeps its own.
    by_cases hrun : i.status = .running
    · exact .inr ⟨hg, Instance.status_finish_of_running hrun ..⟩
    · rw [Instance.finish_of_ended hrun]
      exact .inl rfl
  · exact ⟨i', h, rfl, .inl rfl⟩

/-- Retiring a flow keeps every instance or forgets it; only what is retired is forgotten. -/
theorem instance?_retire (e : Engine V I) (f g : FlowId) :
    (e.retire f).instance? g = e.instance? g ∨
      ((e.retire f).instance? g = none ∧ (g = f ∨ g ∈ e.retired)) := by
  unfold retire instance?
  simp only [Table.get?_foldl_erase]
  split
  · -- What is forgotten comes from the front of the retired flows, `f` included.
    rename_i h
    have hm := List.mem_of_mem_take h
    rw [List.mem_append, List.mem_singleton] at hm
    exact .inr ⟨rfl, hm.symm⟩
  · exact .inl rfl

/-- Where there is room, nothing is forgotten. -/
theorem instance?_retire_of_lt {e : Engine V I} (h : e.retired.length < e.retention)
    (f g : FlowId) : (e.retire f).instance? g = e.instance? g := by
  -- Nothing exceeds the retention, so no key is erased.
  have hz : (e.retired ++ [f]).length - e.retention = 0 := by
    rw [List.length_append, List.length_singleton]
    omega
  unfold retire instance?
  dsimp only
  rw [hz]
  rfl

theorem mem_retired_retire {e : Engine V I} {f g : FlowId} (h : g ∈ (e.retire f).retired) :
    g = f ∨ g ∈ e.retired := by
  have hm : g ∈ e.retired ++ [f] := List.mem_of_mem_drop h
  rw [List.mem_append, List.mem_singleton] at hm
  exact hm.symm

@[simp] theorem retired_record (e : Engine V I) (a : AuditRecord) :
    (e.record a).retired = e.retired := rfl

@[simp] theorem retired_enter (e : Engine V I) (f : FlowId) (s : V.State) (event : V.Event) :
    (e.enter f s event).retired = e.retired := rfl

@[simp] theorem retired_finish (e : Engine V I) (f : FlowId) (s : FlowStatus) (now : Duration) :
    (e.finish f s now).retired = e.retired := rfl

/-! ### Flows that run -/

/-- The parameters of a flow, if it runs here. -/
def running? (e : Engine V I) (f : FlowId) : Option FlowParameters :=
  match e.instance? f with
  | some i => if i.status = .running then some i.params else none
  | none => none

theorem running?_eq_some_iff {e : Engine V I} {f : FlowId} {p : FlowParameters} :
    e.running? f = some p ↔
      ∃ i, e.instance? f = some i ∧ i.status = .running ∧ i.params = p := by
  unfold running?
  cases h : e.instance? f with
  | none => simp
  | some i => simp

theorem running?_of_instance? {e : Engine V I} {f : FlowId} {i : Instance V}
    (h : e.instance? f = some i) (hr : i.status = .running) : e.running? f = some i.params :=
  running?_eq_some_iff.mpr ⟨i, h, hr, rfl⟩

theorem isRunning_eq (e : Engine V I) (f : FlowId) : e.isRunning f = (e.running? f).isSome := by
  unfold isRunning running?
  cases h : e.instance? f with
  | none => rfl
  | some i =>
    by_cases hi : i.status = .running
    · simp [hi, FlowStatus.isTerminal]
    · simp [hi, FlowStatus.isTerminal_iff.mpr hi]

/-- Whether a flow runs, and with which parameters, depends on its instance only. -/
theorem running?_congr {e e' : Engine V I} {f : FlowId} (h : e'.instance? f = e.instance? f) :
    e'.running? f = e.running? f := by
  unfold running?; rw [h]

theorem running?_update (e : Engine V I) (f g : FlowId) {change : Instance V → Instance V}
    (hp : ∀ i, (change i).params = i.params) (hs : ∀ i, (change i).status = i.status) :
    (e.update f change).running? g = e.running? g := by
  unfold running?
  rw [instance?_update]
  by_cases hg : g = f
  · simp only [hg, if_true]
    cases e.instance? f with
    | none => rfl
    | some i => simp [hp, hs]
  · simp [hg]

@[simp] theorem running?_record (e : Engine V I) (a : AuditRecord) (g : FlowId) :
    (e.record a).running? g = e.running? g := rfl

@[simp] theorem running?_enter (e : Engine V I) (f g : FlowId) (s : V.State) (event : V.Event) :
    (e.enter f s event).running? g = e.running? g := by
  unfold enter
  apply running?_update
  · intro i; dsimp only; split <;> rfl
  · intro i; dsimp only; split <;> rfl

theorem running?_add (e : Engine V I) {i : Instance V} (h : i.status = .running) (g : FlowId) :
    (e.add i).running? g = if g = i.params.flow then some i.params else e.running? g := by
  unfold running?
  rw [instance?_add]
  by_cases hg : g = i.params.flow <;> simp [hg, h]

theorem running?_finish (e : Engine V I) (f g : FlowId) {s : FlowStatus} (hs : s ≠ .running)
    (now : Duration) :
    (e.finish f s now).running? g = if g = f then none else e.running? g := by
  unfold running?
  rw [instance?_finish]
  by_cases hg : g = f
  · simp only [hg, if_true]
    cases e.instance? f with
    | none => rfl
    | some i =>
      by_cases hi : i.status = .running
      · simp [Instance.status_finish_of_running hi, hs]
      · simp [Instance.finish_of_ended hi, hi]
  · simp [hg]

/-- Retiring forgets no flow that runs, as long as only ended flows are retired. -/
theorem running?_retire {e : Engine V I} {f : FlowId} (hf : e.running? f = none)
    (hr : ∀ g ∈ e.retired, e.running? g = none) (g : FlowId) :
    (e.retire f).running? g = e.running? g := by
  rcases instance?_retire e f g with h | ⟨h, hg⟩
  · exact running?_congr h
  · have hnone : (e.retire f).running? g = none := by simp [running?, h]
    rw [hnone]
    rcases hg with rfl | hg
    · exact hf.symm
    · exact (hr g hg).symm

end Engine

/-! ### Locks -/

namespace Lock

/-- The holder of a lock, then those who wait for it, in order. -/
def parties (l : Lock) : List Nat := l.holder.toList ++ l.queue

/-- Nobody waits for a lock that nobody holds. -/
def Sound (l : Lock) : Prop := l.holder = none → l.queue = []

theorem sound_default : ({} : Lock).Sound := fun _ => rfl

theorem sound_ask (l : Lock) (who : Nat) : (l.ask who).Sound := by
  intro hn
  unfold ask at hn ⊢
  cases hh : l.holder with
  | none => simp [hh] at hn
  | some w => simp [hh] at hn

theorem sound_pass (l : Lock) : l.pass.Sound := by
  intro hn
  unfold pass at hn ⊢
  cases hq : l.queue with
  | nil => rfl
  | cons who rest => simp [hq] at hn

theorem parties_ask {l : Lock} (h : l.Sound) (who : Nat) :
    (l.ask who).parties = l.parties ++ [who] := by
  unfold ask parties
  cases hh : l.holder with
  | none => simp [h hh]
  | some w => simp

theorem parties_pass {l : Lock} {who : Nat} (h : l.holder = some who) :
    l.parties = who :: l.pass.parties := by
  unfold pass parties
  cases hq : l.queue with
  | nil => simp [h]
  | cons next rest => simp [h]

theorem mem_parties_of_holder {l : Lock} {t : Nat} (h : l.holder = some t) : t ∈ l.parties := by
  simp [parties, h]

theorem holder_ask {l : Lock} {t : Nat} (h : l.holder = some t) (who : Nat) :
    (l.ask who).holder = some t := by
  simp [ask, h]

end Lock

/-! ### Lanes and records -/

namespace Lanes

theorem lock_ask (l : Lanes) (i j : LockId) (who : Nat) :
    (l.ask i who).lock j = if j = i then (l.lock j).ask who else l.lock j := by
  unfold ask lock
  by_cases h : j = i <;> simp [h]

theorem lock_pass (l : Lanes) (i j : LockId) :
    (l.pass i).lock j = if j = i then (l.lock j).pass else l.lock j := by
  unfold pass lock
  by_cases h : j = i <;> simp [h]

@[simp] theorem lock_release (l : Lanes) (r : ResourceId) (f : FlowId) (j : LockId) :
    (l.release r f).lock j = l.lock j := by
  unfold release; split <;> rfl

@[simp] theorem nextLock_release (l : Lanes) (r : ResourceId) (f : FlowId) :
    (l.release r f).nextLock = l.nextLock := by
  unfold release; split <;> rfl

theorem holds_iff {l : Lanes} {r : ResourceId} {f : FlowId} :
    l.holds r f = true ↔ ∃ lane, l.lane? r = some lane ∧ lane.flow = f := by
  unfold holds activeFlow?
  cases l.lane? r <;> simp

theorem isHeldBy_iff {l : Lanes} {i : LockId} {t : Nat} :
    l.isHeldBy i t = true ↔ (l.lock i).holder = some t := by
  simp [isHeldBy]

theorem activeFlow?_eq_some_iff {l : Lanes} {r : ResourceId} {f : FlowId} :
    l.activeFlow? r = some f ↔ ∃ lane, l.lane? r = some lane ∧ lane.flow = f := by
  unfold activeFlow?
  cases l.lane? r <;> simp

/-- A claim succeeds on a free lane only. -/
theorem lane?_eq_none_of_claim {l l' : Lanes} {r : ResourceId} {f : FlowId} {flowType : String}
    (h : l.claim r f flowType = .ok l') : l.lane? r = none := by
  unfold claim at h
  split at h
  · cases h
  · assumption

theorem lock_claim {l l' : Lanes} {r : ResourceId} {f : FlowId} {flowType : String}
    (h : l.claim r f flowType = .ok l') (j : LockId) :
    l'.lock j = l.lock j ∧ l'.nextLock = l.nextLock + 1 := by
  unfold claim at h
  split at h
  · cases h
  · cases h; exact ⟨rfl, rfl⟩

end Lanes

namespace Registry

/-- What is done for the holder of a lane is done while it holds the lane. -/
theorem withHolder_eq_some_iff {g g' : Registry} {r : ResourceId} {f : FlowId}
    {act : Registry → Registry} :
    g.withHolder r f act = some g' ↔ g.lanes.holds r f = true ∧ g' = act g := by
  unfold withHolder
  by_cases hh : g.lanes.holds r f = true
  · simp [hh, eq_comm]
  · simp [hh]

theorem claim_eq_ok_iff {g g' : Registry} {r : ResourceId} {f : FlowId} {flowType : String} :
    g.claim r f flowType = .ok g' ↔
      ∃ lanes, g.lanes.claim r f flowType = .ok lanes ∧ g' = { g with lanes := lanes } := by
  unfold claim
  cases hc : g.lanes.claim r f flowType with
  | error e => simp
  | ok lanes => simp [eq_comm]

/-- What it takes to open a flow, and what it leaves. -/
structure Enrolled (g g' : Registry) (r : ResourceId) (f : FlowId) (flowType : String) :
    Prop where
  /-- The lane was free. -/
  free : g.lanes.lane? r = none
  /-- The flow occupies it, with a lock of its own. -/
  lane : ∀ r', g'.lanes.lane? r' =
    if r' = r then some ⟨f, flowType, g.lanes.nextLock⟩ else g.lanes.lane? r'
  /-- The resource is recorded as running. -/
  status : ∀ r', g'.status? r' = if r' = r then some .running else g.status? r'
  /-- Nobody has asked for a lock. -/
  lock : ∀ j, g'.lanes.lock j = g.lanes.lock j
  /-- One more lock is given out. -/
  nextLock : g'.lanes.nextLock = g.lanes.nextLock + 1

theorem enrolled_of_enroll {g g' : Registry} {r : ResourceId} {f : FlowId} {flowType : String}
    (h : g.enroll r f flowType = .ok g') : Enrolled g g' r f flowType := by
  unfold enroll at h
  cases hc : g.claim r f flowType with
  | error e => simp [hc] at h
  | ok g₁ =>
    obtain ⟨lanes, hl, rfl⟩ := claim_eq_ok_iff.mp hc
    simp only [hc, Except.ok.injEq] at h
    subst h
    exact {
      free := Lanes.lane?_eq_none_of_claim hl
      lane := Lanes.lane?_claim hl
      status := status?_markRunning _ r
      lock := fun j => (Lanes.lock_claim hl j).1
      nextLock := (Lanes.lock_claim hl 0).2 }

@[simp] theorem lane?_markCancelled (g : Registry) (r r' : ResourceId) :
    (g.markCancelled r).lanes.lane? r' = g.lanes.lane? r' := rfl

@[simp] theorem lanes_askLock (g : Registry) (i : LockId) (who : Nat) :
    (g.askLock i who).lanes = g.lanes.ask i who := rfl

@[simp] theorem lanes_passLock (g : Registry) (i : LockId) :
    (g.passLock i).lanes = g.lanes.pass i := rfl

@[simp] theorem status?_askLock (g : Registry) (i : LockId) (who : Nat) (r : ResourceId) :
    (g.askLock i who).status? r = g.status? r := rfl

@[simp] theorem status?_passLock (g : Registry) (i : LockId) (r : ResourceId) :
    (g.passLock i).status? r = g.status? r := rfl

/-- Ending a flow frees the lane that it occupies and no other. -/
theorem lane?_discharge (g : Registry) (r r' : ResourceId) (f : FlowId) :
    (g.discharge r f).lanes.lane? r' =
      if r' = r ∧ g.lanes.holds r f = true then none else g.lanes.lane? r' := by
  unfold discharge withHolder
  by_cases h : g.lanes.holds r f = true
  · rw [if_pos h]
    exact Lanes.lane?_release ..
  · simp [h]

/-- Ending a flow drops what is recorded of the resource whose lane it occupies. -/
theorem status?_discharge (g : Registry) (r r' : ResourceId) (f : FlowId) :
    (g.discharge r f).status? r' =
      if r' = r ∧ g.lanes.holds r f = true then none else g.status? r' := by
  unfold discharge withHolder
  by_cases h : g.lanes.holds r f = true
  · rw [if_pos h]
    simp only [h, and_true]
    exact status?_clear g r r'
  · simp [h]

@[simp] theorem lock_discharge (g : Registry) (r : ResourceId) (f : FlowId) (j : LockId) :
    (g.discharge r f).lanes.lock j = g.lanes.lock j := by
  unfold discharge withHolder
  by_cases h : g.lanes.holds r f = true
  · rw [if_pos h]; exact Lanes.lock_release ..
  · simp [h]

@[simp] theorem nextLock_discharge (g : Registry) (r : ResourceId) (f : FlowId) :
    (g.discharge r f).lanes.nextLock = g.lanes.nextLock := by
  unfold discharge withHolder
  by_cases h : g.lanes.holds r f = true
  · rw [if_pos h]; exact Lanes.nextLock_release ..
  · simp [h]

end Registry

end ResourceFlow
