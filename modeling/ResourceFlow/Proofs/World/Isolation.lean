import ResourceFlow.Proofs.Flows.Confined
import ResourceFlow.Proofs.World.Mirrors
import ResourceFlow.Proofs.World.Targets
/-! # Flows on different resources do not influence each other

  Engines on one registry share its lanes and its records, and each engine
  keeps the flows of all resources in one table and one queue of retired
  flows. Still, what happens on one resource does not depend on the others:
  leave out of an execution all requests on other resources and the steps of
  their tasks, and the flows on the resource, what is recorded of them and the
  results of the calls stay the same (`World.resources_isolated`).

  What remains (`Execution.restricted`) is an execution in its own right. Its
  tasks have other numbers, since fewer come before them.
-/

namespace ResourceFlow

variable {V : Vocabulary} {I : Interface}

/-- The resource of a request. -/
def Label.resource? : Label V I → Option ResourceId
  | .start _ _ q => some q.resourceId
  | .dispatch _ _ event => some event.resourceId
  | .cancel _ r => some r
  | .run .. => none
  | .elapse _ => none

/-- Whether an event that is delivered, if one is, carries this resource and is for this flow. -/
def Label.deliversOnlyTo (r : ResourceId) (f : FlowId) : Label V I → Bool
  | .dispatch _ g event => decide (g = f ∧ event.resourceId = r)
  | _ => true

namespace World

theorem follow_append (w : World V I) (ls ls' : List (Label V I)) :
    w.follow (ls ++ ls') = (w.follow ls).bind (·.follow ls') := by
  induction ls generalizing w with
  | nil => rfl
  | cons l ls ih =>
    show (w.step l).bind _ = ((w.step l).bind _).bind _
    rw [Option.bind_assoc]
    exact Option.bind_congr fun w' _ => ih w'

theorem follow_singleton (w : World V I) (l : Label V I) : w.follow [l] = w.step l :=
  Option.bind_fun_some _

namespace Execution

variable {E : Execution V I} {engines : List (Definition V I × List (Handler V I) × Nat)}
  {r : ResourceId} {n : Nat}

/-! ### What concerns a resource -/

/-- The flow is on the resource, if it is ever opened. -/
def On (E : Execution V I) (r : ResourceId) (f : FlowId) : Prop :=
  ∀ n e i, (E.world n).instance? e f = some i → i.params.resourceId = r

/-- The tasks begun by requests on the resource within the first `n` steps. -/
def kept (E : Execution V I) (r : ResourceId) : Nat → List TaskId
  | 0 => []
  | n + 1 =>
    if (E.label n).resource? = some r then E.kept r n ++ [(E.world n).tasks.length]
    else E.kept r n

/-- What step `n` is without the other resources: nothing, if it is a request on another one or a
    step of a task that such a request began. -/
def share (E : Execution V I) (r : ResourceId) (n : Nat) : Option (Label V I) :=
  match E.label n with
  | .run t reply =>
    if t ∈ E.kept r n then some (.run ((E.kept r n).idxOf t) reply) else none
  | .elapse d => some (.elapse d)
  | l => if l.resource? = some r then some l else none

/-- The first `n` steps without the other resources. -/
def restricted (E : Execution V I) (r : ResourceId) : Nat → List (Label V I)
  | 0 => []
  | n + 1 => E.restricted r n ++ (E.share r n).toList

/-- No engine keeps more ended flows than its retention allows: where a flow ends, there is room
    for it. -/
def WithinRetention (E : Execution V I) : Prop :=
  ∀ n, EndsInRoom (E.world n) (E.world (n + 1))

/-- Every event that is delivered from outside carries the resource of its flow. -/
def Carried (E : Execution V I) : Prop :=
  ∀ n e f event, E.label n = .dispatch e f event → E.On event.resourceId f

/-- The world shows of the resource what the execution shows of it after `n` steps. -/
structure SameOn (E : Execution V I) (r : ResourceId) (n : Nat) (v : World V I) : Prop where
  /-- The flows on the resource have the same instances: the same history, status and failure. -/
  instance? : ∀ e f, E.On r f → v.instance? e f = (E.world n).instance? e f
  /-- The same was recorded of each, in the same order. -/
  records : ∀ e f, E.On r f → v.records e f = (E.world n).records e f
  /-- The same is recorded of the resource. -/
  status : v.status? r = (E.world n).status? r
  /-- The same flow occupies its lane. -/
  occupant : (v.lane? r).map Lane.flow = ((E.world n).lane? r).map Lane.flow
  /-- There are no tasks but those of the resource. -/
  tasks : v.tasks.length = (E.kept r n).length
  /-- Each of these has come to the same result, or to none. -/
  results : ∀ (t : TaskId) (k : Task V I), t ∈ E.kept r n → (E.world n).tasks[t]? = some k →
    ∃ k', v.tasks[(E.kept r n).idxOf t]? = some k' ∧ k'.engine = k.engine ∧
      k'.work.result? = k.work.result?

theorem kept_succ (E : Execution V I) (r : ResourceId) (n : Nat) : E.kept r (n + 1) =
    if (E.label n).resource? = some r then E.kept r n ++ [(E.world n).tasks.length]
    else E.kept r n := rfl

/-! ### Where flows are -/

/-- A flow is on the resource of its instances. -/
theorem on_iff (h₀ : E.world 0 = initial engines) {e : EngineId} {f : FlowId} {i : Instance V}
    (hi : (E.world n).instance? e f = some i) (r : ResourceId) :
    E.On r f ↔ i.params.resourceId = r := by
  constructor
  · intro h
    exact h n e i hi
  · rintro rfl m e' j hj
    -- The flow is kept by one engine, and its parameters stay the same.
    obtain rfl := instance?_single h₀ hj hi
    rcases Nat.le_total n m with hm | hm
    · rw [params_later h₀ hm hi hj]
    · rw [params_later h₀ hm hj hi]

/-- The resource among those of an execution. -/
def scope (E : Execution V I) {r : ResourceId} {own : V.Event → Prop}
    (hown : ∀ event, event.resourceId = r → own event) : Scope V where
  resource := r
  on := E.On
  events := own
  carries := hown

variable {own : V.Event → Prop} (hown : ∀ event, event.resourceId = r → own event)

theorem placed (h₀ : E.world 0 = initial engines) (n : Nat) :
    Placed (E.scope hown) (E.world n) :=
  fun _ _ _ hi r => on_iff h₀ hi r

/-- A finite run in which no engine is ever full stays within the retention. -/
theorem withinRetention_ofFollow {w w' : World V I} {ls : List (Label V I)}
    (h : w.follow ls = some w')
    (hroom : ∀ n ≤ ls.length, ∀ a ∈ (play w ls n).engines, a.retired.length < a.retention) :
    (ofFollow h).WithinRetention := by
  rintro n e f - - ⟨a, ha, hfull⟩
  have ha : (play w ls n).engines[e]? = some a := ha
  refine Nat.not_lt_of_le hfull ?_
  rcases Nat.le_total n ls.length with hn | hn
  · exact hroom n hn a (List.mem_of_getElem? ha)
  · -- After the run the engines stay as they are.
    obtain ⟨k, rfl⟩ := Nat.exists_eq_add_of_le hn
    have hlast := hroom ls.length (Nat.le_refl _)
    rw [play_after h] at ha
    rw [← Nat.add_zero ls.length, play_after h] at hlast
    exact hlast a (List.mem_of_getElem? ha)

/-! ### The two executions side by side -/

/-- Before any request there is nothing to tell apart. -/
theorem mirrors_initial
    (hconf : ∀ d hs k, (d, hs, k) ∈ engines → d.Confined (.ofList hs) r own) :
    Mirrors (E.scope hown) {} (initial engines) (initial engines) where
  now := rfl
  nextFlow := Nat.le_refl _
  registry := {
    status := rfl
    lane := rfl
    lock := fun _ hl => nomatch hl
    owned := fun _ _ hl => nomatch hl
    given := fun _ hl => nomatch hl
    next := rfl }
  engines e := by
    unfold initial
    rw [List.getElem?_map]
    cases he : engines[e]? with
    | none => exact .none
    | some x =>
      obtain ⟨d, hs, k⟩ := x
      have hd := hconf d hs k (List.mem_of_getElem? he)
      exact .some ⟨rfl, rfl, rfl, hd, fun _ _ => rfl, fun _ _ => rfl, Nat.le_refl _⟩
  tasks := {
    given := fun _ ht => nomatch ht
    count := rfl
    own := fun _ _ ht => nomatch ht
    others := fun _ _ _ hk => nomatch hk }

/-- A step keeps the worlds in agreement, whether it has a counterpart or is left out. -/
theorem mirrors_step (h₀ : E.world 0 = initial engines) (hroom : E.WithinRetention)
    (hcarried : E.Carried) {locks : List LockId} {v : World V I} (hv : Orderly v)
    (h : Mirrors (E.scope hown) ⟨E.kept r n, locks⟩ (E.world n) v) :
    ∃ locks' v', v.follow (E.share r n).toList = some v' ∧
      Mirrors (E.scope hown) ⟨E.kept r (n + 1), locks'⟩ (E.world (n + 1)) v' := by
  have hstep := E.step n
  have ho := orderly h₀ n
  have hp := placed hown h₀ n
  have hp' := placed hown h₀ (n + 1)
  unfold share
  rw [kept_succ]
  cases hl : E.label n with
  | start e serial q =>
    rw [hl] at hstep
    simp only [Label.resource?, Option.some.injEq]
    by_cases hq : q.resourceId = r
    · simp only [hq, if_true]
      obtain ⟨locks', v', hstart, hm⟩ := h.start ho hv hstep hp' hq
      exact ⟨locks', v', (follow_singleton v _).trans hstart, hm⟩
    · simp only [hq, if_false]
      exact ⟨locks, v, rfl, h.start_left hstep hp' hq⟩
  | dispatch e f event =>
    have hon := hcarried n e f event hl
    rw [hl] at hstep
    rw [← Option.some.inj hstep]
    simp only [Label.resource?, Option.some.injEq]
    by_cases hr : event.resourceId = r
    · simp only [hr, if_true]
      rw [hr] at hon
      exact ⟨locks, _, follow_singleton v _, h.addTask ho e _ ⟨hon, hown event hr⟩⟩
    · simp only [hr, if_false]
      exact ⟨locks, v, rfl, h.addTask_left e _ ⟨⟨_, hr, hon⟩, trivial⟩⟩
  | cancel e r' =>
    rw [hl] at hstep
    rw [← Option.some.inj hstep]
    simp only [Label.resource?, Option.some.injEq]
    by_cases hr : r' = r
    · simp only [hr, if_true]
      exact ⟨locks, _, follow_singleton v _, h.addTask ho e _ ⟨rfl, trivial⟩⟩
    · simp only [hr, if_false]
      exact ⟨locks, v, rfl, h.addTask_left e _ ⟨hr, trivial⟩⟩
  | run t reply =>
    rw [hl] at hstep
    simp only [Label.resource?, reduceCtorEq, if_false]
    by_cases ht : t ∈ E.kept r n
    · simp only [ht, if_true]
      obtain ⟨v', hrun, hm⟩ := h.run ho hp ht hstep (hroom n)
      exact ⟨locks, v', (follow_singleton v _).trans hrun, hm⟩
    · simp only [ht, if_false]
      obtain ⟨k, a, d', work', hr, -⟩ := Mirrors.work_of_run hstep
      exact ⟨locks, v, rfl, h.run_left ho hp ht hr (hroom n)⟩
  | elapse d =>
    rw [hl] at hstep
    rw [← Option.some.inj hstep]
    exact ⟨locks, _, follow_singleton v _, h.elapse d⟩

/-- What remains of an execution without the other resources is one, and agrees with it on the
    resource. -/
theorem mirrors_restricted (h₀ : E.world 0 = initial engines)
    (hconf : ∀ d hs k, (d, hs, k) ∈ engines → d.Confined (.ofList hs) r own)
    (hroom : E.WithinRetention) (hcarried : E.Carried) (n : Nat) :
    ∃ locks v, (initial engines).follow (E.restricted r n) = some v ∧
      Mirrors (E.scope hown) ⟨E.kept r n, locks⟩ (E.world n) v := by
  induction n with
  | zero =>
    rw [h₀]
    exact ⟨[], _, rfl, mirrors_initial hown hconf⟩
  | succ n ih =>
    obtain ⟨locks, v, hf, hm⟩ := ih
    have hv : Orderly v := (Orderly.initial engines).reachable (reachable_of_follow hf)
    obtain ⟨locks', v', hf', hm'⟩ := mirrors_step hown h₀ hroom hcarried hv hm
    refine ⟨locks', v', ?_, hm'⟩
    unfold restricted
    rw [follow_append, hf]
    exact hf'

/-- Worlds that agree on the resource show the same of it. -/
theorem sameOn_of_mirrors {locks : List LockId} {v : World V I}
    (h : Mirrors (E.scope hown) ⟨E.kept r n, locks⟩ (E.world n) v) : E.SameOn r n v where
  instance? e f hf := by
    have hrel := h.engines e
    unfold World.instance?
    generalize (E.world n).engines[e]? = a at hrel ⊢
    generalize v.engines[e]? = b at hrel ⊢
    cases hrel with
    | none => rfl
    | some hab => exact hab.instance? f hf
  records e f hf := by
    have hrel := h.engines e
    unfold World.records
    generalize (E.world n).engines[e]? = a at hrel ⊢
    generalize v.engines[e]? = b at hrel ⊢
    cases hrel with
    | none => rfl
    | some hab => exact hab.records f hf
  status := h.registry.status
  occupant := by
    unfold World.lane?
    refine (congrArg (Option.map Lane.flow) h.registry.lane).trans ?_
    rw [Option.map_map]
    rfl
  tasks := h.tasks.count
  results t k ht hk :=
    ⟨_, (h.tasks.own t k ht hk).2, rfl, Work.result?_renumber _ k.work⟩

end Execution

/-! ### The result -/

/-- If the actions and handlers of the engines are confined to a resource, every event delivered
    from outside carries the resource of its flow, and no engine's retention is exceeded, then the
    flows on the resource and the results of the calls on it are the same as in the execution
    without all other requests. -/
theorem resources_isolated {E : Execution V I}
    {engines : List (Definition V I × List (Handler V I) × Nat)} {r : ResourceId}
    {own : V.Event → Prop} (h₀ : E.world 0 = initial engines)
    (hown : ∀ event, event.resourceId = r → own event)
    (hconf : ∀ d hs k, (d, hs, k) ∈ engines → d.Confined (.ofList hs) r own)
    (hroom : E.WithinRetention) (hcarried : E.Carried) (n : Nat) :
    ∃ v, (initial engines).follow (E.restricted r n) = some v ∧ E.SameOn r n v := by
  obtain ⟨locks, v, hf, hm⟩ := Execution.mirrors_restricted hown h₀ hconf hroom hcarried n
  exact ⟨v, hf, Execution.sameOn_of_mirrors hown hm⟩

/-- An engine that deletes environments. -/
def deletionEngine : List (Definition CascadingDelete.vocabulary Collaborators ×
    List (Handler CascadingDelete.vocabulary Collaborators) × Nat) :=
  [(CascadingDelete.definition ⟨1, 10, false⟩, [], 8)]

/-- The request to delete an environment. -/
def deletionOf (r : ResourceId) : StartRequest CascadingDelete.vocabulary :=
  { resourceId := r, resourceCrn := "environment", payload := default }

/-- A step of a task, whose calls fail. -/
def failingStep (t : TaskId) : Label CascadingDelete.vocabulary Collaborators :=
  .run t fun _ => .error default

/-- Tells the deletion of environment 7 that its data lakes are gone. -/
def datalakesGone : Label CascadingDelete.vocabulary Collaborators :=
  .dispatch 0 (.opened 1)
    { selector := .datalakesDeleted, resourceId := 7, resourceCrn := "environment",
      payload := default }

/-- Environments 7 and 8 are deleted at the same engine. The deletion of 8 is cancelled; an event is
    delivered to that of 7, which goes on to its end. -/
def interleavedRun : List (Label CascadingDelete.vocabulary Collaborators) :=
  [.start 0 0 (deletionOf 8), .start 0 1 (deletionOf 7), failingStep 1, failingStep 0,
    failingStep 0, datalakesGone, failingStep 1, .cancel 0 8, failingStep 3, failingStep 1,
    failingStep 2, failingStep 0, failingStep 3] ++
  List.replicate 8 (failingStep 1) ++ [failingStep 2]

theorem follow_interleavedRun : (initial deletionEngine).follow interleavedRun =
    some (((initial deletionEngine).follow interleavedRun).get rfl) := rfl

/-- That run, after which only time passes. -/
def interleaved : Execution CascadingDelete.vocabulary Collaborators :=
  .ofFollow follow_interleavedRun

/-- Without environment 8 the deletion of 7 fails in the same way. -/
theorem resources_isolated_interleaved :
    ∃ v, (initial deletionEngine).follow ([.start 0 1 (deletionOf 7), failingStep 0,
        datalakesGone, failingStep 0, failingStep 0, failingStep 1] ++
        List.replicate 8 (failingStep 0) ++ [failingStep 1]) = some v ∧
      interleaved.SameOn 7 22 v ∧
      ∃ i, v.instance? 0 (.opened 1) = some i ∧ i.status = .failed := by
  have h₀ : interleaved.world 0 = initial deletionEngine := rfl
  have hconf : ∀ d hs k, (d, hs, k) ∈ deletionEngine →
      d.Confined (.ofList hs) 7 (·.resourceId = 7) := by
    intro d hs k hd
    cases List.mem_singleton.mp hd
    exact CascadingDelete.confined _ 7
  have hon : interleaved.On 7 (.opened 1) :=
    (Execution.on_iff h₀ (show (interleaved.world 2).instance? 0 (.opened 1) = some _ from rfl)
      7).mpr rfl
  have hcarried : interleaved.Carried := by
    intro n e f event hl
    have hto := Execution.all_ofFollow follow_interleavedRun
      (p := Label.deliversOnlyTo 7 (.opened 1)) (by decide) rfl n
    rw [show (Execution.ofFollow follow_interleavedRun).label n = _ from hl] at hto
    obtain ⟨rfl, hr⟩ := of_decide_eq_true hto
    rw [hr]
    exact hon
  have hroom : interleaved.WithinRetention :=
    Execution.withinRetention_ofFollow follow_interleavedRun (by decide)
  obtain ⟨v, hf, hsame⟩ := resources_isolated h₀ (fun _ h => h) hconf hroom hcarried 22
  exact ⟨v, hf, hsame, _, (hsame.instance? 0 _ hon).trans rfl, rfl⟩

end World

end ResourceFlow
