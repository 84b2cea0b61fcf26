import Mathlib.Data.List.Chain
import ResourceFlow.Proofs.World.Course
/-! # The life of an instance

  The states that an instance went through, its status, its failure and the
  time of its end are written at different places: states are entered one by
  one, the failed state leaves a failure behind, a refused event overwrites it,
  a terminal state turns it into a status, and a cancel pays no heed to it.
  `Definition.Lawful` says how they fit together at any time.

  Whatever befalls a flow keeps its instance lawful (`Lawful.befalls`), so every
  instance of every definition is lawful in every execution
  (`World.instances_lawful`).
-/

namespace ResourceFlow

variable {V : Vocabulary} {I : Interface}

/-! ### Histories -/

/-- A history follows the transition table up to a state. -/
structure Definition.Route (d : Definition V I) (history : List V.State) (state : V.State) :
    Prop where
  /-- It begins in the initial state. -/
  begins : history.head? = some d.initial
  /-- It ends in the current state. -/
  last : history.getLast? = some state
  /-- Each state leads to the next on some selector. -/
  linked : history.IsChain fun s s' => ∃ selector, d.transition s selector = some s'
  /-- A terminal state that was entered is the last. -/
  terminal : ∀ before s after, history = before ++ s :: after → before ≠ [] →
    d.isTerminal s = true → after = []

namespace Definition.Route

variable {d : Definition V I} {history : List V.State} {s s' : V.State}

theorem initial (d : Definition V I) : d.Route [d.initial] d.initial where
  begins := rfl
  last := rfl
  linked := .singleton _
  terminal before s after h hb _ := by
    -- The one state of the history was not entered.
    cases before with
    | nil => exact absurd rfl hb
    | cons _ rest => simp at h

/-- From a state that is not terminal, or in which the flow began, a transition goes on. -/
theorem enter (h : d.Route history s) {selector : V.Selector}
    (ht : d.transition s selector = some s')
    (hn : ¬ (1 < history.length ∧ d.isTerminal s = true)) : d.Route (history ++ [s']) s' where
  begins := by
    rw [List.head?_append, h.begins]
    rfl
  last := List.getLast?_concat
  linked := by
    refine List.isChain_append.mpr ⟨h.linked, .singleton _, ?_⟩
    intro x hx y hy
    rw [h.last] at hx
    cases hx
    cases hy
    exact ⟨selector, ht⟩
  terminal before x after heq hb hx := by
    rcases List.eq_nil_or_concat after with rfl | ⟨rest, z, rfl⟩
    · rfl
    · -- Then `x` stands in the history before, as its last state.
      have heq' : history ++ [s'] = (before ++ x :: rest) ++ [z] := by
        rw [heq]
        simp
      obtain ⟨hold, -⟩ := List.append_inj' heq' rfl
      obtain rfl := h.terminal before x rest hold hb hx
      have hlast := h.last
      rw [hold, List.getLast?_concat] at hlast
      obtain rfl := Option.some.inj hlast
      refine absurd ⟨?_, hx⟩ hn
      rw [hold, List.length_append, List.length_singleton]
      exact Nat.lt_add_of_pos_left (List.length_pos_iff.mpr hb)

end Definition.Route

/-! ### Instances -/

/-- The states, the status, the failure and the end of an instance fit together, given the events
    that were taken of its flow. -/
structure Definition.Lawful (d : Definition V I) (h : Dispatcher V I) (events : List (Taken V))
    (i : Instance V) : Prop where
  /-- Its history follows the transition table. -/
  route : d.Route i.history i.state
  /-- It is finished at some time exactly if it does not run. -/
  finished : i.finishedAt.isSome = true ↔ i.status ≠ .running
  /-- While it runs it has a failure exactly if it entered the failed state. -/
  running : i.status = .running → (i.failure.isSome = true ↔ d.failedState ∈ i.history.tail)
  /-- If it succeeded it stands in a terminal state, never entered the failed state, and has no
      failure. -/
  succeeds : i.status = .finished →
    d.isTerminal i.state = true ∧ d.failedState ∉ i.history.tail ∧ i.failure = none
  /-- If it failed it has a failure. -/
  fails : i.status = .failed → i.failure.isSome = true
  /-- If it failed it entered the failed state and stands in a terminal state, or its last event was
      refused: no handler is there for it, nor a transition, and so says the failure. -/
  reason : i.status = .failed → (d.failedState ∈ i.history.tail ∧ d.isTerminal i.state = true) ∨
    ∃ x, events.getLast? = some x ∧ x.fate = .refused ∧
      h.handler? x.event.selector = none ∧ d.transition i.state x.event.selector = none ∧
      i.failure = some (V.noTransition i.state x.event)

namespace Definition.Lawful

variable {d : Definition V I} {h : Dispatcher V I} {events : List (Taken V)} {i : Instance V}

/-- An instance that begins. -/
theorem new (d : Definition V I) (h : Dispatcher V I) (events : List (Taken V))
    (p : FlowParameters) : d.Lawful h events (.new p d.initial) where
  route := .initial d
  finished := by simp [Instance.new]
  running _ := by simp [Instance.new]
  succeeds := nofun
  fails := nofun
  reason := nofun

/-- While the instance runs it does not matter which events were taken. -/
theorem of_running (hl : d.Lawful h events i) (hr : i.status = .running)
    (events' : List (Taken V)) : d.Lawful h events' i where
  route := hl.route
  finished := hl.finished
  running := hl.running
  succeeds := hl.succeeds
  fails := hl.fails
  reason hf := by
    rw [hr] at hf
    cases hf

theorem enter (hl : d.Lawful h events i) (hr : i.status = .running) {event : V.Event}
    {s : V.State} (hn : ¬ d.Arrived i) (ht : d.transition i.state event.selector = some s)
    (events' : List (Taken V)) : d.Lawful h events' (d.entered i s event) := by
  -- The flow goes on.
  have hrun : (d.entered i s event).status = .running := by rw [status_entered, hr]
  have hne : ∀ {status : FlowStatus}, status ≠ .running →
      (d.entered i s event).status ≠ status := fun hs hc => hs (hc.symm.trans hrun)
  refine ⟨?_, ?_, ?_, fun hc => absurd hc (hne nofun), fun hc => absurd hc (hne nofun),
    fun hc => absurd hc (hne nofun)⟩
  · rw [history_entered, state_entered]
    exact hl.route.enter ht hn
  · rw [finishedAt_entered, status_entered]
    exact hl.finished
  · intro _
    rw [failure_entered, hl.running hr, history_entered]
    cases hh : i.history with
    | nil =>
      have hbegin := hl.route.begins
      rw [hh] at hbegin
      cases hbegin
    | cons a rest =>
      simp only [List.tail_cons, List.cons_append, List.mem_append, List.mem_singleton]
      exact Iff.trans Or.comm (or_congr Iff.rfl eq_comm)

/-- An instance that ends. -/
theorem finish {j : Instance V} (hroute : d.Route j.history j.state) (hr : j.status = .running)
    (status : FlowStatus) (hs : status ≠ .running) (now : Duration)
    (hsucc : status = .finished →
      d.isTerminal j.state = true ∧ d.failedState ∉ j.history.tail ∧ j.failure = none)
    (hfail : status = .failed → j.failure.isSome = true)
    (hreason : status = .failed →
      (d.failedState ∈ j.history.tail ∧ d.isTerminal j.state = true) ∨
      ∃ x, events.getLast? = some x ∧ x.fate = .refused ∧
        h.handler? x.event.selector = none ∧ d.transition j.state x.event.selector = none ∧
        j.failure = some (V.noTransition j.state x.event)) :
    d.Lawful h events (j.finish status now) := by
  have hst : (j.finish status now).status = status := Instance.status_finish_of_running hr ..
  refine ⟨?_, ?_, ?_, ?_, ?_, ?_⟩
  · rw [Instance.history_finish, Instance.state_finish]
    exact hroute
  · rw [Instance.finishedAt_finish_of_running hr, hst]
    exact iff_of_true rfl hs
  · rw [hst]
    exact fun hc => absurd hc hs
  · rw [hst, Instance.history_finish, Instance.state_finish, Instance.failure_finish]
    exact hsucc
  · rw [hst, Instance.failure_finish]
    exact hfail
  · rw [hst, Instance.history_finish, Instance.state_finish, Instance.failure_finish]
    exact hreason

/-- An instance that is refused an event. -/
theorem refuse (hl : d.Lawful h events i) (hr : i.status = .running) {event : V.Event}
    (hh : h.handler? event.selector = none)
    (ht : d.transition i.state event.selector = none) (now : Duration) :
    d.Lawful h (events ++ [⟨i, event, .refused⟩]) ((i.refused event).finish .failed now) := by
  refine finish (j := i.refused event) hl.route hr .failed nofun now nofun (fun _ => rfl) ?_
  exact fun _ => .inr ⟨_, List.getLast?_concat, rfl, hh, ht, rfl⟩

/-- An instance that is cancelled. -/
theorem cancel (hl : d.Lawful h events i) (hr : i.status = .running)
    (events' : List (Taken V)) (now : Duration) :
    d.Lawful h events' (i.finish .cancelled now) :=
  finish hl.route hr .cancelled nofun now nofun nofun nofun

/-- An instance that ends in a terminal state. -/
theorem complete (hl : d.Lawful h events i) (hr : i.status = .running)
    (ht : d.isTerminal i.state = true) (events' : List (Taken V)) (now : Duration) :
    d.Lawful h events' (i.finish (if i.failure.isSome then .failed else .finished) now) := by
  have hiff := hl.running hr
  -- The status is read off the failure, which is read off the history.
  cases hf : i.failure with
  | none =>
    rw [hf] at hiff
    exact finish hl.route hr .finished nofun now
      (fun _ => ⟨ht, fun hm => (nomatch hiff.mpr hm), hf⟩) nofun nofun
  | some _ =>
    rw [hf] at hiff
    exact finish hl.route hr .failed nofun now nofun (fun _ => by rw [hf]; rfl)
      fun _ => .inl ⟨hiff.mp rfl, ht⟩

/-- Whatever befalls a flow, its instance stays lawful. -/
theorem befalls {w : World V I} {e : EngineId} {f : FlowId} {x : Option (Taken V)}
    {y : Option (Instance V)} (hl : ∀ j, w.instance? e f = some j → d.Lawful h events j)
    (hb : World.Befalls d h w e f x y) : ∀ i ∈ y, d.Lawful h (events ++ x.toList) i := by
  intro i hi
  cases hb with
  | stays =>
    rw [Option.toList_none, List.append_nil]
    exact hl i hi
  | opens _ =>
    cases hi
    exact .new d h _ _
  | forgets => cases hi
  | hands hj hr =>
    cases hi
    exact (hl _ hj).of_running hr _
  | enters hj hr hn _ ht =>
    cases hi
    exact (hl _ hj).enter hr hn ht _
  | refuses hj hr _ hh ht =>
    cases hi
    exact (hl _ hj).refuse hr hh ht _
  | drops hj hr =>
    cases hi
    exact (hl _ hj).cancel hr _ _
  | stops hj hr =>
    cases hi
    exact (hl _ hj).cancel hr _ _
  | completes hj hr ht =>
    cases hi
    exact (hl _ hj).complete hr ht _ _

end Definition.Lawful

namespace World

/-! ### Over an execution -/

namespace Execution

variable {E : Execution V I} {engines : List (Definition V I × List (Handler V I) × Nat)}
  {d : Definition V I} {hs : List (Handler V I)} {e : EngineId} {f : FlowId} {retention n : Nat}
  {i : Instance V}

theorem lawful_of_shows (h₀ : E.world 0 = initial engines)
    (he : engines[e]? = some (d, hs, retention)) (hi : E.Shows e f n i) :
    d.Lawful (.ofList hs) (E.taken e f n) i := by
  induction n generalizing i with
  | zero => exact absurd hi (not_shows_zero h₀)
  | succ n ih =>
    exact Definition.Lawful.befalls (fun j hj => ih (.kept hj)) (hi.befalls h₀ he) i rfl

/-- What a flow has entered it has entered later, too. -/
theorem taken_grows {n m : Nat} (h : n ≤ m) : E.taken e f n <+: E.taken e f m := by
  induction h with
  | refl => exact List.prefix_refl _
  | step _ ih => exact ih.trans (List.prefix_append ..)

theorem entered_later (h₀ : E.world 0 = initial engines)
    (he : engines[e]? = some (d, hs, retention)) {m : Nat} {j : Instance V}
    (hi : E.Shows e f n i) (hj : E.Shows e f m j) (hm : n ≤ m) {s : V.State}
    (hs : s ∈ i.history.tail) : s ∈ j.history.tail := by
  rw [(history_of_shows h₀ he hi).1, List.tail_cons] at hs
  rw [(history_of_shows h₀ he hj).1, List.tail_cons]
  exact ((taken_grows hm).filterMap _).subset hs

end Execution

/-- Every instance of every flow definition is lawful, in any execution: whatever is started,
    submitted, dispatched and cancelled, in whatever order, and whatever actions and handlers do.
    Once it entered the failed state the flow can end failed or cancelled only, whatever states it
    goes through afterwards. -/
theorem instances_lawful {engines : List (Definition V I × List (Handler V I) × Nat)}
    {E : Execution V I} (h₀ : E.world 0 = initial engines) {e : EngineId} {d : Definition V I}
    {hs : List (Handler V I)} {retention : Nat}
    (he : engines[e]? = some (d, hs, retention)) {f : FlowId} {n : Nat} {i : Instance V}
    (hi : E.Shows e f n i) :
    d.Lawful (.ofList hs) (E.taken e f n) i ∧
      (d.failedState ∈ i.history.tail → ∀ m j, n ≤ m → E.Shows e f m j →
        j.status = .running ∨ j.status = .failed ∨ j.status = .cancelled) := by
  refine ⟨Execution.lawful_of_shows h₀ he hi, ?_⟩
  intro hf m j hm hj
  have hentered := Execution.entered_later h₀ he hi hj hm hf
  cases hs : j.status with
  | running => exact .inl rfl
  | failed => exact .inr (.inl rfl)
  | cancelled => exact .inr (.inr rfl)
  | finished =>
    exact absurd hentered ((Execution.lawful_of_shows h₀ he hj).succeeds hs).2.1

/-- A deletion that is not forced, while no collaborator can be reached. -/
def failedDeletionRun : List (Label CascadingDelete.vocabulary Collaborators) :=
  .start 0 0 { resourceId := 7, resourceCrn := "environment", payload := default } ::
    List.replicate 11 (.run 0 fun _ => .error default)

/-- The failed deletion, after which only time passes. -/
def failedDeletion : Execution CascadingDelete.vocabulary Collaborators :=
  .ofFollow (show (initial deletionEngines).follow failedDeletionRun =
    some (((initial deletionEngines).follow failedDeletionRun).get rfl) from rfl)

/-- The deletion enters the failed state while it runs, goes on to the final state, and fails. -/
theorem instances_lawful_failedDeletion :
    ∃ i j, failedDeletion.Shows 0 (.opened 0) 9 i ∧ i.status = .running ∧
      .failed ∈ i.history.tail ∧ i.failure.isSome = true ∧
      failedDeletion.Shows 0 (.opened 0) 12 j ∧ j.status = .failed ∧ j.state = .final ∧
      j.finishedAt.isSome = true := by
  have h₀ : failedDeletion.world 0 = initial deletionEngines := rfl
  have hi : failedDeletion.Shows 0 (.opened 0) 9 _ := .kept rfl
  have hj : failedDeletion.Shows 0 (.opened 0) 12 _ := .kept rfl
  obtain ⟨hlaw, hends⟩ := instances_lawful h₀ rfl hi
  have hf := (hlaw.running rfl).mp rfl
  have hlaw' := (instances_lawful h₀ rfl hj).1
  have hst := (hends hf 12 _ (by decide) hj).resolve_left nofun
  exact ⟨_, _, hi, rfl, hf, rfl, hj, hst.resolve_right nofun, rfl, hlaw'.finished.mpr nofun⟩

end World

end ResourceFlow
