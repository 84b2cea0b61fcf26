import ResourceFlow.Proofs.Program.GivesWay
import ResourceFlow.Proofs.World.Account
import ResourceFlow.Proofs.World.Provenance
/-! # Flows that give way to a cancel

  The flows of a definition give way to cancels if its actions and handlers do
  (`Definition.GivesWay`): then whatever a task of the engine is inside of
  gives way, too, at every step (`World.Execution.givesWay`).

  If such a flow is inside a wait when a cancel of it is recorded, it winds up
  (`World.Winding`): each step keeps it so, makes no call for it, and records
  nothing of it (`World.Winding.change`, `World.Winding.silent`,
  `World.Marked.records`).
-/

namespace ResourceFlow

variable {V : Vocabulary} {I : Interface} {polling : Polling} {r : ResourceId}

/-! ### Definitions and tasks -/

/-- The actions of the definition give way to cancels of the resource of the flow, its handlers to
    those of the resource of the event. After a wait an action goes on with an event, and terminal
    states have nothing to do. -/
structure Definition.GivesWay (d : Definition V I) (h : Dispatcher V I) (polling : Polling) :
    Prop where
  /-- The actions of the states. -/
  execute : ∀ s p x, (d.execute s p x).GivesWay polling p.resourceId fun next => next.isSome = true
  /-- Those of terminal states. -/
  closed : ∀ s p x, d.isTerminal s = true → ∃ res, d.execute s p x = .done res
  /-- The handlers. -/
  accept : ∀ x hd flow, h.handler? x.selector = some hd →
    (hd.accept flow x).GivesWay polling x.resourceId fun _ => True

/-- What the task is inside of gives way to cancels. -/
def Work.GivesWay (d : Definition V I) (polling : Polling) (now : Duration) : Work V I → Prop
  | .process _ _ (.handling _ _ x _ a) => a.GivesWay polling x.resourceId (fun _ => True) now
  | .process _ _ (.acting _ p _ s a) =>
    a.GivesWay polling p.resourceId (fun next => next.isSome = true) now ∧
      (d.isTerminal s = true → ∃ res, a = .ended res)
  | _ => True

/-- The task is inside a wait on the resource, or past it, if it is inside of anything. -/
def Work.Closing (d : Definition V I) (polling : Polling) (r : ResourceId) (now : Duration) :
    Work V I → Prop
  | .process _ _ (.handling _ _ _ _ a) => a.Closing polling r (fun _ => True) now
  | .process _ _ (.acting _ _ _ s a) =>
    d.isTerminal s = false ∧ a.Closing polling r (fun next => next.isSome = true) now
  | _ => True

section Work

variable {d : Definition V I} {w w' : Work V I} {now later : Duration}

theorem Work.GivesWay.mono (h : w.GivesWay d polling now) (hn : now ≤ later) :
    w.GivesWay d polling later := by
  unfold GivesWay at h ⊢
  split at h
  · exact Activity.GivesWay.mono h hn
  · exact ⟨h.1.mono hn, h.2⟩
  · trivial

theorem Work.Closing.mono (h : w.Closing d polling r now) (hn : now ≤ later) :
    w.Closing d polling r later := by
  unfold Closing at h ⊢
  split at h
  · exact Activity.Closing.mono h hn
  · exact ⟨h.1, h.2.mono hn⟩
  · trivial

/-- What has no flow in hand is inside of nothing. -/
theorem Work.Closing.of_inHand? (h : w.inHand? = none) : w.Closing d polling r now := by
  cases w with
  | process o f stage =>
    cases stage with
    | handling | acting => cases h
    | _ => trivial
  | _ => trivial

/-- The time that a task waits for comes within the interval. -/
theorem Work.Closing.due_le (h : w.Closing d polling r now) {due : Duration}
    (hneed : w.need = .time due) : due ≤ now + polling.interval := by
  unfold need at hneed
  split at hneed
  · exact Activity.Closing.due_le h hneed
  · exact h.2.due_le hneed
  · cases hneed

/-- A call that is made in a step is the one that the task waits for after it. -/
theorem Work.need_of_asked {reply : I.Reply} {c : Duration} {q : I.Call}
    (h : .asked c q ∈ Work.said now reply w w') : w'.need = .answer q := by
  obtain ⟨before, after, hsplit⟩ := List.append_of_mem h
  exact (Work.told_of_asked hsplit).2.2.2

namespace Desk

variable {D D' : Desk V I} {t : TaskId} {reply : I.Reply}

/-- A step of a task leaves it inside of something that gives way. -/
theorem Move.givesWay (hm : Move D t later reply w D' w')
    (hd : D.engine.definition.GivesWay D.engine.dispatcher polling) (hn : now ≤ later)
    (h : w.GivesWay D.engine.definition polling now) :
    w'.GivesWay D.engine.definition polling later := by
  cases hm with
  | hand _ _ hh => exact (hd.accept _ _ _ hh).run _
  | enter =>
    refine ⟨(hd.execute _ _ _).run _, fun hs => ?_⟩
    obtain ⟨res, hres⟩ := hd.closed _ _ _ hs
    exact ⟨res, congrArg (Program.run _) hres⟩
  | handle => exact Activity.GivesWay.step (m := D.moment later) h hn reply
  | act =>
    refine ⟨h.1.step (m := D.moment later) hn reply, fun hs => ?_⟩
    obtain ⟨res, rfl⟩ := h.2 hs
    exact ⟨res, rfl⟩
  | _ => trivial

/-- If the resource is cancelled, a step of a task of its flow leaves it inside the wait or past it,
    and nothing to be answered. -/
theorem Move.closing {d : Definition V I} (hm : Move D t later reply w D' w')
    (hc : ∀ lock p, w.inHand? = some (lock, p) →
      p.resourceId = r ∧ D.registry.isCancelled r = true)
    (hn : now ≤ later) (h : w.Closing d polling r now) :
    w'.Closing d polling r later ∧ ∀ q, w'.need ≠ .answer q := by
  cases hm with
  | hand hnot | enter hnot =>
    -- Whoever is about to take an event finds the mark.
    obtain ⟨rfl, hcan⟩ := hc _ _ rfl
    rw [hcan] at hnot
    cases hnot
  | handle => exact Activity.Closing.step (m := D.moment later) h hn (hc _ _ rfl).2 reply
  | act =>
    obtain ⟨hclosing, hneed⟩ := h.2.step (m := D.moment later) hn (hc _ _ rfl).2 reply
    exact ⟨⟨h.1, hclosing⟩, hneed⟩
  | _ => exact ⟨trivial, nofun⟩

end Desk

end Work

namespace World

/-! ### Before a cancel -/

namespace Execution

variable {E : Execution V I} {engines : List (Definition V I × List (Handler V I) × Nat)}
  {d : Definition V I} {hs : List (Handler V I)} {retention n : Nat} {t : TaskId} {e : EngineId}
  {k : Task V I}

/-- What a task of the engine is inside of gives way to cancels. -/
theorem givesWay (h₀ : E.world 0 = initial engines)
    (he : engines[e]? = some (d, hs, retention)) (hd : d.GivesWay (.ofList hs) polling)
    (hk : (E.world n).tasks[t]? = some k) (hke : k.engine = e) :
    k.work.GivesWay d polling (E.world n).now := by
  induction n generalizing t k with
  | zero =>
    rw [h₀] at hk
    cases hk
  | succ n ih =>
    have hbefore : ∀ {k : Task V I}, (E.world n).tasks[t]? = some k → k.engine = e →
        k.work.GivesWay d polling (E.world (n + 1)).now :=
      fun hk hke => (ih hk hke).mono (E.now_mono n (n + 1) (Nat.le_succ n))
    obtain ⟨eng, heng, hdef, hdisp⟩ := engine h₀ he n
    have hc := E.change n
    generalize E.world (n + 1) = w' at hc hk hbefore ⊢
    generalize E.label n = l at hc
    cases hc with
    | opens ho =>
      rcases ho.tasks.mp hk with hk | ⟨-, rfl⟩
      · exact hbefore hk hke
      · trivial
    | refuses | delivers | cancels =>
      rcases tasks_addTask.mp hk with hk | ⟨-, rfl⟩
      · exact hbefore hk hke
      · trivial
    | elapses => exact hbefore hk hke
    | @runs _ _ _ task _ _ _ hr =>
      rw [hr.tasks] at hk
      split at hk
      · cases hk
        have hte : task.engine = e := hke
        subst hte
        obtain rfl := Option.some.inj (heng.symm.trans hr.hasEngine)
        have hgives : eng.definition.GivesWay eng.dispatcher polling := by
          rw [hdef, hdisp]
          exact hd
        have hwork : task.work.GivesWay eng.definition polling (E.world n).now := by
          rw [hdef]
          exact ih hr.hasTask rfl
        have hstep := hr.move.givesWay hgives (Nat.le_refl _) hwork
        rw [hdef] at hstep
        exact hstep.mono (now_le_of_change (.runs hr))
      · exact hbefore hk hke

end Execution

/-! ### After a cancel -/

/-- A cancel of the flow is recorded, and whoever processes its events is inside a wait on its
    resource, or past it. -/
structure Winding (w : World V I) (d : Definition V I) (polling : Polling) (r : ResourceId)
    (f : FlowId) : Prop where
  /-- The cancel. -/
  marked : Marked w r f
  /-- The tasks. -/
  closing : ∀ (t : TaskId) (k : Task V I), w.tasks[t]? = some k → k.work.flow? = some f →
    k.work.Closing d polling r w.now

namespace Winding

variable {d : Definition V I} {w w' : World V I} {f : FlowId} {l : Label V I}

/-- A step of a task of the flow. -/
theorem move (h : Winding w d polling r f) {t : TaskId} {reply : I.Reply} {task : Task V I}
    {eng : Engine V I} {d' : Desk V I} {work' : Work V I}
    (hr : RunStep w t reply w' task eng d' work') (hf : task.work.flow? = some f) :
    work'.Closing d polling r w.now ∧ ∀ q, work'.need ≠ .answer q := by
  refine hr.move.closing ?_ (Nat.le_refl _) (h.closing t task hr.hasTask hf)
  intro lock p hin
  exact h.marked.isCancelled hr.hasTask hin (h.marked.inHand_flow hr.hasTask hin hf)

theorem change (h : Winding w d polling r f) (hc : Change w l w') :
    Winding w' d polling r f where
  marked := h.marked.change hc
  closing t k hk hf := by
    have hnow := now_le_of_change hc
    have hbefore : w.tasks[t]? = some k → k.work.Closing d polling r w'.now :=
      fun hk => (h.closing t k hk hf).mono hnow
    cases hc with
    | opens ho =>
      rcases ho.tasks.mp hk with hk | ⟨-, rfl⟩
      · exact hbefore hk
      · trivial
    | refuses | delivers | cancels =>
      rcases tasks_addTask.mp hk with hk | ⟨-, rfl⟩
      · exact hbefore hk
      · trivial
    | elapses => exact hbefore hk
    | @runs _ _ _ task _ _ work' hr =>
      rw [hr.tasks] at hk
      split at hk
      · cases hk
        have hf : work'.flow? = some f := hf
        rw [hr.move.flow?_eq] at hf
        exact (h.move hr hf).1.mono hnow
      · exact hbefore hk

/-- No call is made for the flow. -/
theorem silent (h : Winding w d polling r f) (hc : Change w l w') (e : EngineId) (c : Duration)
    (q : I.Call) : .asked c q ∉ w.said w' e f l := by
  intro hasked
  cases hc with
  | runs hr =>
    rw [hr.said] at hasked
    split at hasked
    · rename_i hown
      exact (h.move hr hown.2).2 q (Work.need_of_asked hasked)
    · cases hasked
  | _ => cases hasked

end Winding

/-- Nothing is recorded of a flow after a cancel of it was recorded. -/
theorem Marked.records {w w' : World V I} {f : FlowId} {l : Label V I} (h : Marked w r f)
    (hc : Change w l w') (e : EngineId) : w'.records e f = w.records e f := by
  rw [records_of_change h.orderly hc]
  cases hx : w.taken? e f l with
  | none => exact List.append_nil _
  | some x =>
    -- Whatever is taken of the flow finds the mark.
    obtain ⟨t, reply, k, -, hk, ⟨-, lock, p, hin, hf⟩, hi, hrun⟩ := taken?_eq_some h.orderly hx
    have hp := running?_eq_some_iff.mpr ⟨x.run, hi, hrun, rfl⟩
    obtain ⟨hres, hst⟩ := h.mark _ _ hp
    have hcan : w.registry.isCancelled x.run.params.resourceId = true := by
      rw [hres]
      exact decide_eq_true hst
    have hdrop := fate_of_isCancelled h.orderly hx hcan
    simp [Taken.record?, hdrop]

end World

end ResourceFlow
