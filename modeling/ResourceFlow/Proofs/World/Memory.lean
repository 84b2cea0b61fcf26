import ResourceFlow.Proofs.Engine.Memory
import ResourceFlow.Proofs.World.Course
/-! # Which flows an engine remembers over time

  A flow ends in a step after which it does not run any more; the task that
  takes the step does so on behalf of the flow (`World.ended?`). The flows of
  an engine that have ended so far, in order, are `World.Execution.ended`.

  After every step of an execution an engine keeps the flows that run and, of
  those that have ended, the last ones, as many as its retention says
  (`World.Execution.remembers`). A flow that ran and does not run any more is
  among those that have ended (`World.Execution.mem_ended`).
-/

namespace ResourceFlow

variable {V : Vocabulary} {I : Interface}

namespace World

variable {w w' : World V I} {e : EngineId} {f : FlowId} {l : Label V I} {n : Nat}
  {past : List FlowId}

/-- The flow of an engine that ends in a step: the task that takes the step is about it, and it runs
    before the step but not afterwards. -/
def ended? (w w' : World V I) (e : EngineId) : Label V I → Option FlowId
  | .run t _ => ((w.tasks[t]?).bind fun k => k.work.stake?.map Prod.snd).filter fun f =>
      (w.running? e f).isSome && (w'.running? e f).isNone
  | _ => none

/-- No flow ends on behalf of which no task takes a step. -/
theorem ended?_eq_some_iff (h : Orderly w) (hc : Change w l w') :
    w.ended? w' e l = some f ↔ w.running? e f ≠ none ∧ w'.running? e f = none := by
  constructor
  · intro hf
    cases l with
    | run t reply =>
      have hboth := (Option.filter_eq_some_iff.mp hf).2
      rw [Bool.and_eq_true, Option.isNone_iff_eq_none] at hboth
      exact ⟨Option.isSome_iff_ne_none.mp hboth.1, hboth.2⟩
    | _ => cases hf
  · rintro ⟨hrun, hnone⟩
    cases hc with
    | refuses | delivers | cancels | elapses => exact absurd hnone hrun
    | opens ho =>
      rw [ho.running?] at hnone
      split at hnone
      · cases hnone
      · exact absurd hnone hrun
    | @runs t reply _ task eng d' work' hr =>
      rcases h.effect hr with hq | ⟨p, s, hq, -, -, hender⟩
      · rw [hr.running?_of_quiet hq] at hnone
        exact absurd hnone hrun
      · -- Only the flow of the task can have ended.
        have hf : f = p.flow := by
          by_contra hne
          rw [h.running?_quits hr hq hender, if_neg hne] at hnone
          exact hrun hnone
        obtain ⟨lock, hstake, -⟩ := hender.holder
        refine Option.filter_eq_some_iff.mpr ⟨?_, ?_⟩
        · rw [hr.hasTask, Option.bind_some, hstake, hf]
          rfl
        · rw [Bool.and_eq_true, Option.isNone_iff_eq_none]
          exact ⟨Option.isSome_iff_ne_none.mpr hrun, hnone⟩

/-- Where the flows of an engine run as before, none of them has ended. -/
theorem ended?_eq_none (h : Orderly w) (hc : Change w l w')
    (hsame : ∀ f, w.running? e f ≠ none → w'.running? e f ≠ none) : w.ended? w' e l = none := by
  refine Option.eq_none_iff_forall_ne_some.mpr fun f hf => ?_
  obtain ⟨hrun, hnone⟩ := (ended?_eq_some_iff h hc).mp hf
  exact hsame f hrun hnone

/-- The flow that ends in the step of a task is the one that the step ends at the desk. -/
theorem RunStep.ended? {t : TaskId} {reply : I.Reply} {task : Task V I} {eng : Engine V I}
    {d' : Desk V I} {work' : Work V I} (hr : RunStep w t reply w' task eng d' work')
    (h : Orderly w) (e : EngineId) : w.ended? w' e (.run t reply) =
      if e = task.engine then ((⟨w.registry, eng⟩ : Desk V I).stops? task.work).map Prod.fst
      else none := by
  have hchange := Change.runs hr
  split
  · rename_i hee
    subst hee
    rcases hr.move.stops (h.retired_self hr) (h.inHand_self hr) with ⟨hno, hk⟩ | ⟨f, s, hf, hret⟩
    · rw [hno]
      refine ended?_eq_none h hchange fun f hrun => ?_
      rw [hr.running?, if_pos rfl, hk.running, ← hr.running?_self]
      exact hrun
    · rw [hf]
      refine (ended?_eq_some_iff h hchange).mpr ⟨?_, ?_⟩
      · rw [hr.running?_self]
        exact hret.ran
      · rw [hr.running?, if_pos rfl, hret.running, if_pos rfl]
  · rename_i hee
    refine ended?_eq_none h hchange fun f hrun => ?_
    rw [hr.running?, if_neg hee]
    exact hrun

/-- An engine remembers one flow more among those that have ended, if one ends in the step. -/
theorem remembers_of_change (h : Orderly w) (hc : Change w l w') {eng : Engine V I}
    (he : w.engines[e]? = some eng) (hrem : eng.Remembers n past)
    (hop : ∀ f ∈ past, w.Opened f) : ∃ eng', w'.engines[e]? = some eng' ∧
      eng'.Remembers n (past ++ (w.ended? w' e l).toList) := by
  have hquiet (hnone : w.ended? w' e l = none) {eng' : Engine V I} (hrem : eng'.Remembers n past) :
      eng'.Remembers n (past ++ (w.ended? w' e l).toList) := by
    rw [hnone]
    exact (List.append_nil past).symm ▸ hrem
  cases hc with
  | refuses | delivers | cancels | elapses => exact ⟨eng, he, hquiet rfl hrem⟩
  | @opens e₁ serial q _ eng₁ g ho =>
    by_cases hee : e = e₁
    · subst hee
      obtain rfl := Option.some.inj (ho.hasEngine.symm.trans he)
      refine ⟨_, (ho.engines e).trans (if_pos rfl), hquiet rfl (hrem.add rfl fun hmem => ?_)⟩
      exact ho.ne_of_opened (hop _ hmem) rfl
    · exact ⟨eng, (ho.engines e).trans ((if_neg hee).trans he), hquiet rfl hrem⟩
  | @runs t reply _ task eng₁ d' work' hr =>
    rw [hr.ended? h]
    by_cases hee : e = task.engine
    · subst hee
      obtain rfl := Option.some.inj (hr.hasEngine.symm.trans he)
      refine ⟨d'.engine, (hr.engines _).trans (if_pos rfl), ?_⟩
      rw [if_pos rfl]
      rcases hr.move.stops (h.retired_self hr) (h.inHand_self hr) with ⟨hno, hk⟩ | ⟨f, s, hf, hret⟩
      · rw [hno]
        exact (List.append_nil past).symm ▸ hrem.keeps hk
      · rw [hf]
        exact hrem.retires hret
    · rw [if_neg hee]
      exact ⟨eng, (hr.engines e).trans ((if_neg hee).trans he),
        (List.append_nil past).symm ▸ hrem⟩

/-! ### Over an execution -/

namespace Execution

variable {E : Execution V I} {engines : List (Definition V I × List (Handler V I) × Nat)}
  {d : Definition V I} {hs : List (Handler V I)} {retention m : Nat}

/-- The flows of an engine that have ended in the first steps, in order. -/
def ended (E : Execution V I) (e : EngineId) : Nat → List FlowId
  | 0 => []
  | n + 1 => E.ended e n ++ ((E.world n).ended? (E.world (n + 1)) e (E.label n)).toList

/-- What has ended has been opened. -/
theorem opened_of_ended (h₀ : E.world 0 = initial engines) (hf : f ∈ E.ended e n) :
    (E.world n).Opened f := by
  induction n with
  | zero => cases hf
  | succ n ih =>
    refine opened_of_change (E.change n) ?_
    rcases List.mem_append.mp hf with hf | hf
    · exact ih hf
    · have h := (poised h₀ n).orderly
      obtain ⟨hrun, -⟩ :=
        (ended?_eq_some_iff h (E.change n)).mp (Option.mem_toList.mp hf)
      obtain ⟨p, hp⟩ := Option.ne_none_iff_exists'.mp hrun
      exact (h.running_keyed hp).2

/-- Throughout, an engine keeps the flows that run and the last ones that have ended. -/
theorem remembers (h₀ : E.world 0 = initial engines) (he : engines[e]? = some (d, hs, retention))
    (n : Nat) :
    ∃ eng, (E.world n).engines[e]? = some eng ∧ eng.Remembers retention (E.ended e n) := by
  induction n with
  | zero =>
    refine ⟨_, ?_, .new d (.ofList hs) retention⟩
    rw [h₀]
    unfold World.initial
    rw [List.getElem?_map, he]
    rfl
  | succ n ih =>
    obtain ⟨eng, hw, hrem⟩ := ih
    exact remembers_of_change (poised h₀ n).orderly (E.change n) hw hrem
      fun f hf => opened_of_ended h₀ hf

/-- A flow that ran and does not run any more has ended. -/
theorem mem_ended (h₀ : E.world 0 = initial engines) (hr : (E.world n).running? e f ≠ none)
    (hm : n ≤ m) (hend : (E.world m).running? e f = none) : f ∈ E.ended e m := by
  induction hm with
  | refl => exact absurd hend hr
  | @step m _ ih =>
    by_cases hrun : (E.world m).running? e f = none
    · exact List.mem_append_left _ (ih hrun)
    · refine List.mem_append_right _ (Option.mem_toList.mpr ?_)
      exact (ended?_eq_some_iff (poised h₀ m).orderly (E.change m)).mpr ⟨hrun, hend⟩

end Execution

end World

end ResourceFlow
