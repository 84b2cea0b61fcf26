import ResourceFlow.Proofs.World.Account
import ResourceFlow.Proofs.World.Started
/-! # How a flow ends, by its account

  A flow whose definition has a plan comes to an end, and one whose definition
  has an account has said by then what the account closes with. Put together
  (`World.Execution.closes_of_start`): a flow that is started on a free lane
  ends in every fair execution and says nothing more afterwards. It is
  cancelled only if a cancel of it is recorded; otherwise it ends in a terminal
  state, and what was said by then is what its account closes with there
  (`World.Execution.Closes`). Where that explains how the run ends
  (`Account.Explains`), it explains how the flow does.
-/

namespace ResourceFlow

variable {V : Vocabulary} {I : Interface} {d : Definition V I}

/-- What the account closes with explains, in the sense of `X`, how a run with these parameters ends
    that is not cancelled: finished or failed, as its failure calls for. -/
def Account.Explains {h : Dispatcher V I} (A : Account d h) (p : FlowParameters)
    (X : Talk I → Instance V → Prop) : Prop :=
  ∀ i talk s now, i.status = .running → i.params = p → A.closing i talk →
    (∀ before c call after, talk = before ++ .asked c call :: after →
      ∃ j, A.allows j before call) →
    s = (if i.failure.isSome then .failed else .finished) → X talk (i.finish s now)

namespace World.Execution

variable {E : Execution V I} {e : EngineId}

/-- The flow ends in step `n` with status `s`; `i` is its instance before that, and this is what its
    account says. -/
structure Closes {h : Dispatcher V I} (E : Execution V I) (A : (ResourceId → Prop) → Account d h)
    (e : EngineId) (f : FlowId) (p : FlowParameters) (n : Nat) (i : Instance V) (s : FlowStatus) :
    Prop where
  /-- The step ends it. -/
  ends : E.EndsIn e f n (i.finish s (E.world n).now)
  /-- Before that it runs. -/
  running : i.status = .running
  /-- Its parameters. -/
  params : i.params = p
  /-- After its end nothing is said. -/
  silent : ∀ m, n ≤ m → E.talk e f m = E.talk e f n
  /-- It is cancelled only if a cancel of it is recorded. -/
  calm : (∀ m, ¬ CancelRecorded (E.world m) (E.world (m + 1)) p.resourceId f) → s ≠ .cancelled
  /-- Otherwise it failed or is finished, as its failure calls for. -/
  verdict : s ≠ .cancelled → s = if i.failure.isSome then .failed else .finished
  /-- Then its account closes with what was said. -/
  closing : s ≠ .cancelled → (A fun _ => True).closing i (E.talk e f n)
  /-- Every call was allowed when it was made. -/
  allowed : ∀ before c call after, E.talk e f n = before ++ .asked c call :: after →
    ∃ j, (A fun _ => True).allows j before call

namespace Closes

variable {h : Dispatcher V I} {A : (ResourceId → Prop) → Account d h} {f : FlowId}
  {p : FlowParameters} {n : Nat} {i : Instance V} {s : FlowStatus}

/-- The flow was ended with the status. -/
theorem status (hc : E.Closes A e f p n i s) : (i.finish s (E.world n).now).status = s :=
  Instance.status_finish_of_running hc.running ..

/-- It is cancelled only if a cancel of it is recorded. -/
theorem uncancelled (hc : E.Closes A e f p n i s)
    (hcalm : ∀ m, ¬ CancelRecorded (E.world m) (E.world (m + 1)) p.resourceId f) :
    (i.finish s (E.world n).now).status ≠ .cancelled := by
  rw [hc.status]
  exact hc.calm hcalm

/-- Otherwise what was said explains how it ended. -/
theorem explained (hc : E.Closes A e f p n i s) {X : Talk I → Instance V → Prop}
    (hX : (A fun _ => True).Explains p X)
    (hs : (i.finish s (E.world n).now).status ≠ .cancelled) :
    X (E.talk e f n) (i.finish s (E.world n).now) := by
  rw [hc.status] at hs
  exact hX i _ s _ hc.running hc.params (hc.closing hs) hc.allowed (hc.verdict hs)

end Closes

variable {engines : List (Definition V I × List (Handler V I) × Nat)} {hs : List (Handler V I)}
  {retention n₀ serial : Nat} {q : StartRequest V}

theorem closes_of_start (A : (ResourceId → Prop) → Account d (.ofList hs))
    (P : Plan d (.ofList hs)) (h₀ : E.world 0 = initial engines) (hf : E.Fair)
    (he : engines[e]? = some (d, hs, retention))
    (hseen : ∀ seen r, (A seen).seen r ↔ seen r) (hstart : P.awaits d.initial (q.event d.start))
    (hready : ∀ seen, (A seen).ready (.new (q.params (.opened serial) d.flowType) d.initial)
      (q.event d.start) [])
    (hl : E.label n₀ = .start e serial q) (hfree : (E.world n₀).lane? q.resourceId = none)
    (hno : ∀ n e' event, E.label n ≠ .dispatch e' (.opened serial) event) :
    ∃ n i s, E.Closes A e (.opened serial) (q.params (.opened serial) d.flowType) n i s := by
  -- The step that ends the flow.
  obtain ⟨t, o, i₀, stage₀, hp₀⟩ := inProgress_of_start h₀ he P hstart hl hfree hno
  obtain ⟨n, i, stage, s, hn, hp, hend⟩ :=
    comes_to_end hf (fun n => (orderly h₀ n).queues) hno hp₀
  have hrun : i.status = .running := by
    obtain ⟨eng, -, hc⟩ := hp.onCourse
    exact hc.running
  -- The account of what was said before, where cancels may be seen.
  have hsees : ∀ n r, (E.world n).running? e (.opened serial) ≠ none →
      (E.world n).registry.isCancelled r = true → (A fun _ => True).seen r :=
    fun _ _ _ _ => (hseen _ _).mpr trivial
  obtain ⟨t', o', stage', ha⟩ :=
    accounted_of_running h₀ he (hready _) hl hfree hno hsees hn hp.hasInstance hrun
  have hverdict : s ≠ .cancelled →
      d.isTerminal i.state = true ∧ s = if i.failure.isSome then .failed else .finished :=
    (hp.verdict hend).resolve_left
  refine ⟨n, i, s, endsIn_of_ending hp hend, hrun, ha.params, ?_, ?_, ?_, ?_, ?_⟩
  · exact fun m hm => talk_of_ends h₀ he hno hsees ha (hp.gone hend (E.change n) e) hm
  · intro hcalm
    exact not_cancelled_of_start h₀ he (hready (· ≠ q.resourceId)) hl hfree hno hcalm
      (hseen _) hn hp.hasInstance hrun hend
  · exact fun hs => (hverdict hs).2
  · exact fun hs => ha.stands.closing (hverdict hs).1
  · intro before c call after htalk
    obtain ⟨_, j, -, -, -, -, hallowed⟩ :=
      allowed_of_talk h₀ he (hready _) hl hfree hno hsees htalk
    exact ⟨j, hallowed⟩

end World.Execution

end ResourceFlow
