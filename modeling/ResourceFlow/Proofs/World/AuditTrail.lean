import ResourceFlow.Proofs.World.Course
/-! # The trail refines the history

  The trail of an engine and the history of an instance are written apart from
  each other, on several paths and over several calls. Both follow from the
  events of the flow that were taken (`Execution.taken`): the history holds the
  states that they led to (`Execution.history_of_shows`), the trail has one
  record for each that was not dropped (`Execution.records_eq`). So the trail
  of a flow tells its history, up to the event that it was refused, if any
  (`World.trail_refines_history`).
-/

namespace ResourceFlow

variable {V : Vocabulary} {I : Interface}

namespace World

namespace Execution

variable {E : Execution V I} {engines : List (Definition V I × List (Handler V I) × Nat)}
  {d : Definition V I} {hs : List (Handler V I)} {e : EngineId} {f : FlowId} {retention n : Nat}

/-! ### Records and events -/

/-- Every event that is not dropped is recorded once, and nothing else is. -/
theorem records_eq (h₀ : E.world 0 = initial engines) (n : Nat) :
    (E.world n).records e f = (E.taken e f n).filterMap Taken.record? := by
  induction n with
  | zero =>
    -- The trails are empty at the start.
    rw [h₀]
    unfold records World.initial
    rw [List.getElem?_map]
    cases engines[e]? <;> rfl
  | succ n ih =>
    rw [records_of_change (poised h₀ n).orderly (E.change n), ih, filterMap_taken]

/-- Among the records, those with a state name the states that the flow entered. -/
theorem toStates_records (h₀ : E.world 0 = initial engines) (n : Nat) :
    ((E.world n).records e f).filterMap AuditRecord.toState =
      ((E.taken e f n).filterMap Taken.entered?).map V.stateName := by
  rw [records_eq h₀, List.filterMap_filterMap, List.map_filterMap]
  congr 1
  funext x
  exact x.bind_toState_record?

/-- The last state that was recorded is the one that the flow is in. -/
theorem last_toState (h₀ : E.world 0 = initial engines)
    (he : engines[e]? = some (d, hs, retention)) {i : Instance V} (hi : E.Shows e f n i) :
    ((((E.world n).records e f).filterMap AuditRecord.toState).getLast?).getD
      (V.stateName d.initial) = V.stateName i.state := by
  obtain ⟨hhistory, hlast⟩ := history_of_shows h₀ he hi
  rw [hhistory, List.getLast?_cons, Option.some_inj] at hlast
  rw [toStates_records h₀, List.getLast?_map, ← hlast]
  cases ((E.taken e f n).filterMap Taken.entered?).getLast? <;> rfl

/-- A record was written in some step, after those that were written before it. -/
theorem step_of_record (h₀ : E.world 0 = initial engines) {before after : List AuditRecord}
    {a : AuditRecord} (h : (E.world n).records e f = before ++ a :: after) :
    ∃ m x, m < n ∧ (E.world m).records e f = before ∧
      (E.world m).taken? e f (E.label m) = some x ∧ x.record? = some a := by
  rw [records_eq h₀] at h
  obtain ⟨l₁, l₂, hl, hb, hrest⟩ := List.filterMap_eq_append_iff.mp h
  obtain ⟨skipped, x, rest, rfl, hskip, hx, -⟩ := List.filterMap_eq_cons_iff.mp hrest
  -- The event of the record was taken after those before it and those that were dropped.
  have hsplit : E.taken e f n = (l₁ ++ skipped) ++ x :: rest := by
    rw [hl, List.append_assoc]
  obtain ⟨m, hm, hbefore, htaken⟩ := step_of_taken hsplit
  refine ⟨m, x, hm, ?_, htaken, hx⟩
  rw [records_eq h₀, hbefore, List.filterMap_append, hb, List.filterMap_eq_nil_iff.mpr hskip,
    List.append_nil]

/-! ### After the end -/

/-- Nothing is recorded of a flow that has been opened and does not run. -/
theorem records_of_ended (h₀ : E.world 0 = initial engines)
    (he : engines[e]? = some (d, hs, retention)) (hop : (E.world n).Opened f)
    (hr : (E.world n).running? e f = none) {m : Nat} (hm : n ≤ m) :
    (E.world m).records e f = (E.world n).records e f := by
  induction hm with
  | refl => rfl
  | @step m hm ih =>
    have hend := (ended_stays h₀ he hop hr hm).2
    rw [records_of_change (poised h₀ m).orderly (E.change m), ih]
    cases hx : (E.world m).taken? e f (E.label m) with
    | none => exact List.append_nil _
    | some x =>
      -- Only of a flow that runs events are taken.
      obtain ⟨-, -, -, -, -, -, hi, hrun⟩ := taken?_eq_some (poised h₀ m).orderly hx
      rw [running?_eq_some_iff.mpr ⟨x.run, hi, hrun, rfl⟩] at hend
      cases hend

/-- The step that refuses an event of a flow has it fail, for that reason. -/
theorem failed_of_refused (h₀ : E.world 0 = initial engines)
    (he : engines[e]? = some (d, hs, retention)) {x : Taken V}
    (hx : (E.world n).taken? e f (E.label n) = some x) (hfate : x.fate = .refused)
    {i : Instance V} (hi : E.Shows e f (n + 1) i) :
    i.status = .failed ∧ i.failure = some (V.noTransition x.run.state x.event) := by
  have hb := hi.befalls h₀ he
  rw [hx] at hb
  cases hb with
  | @refuses j event _ hr =>
    refine ⟨Instance.status_finish_of_running (i := j.refused event) hr .., ?_⟩
    rw [Instance.failure_finish]
    rfl
  | _ => cases hfate

/-- After an event was refused nothing is recorded any more. -/
theorem records_of_refused (h₀ : E.world 0 = initial engines)
    (he : engines[e]? = some (d, hs, retention)) {x : Taken V}
    (hx : (E.world n).taken? e f (E.label n) = some x) (hfate : x.fate = .refused) {m : Nat}
    (hm : n < m) : (E.world m).records e f = (E.world (n + 1)).records e f := by
  obtain ⟨-, -, -, -, -, -, hi, -⟩ := taken?_eq_some (poised h₀ n).orderly hx
  refine records_of_ended h₀ he ?_ ?_ hm
  · exact opened_of_change (E.change n) ((poised h₀ n).orderly.keyed _ _ _ hi).2
  · rw [Option.eq_none_iff_forall_ne_some]
    intro p hp
    obtain ⟨j, hj, hrun, -⟩ := running?_eq_some_iff.mp hp
    rw [(failed_of_refused h₀ he hx hfate (.kept hj)).1] at hrun
    cases hrun

/-! ### One engine -/

/-- A flow is recorded by one engine only. -/
theorem records_single (h₀ : E.world 0 = initial engines) {e' : EngineId}
    (hr : (E.world n).records e f ≠ []) (hr' : (E.world n).records e' f ≠ []) : e = e' := by
  have hkept : ∀ {e : EngineId}, (E.world n).records e f ≠ [] →
      ∃ m i, (E.world m).instance? e f = some i := by
    intro e hr
    obtain ⟨a, ha⟩ := List.exists_mem_of_ne_nil _ hr
    obtain ⟨before, after, hsplit⟩ := List.append_of_mem ha
    obtain ⟨m, x, -, -, hx, -⟩ := step_of_record h₀ hsplit
    obtain ⟨-, -, -, -, -, -, hi, -⟩ := taken?_eq_some (poised h₀ m).orderly hx
    exact ⟨m, x.run, hi⟩
  obtain ⟨_, _, hi⟩ := hkept hr
  obtain ⟨_, _, hj⟩ := hkept hr'
  exact instance?_single h₀ hi hj

/-! ### Which events are taken -/

/-- A task that is about to take an event of a flow takes it in its next step; what becomes of it is
    decided by the record of the resource, the handlers and the transition table. -/
theorem taken?_of_ready (h₀ : E.world 0 = initial engines)
    (he : engines[e]? = some (d, hs, retention)) {t : TaskId} {reply : I.Reply} {k : Task V I}
    {o : Origin} {g : FlowId} {lock : LockId} {p : FlowParameters} {event : V.Event}
    (hl : E.label n = .run t reply) (hk : (E.world n).tasks[t]? = some k) (hke : k.engine = e)
    (hw : k.work = .process o g (.ready lock p event)) :
    ∃ i, (E.world n).instance? e p.flow = some i ∧
      (E.world n).taken? e p.flow (E.label n) = some ⟨i, event,
        if (E.world n).registry.isCancelled p.resourceId then .dropped
        else if ((Dispatcher.ofList hs).handler? event.selector).isSome then .handed
        else (d.transition i.state event.selector).elim .refused .entered⟩ := by
  subst hke
  obtain ⟨eng, heng, hdef, hdisp⟩ := engine h₀ he n
  have hin : k.work.inHand? = some (lock, p) := by
    rw [hw]
    rfl
  obtain ⟨hrun, -⟩ := (poised h₀ n).orderly.atWork t k lock p hk hin
  obtain ⟨i, hi, -, rfl⟩ := running?_eq_some_iff.mp hrun
  refine ⟨i, hi, ?_⟩
  obtain ⟨eng', heng', hi'⟩ := instance?_eq_some_iff.mp hi
  obtain rfl := Option.some.inj (heng.symm.trans heng')
  rw [hl, taken?_run hk heng, hw, Desk.taken?, ← hdef, ← hdisp]
  simp only [Desk.fate?_take, hi', Option.bind_eq_bind, Option.bind_some]
  -- The checks in the order in which they are made.
  cases (E.world n).registry.isCancelled i.params.resourceId with
  | true => simp
  | false => cases eng.dispatcher.handler? event.selector <;> simp

end Execution

/-! ### Refinement -/

/-- The records of flow `f` at engine `e` tell its history, from the first step on. -/
structure Execution.Audited (E : Execution V I) (d : Definition V I) (h : Dispatcher V I)
    (e : EngineId) (f : FlowId) : Prop where
  /-- A task that is about to take an event takes it in its next step. The event is dropped if a
      cancel is recorded; else it is handed to its handler; else it leads to a state; else it is
      refused. -/
  takes : ∀ (n : Nat) (t : TaskId) (reply : I.Reply) (k : Task V I) (o : Origin) (g : FlowId)
    (lock : LockId) (p : FlowParameters) (event : V.Event), E.label n = .run t reply →
    (E.world n).tasks[t]? = some k → k.engine = e →
    k.work = .process o g (.ready lock p event) → p.flow = f →
    ∃ i, (E.world n).instance? e f = some i ∧
      (E.world n).taken? e f (E.label n) = some ⟨i, event,
        if (E.world n).registry.isCancelled p.resourceId then .dropped
        else if (h.handler? event.selector).isSome then .handed
        else (d.transition i.state event.selector).elim .refused .entered⟩
  /-- There is one record for each event that was taken and not dropped, in order. -/
  records : ∀ n, (E.world n).records e f = (E.taken e f n).filterMap Taken.record?
  /-- The states recorded, in order, are the history after the initial state. -/
  states : ∀ n i, E.Shows e f n i → i.history.head? = some d.initial ∧
    ((E.world n).records e f).filterMap AuditRecord.toState = i.history.tail.map V.stateName
  /-- A record was written in the step that took its event. It names the state in which the event
      was taken, which is the latest that was recorded before, or else the initial state. -/
  origin : ∀ n before a after, (E.world n).records e f = before ++ a :: after →
    ∃ m x, m < n ∧ (E.world m).taken? e f (E.label m) = some x ∧ x.record? = some a ∧
      (E.world m).records e f = before ∧ (E.world m).instance? e f = some x.run ∧
      a.fromState = V.stateName x.run.state ∧
      a.fromState = ((before.filterMap AuditRecord.toState).getLast?).getD (V.stateName d.initial)
  /-- An event is refused while the flow runs. Its record has no next state and says that there is
      no transition; the same step has the flow fail for that reason; and this record is the
      last. -/
  refusal : ∀ n x, (E.world n).taken? e f (E.label n) = some x → x.fate = .refused →
    ∃ a, x.record? = some a ∧ a.toState = none ∧
      a.failure = some (V.noTransition x.run.state x.event) ∧
      (E.world (n + 1)).records e f = (E.world n).records e f ++ [a] ∧
      x.run.status = .running ∧ (∃ i, E.Shows e f (n + 1) i) ∧
      (∀ i, E.Shows e f (n + 1) i → i.status = .failed ∧ i.failure = a.failure) ∧
      ∀ m, n < m → (E.world m).records e f = (E.world (n + 1)).records e f
  /-- After any other record the flow still runs. -/
  runs : ∀ n x a, (E.world n).taken? e f (E.label n) = some x → x.record? = some a →
    x.fate ≠ .refused → (E.world (n + 1)).running? e f ≠ none
  /-- Once the flow has ended, nothing more is recorded of it. -/
  quiet : ∀ n, (E.world n).Opened f → (E.world n).running? e f = none → ∀ m, n ≤ m →
    (E.world m).records e f = (E.world n).records e f
  /-- No other engine records the flow. -/
  single : ∀ n e', (E.world n).records e f ≠ [] → (E.world n).records e' f ≠ [] → e = e'

/-- The trail of every flow of every definition refines its history, in any execution: whatever is
    started, submitted, dispatched and cancelled, in whatever order, and whatever actions and
    handlers do. -/
theorem trail_refines_history {engines : List (Definition V I × List (Handler V I) × Nat)}
    {E : Execution V I} (h₀ : E.world 0 = initial engines) {e : EngineId} {d : Definition V I}
    {hs : List (Handler V I)} {retention : Nat}
    (he : engines[e]? = some (d, hs, retention)) (f : FlowId) :
    E.Audited d (.ofList hs) e f where
  takes := by
    rintro n t reply k o g lock p event hl hk hke hw rfl
    exact Execution.taken?_of_ready h₀ he hl hk hke hw
  records := Execution.records_eq h₀
  states n i hi := by
    rw [(Execution.history_of_shows h₀ he hi).1, Execution.toStates_records h₀]
    exact ⟨rfl, rfl⟩
  origin n before a after h := by
    obtain ⟨m, x, hm, hbefore, hx, ha⟩ := Execution.step_of_record h₀ h
    obtain ⟨-, -, -, -, -, -, hi, -⟩ := taken?_eq_some (Execution.poised h₀ m).orderly hx
    have hfrom := (Taken.origin_of_record? ha).2
    refine ⟨m, x, hm, hx, ha, hbefore, hi, hfrom, ?_⟩
    rw [← hbefore, Execution.last_toState h₀ he (.kept hi), hfrom]
  refusal n x hx hfate := by
    obtain ⟨-, -, -, -, -, -, -, hrun⟩ := taken?_eq_some (Execution.poised h₀ n).orderly hx
    have hrecord : ∃ a, x.record? = some a ∧ a.toState = none ∧
        a.failure = some (V.noTransition x.run.state x.event) := by
      unfold Taken.record?
      rw [hfate]
      exact ⟨_, rfl, rfl, rfl⟩
    obtain ⟨a, ha, hto, hfailure⟩ := hrecord
    refine ⟨a, ha, hto, hfailure, ?_, hrun, Execution.exists_shows_of_taken? h₀ he hx, ?_, ?_⟩
    · rw [records_of_change (Execution.poised h₀ n).orderly (E.change n), hx, Option.bind_some, ha]
      rfl
    · rw [hfailure]
      exact fun i hi => Execution.failed_of_refused h₀ he hx hfate hi
    · exact fun m hm => Execution.records_of_refused h₀ he hx hfate hm
  runs n x a hx ha hfate := by
    obtain ⟨y, hb, hy⟩ := Execution.befalls h₀ he f n
    rw [hx] at hb
    have hruns : ∃ i, y = some i ∧ i.status = .running := by
      cases hb with
      | hands _ hr => exact ⟨_, rfl, hr⟩
      | @enters j event s _ hr => exact ⟨_, rfl, by rw [Definition.status_entered, hr]⟩
      | refuses => exact absurd rfl hfate
      | drops => cases ha
    obtain ⟨i, rfl, hr⟩ := hruns
    rcases hy with hi | ⟨-, hend⟩
    · rw [running?_eq_some_iff.mpr ⟨i, hi, hr, rfl⟩]
      exact nofun
    · exact absurd hr (hend i rfl)
  quiet n hop hr m hm := Execution.records_of_ended h₀ he hop hr hm
  single n e' hr hr' := Execution.records_single h₀ hr hr'

/-- An engine whose flows start with an event that their initial state has no transition for. -/
def misstartedEngines : List (Definition CascadingDelete.vocabulary Collaborators ×
    List (Handler CascadingDelete.vocabulary Collaborators) × Nat) :=
  [({ CascadingDelete.definition ⟨1, 10, false⟩ with start := .finalize }, [], 1)]

/-- A flow of such an engine is started and takes its first event. -/
def misstartedRun : List (Label CascadingDelete.vocabulary Collaborators) :=
  .start 0 0 { resourceId := 7, resourceCrn := "environment", payload := default } ::
    List.replicate 3 (.run 0 fun _ => .error default)

/-- That flow, after which only time passes. -/
def misstarted : Execution CascadingDelete.vocabulary Collaborators :=
  .ofFollow (show (initial misstartedEngines).follow misstartedRun =
    some (((initial misstartedEngines).follow misstartedRun).get rfl) from rfl)

/-- The flow is refused its first event. One record is written of it, in the initial state, and none
    later; the flow fails. -/
theorem trail_refines_history_misstarted : ∃ a i,
    a.fromState = "INIT" ∧ a.toState = none ∧ misstarted.Shows 0 (.opened 0) 4 i ∧
      i.status = .failed ∧ i.failure = a.failure ∧
      ∀ m, 3 < m → (misstarted.world m).records 0 (.opened 0) = [a] := by
  have haudit := trail_refines_history (E := misstarted)
    (show misstarted.world 0 = initial misstartedEngines from rfl) (e := 0) rfl (.opened 0)
  obtain ⟨a, ha, hto, -, hnext, -, ⟨i, hi⟩, hfail, hlast⟩ := haudit.refusal 3 _ rfl rfl
  have hfrom := (Taken.origin_of_record? ha).2
  exact ⟨a, i, hfrom, hto, hi, (hfail i hi).1, (hfail i hi).2, fun m hm => (hlast m hm).trans hnext⟩

end World

end ResourceFlow
