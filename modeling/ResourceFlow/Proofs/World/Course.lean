import ResourceFlow.Proofs.World.Endings
import ResourceFlow.Proofs.World.Poised
/-! # The course of one flow

  `World.Befalls` lists what a step can do to one flow: which of its events is
  taken, and what its instance is afterwards. It says all that a step can do
  (`World.befalls_of_change`), whoever takes the step: the flow's own tasks,
  tasks of other flows, or cancels. What holds of the course of a flow over a
  whole execution is proved from it by induction on the steps.

  An instance may be forgotten in the very step that ends its flow.
  `Execution.Shows` therefore looks at each step also where nothing is
  forgotten.
-/

namespace ResourceFlow

variable {V : Vocabulary} {I : Interface}

namespace World

/-! ### What is taken and recorded -/

/-- The event of flow `f` that is taken at engine `e` in the next step. -/
def taken? (w : World V I) (e : EngineId) (f : FlowId) : Label V I → Option (Taken V)
  | .run t _ => do
    let k ← w.tasks[t]?
    let d ← w.desk? k.engine
    (d.taken? w.now k.work).filter fun x => k.engine = e ∧ x.run.params.flow = f
  | _ => none

/-- What engine `e` recorded of flow `f`, in order. -/
def records (w : World V I) (e : EngineId) (f : FlowId) : List AuditRecord :=
  ((w.engines[e]?).map Engine.trail).getD [] |>.filter (·.flow = f)

variable {w w' : World V I} {e : EngineId} {f : FlowId}

/-- Who takes an event of a flow, and what it finds. -/
theorem taken?_eq_some (h : Orderly w) {l : Label V I} {x : Taken V}
    (hx : w.taken? e f l = some x) : ∃ t reply k, l = .run t reply ∧ w.tasks[t]? = some k ∧
      k.Holds e f ∧ w.instance? e f = some x.run ∧ x.run.status = .running := by
  cases l with
  | run t reply =>
    unfold taken? at hx
    obtain ⟨k, hk, hx⟩ := Option.bind_eq_some_iff.mp hx
    obtain ⟨d, hd, hx⟩ := Option.bind_eq_some_iff.mp hx
    obtain ⟨eng, he, rfl⟩ := desk?_eq_some hd
    obtain ⟨hd, hf⟩ := Option.filter_eq_some_iff.mp hx
    obtain ⟨o, g, lock, p, hw, hi⟩ := Desk.taken?_eq_some hd
    obtain ⟨rfl, rfl⟩ := of_decide_eq_true hf
    have hi : w.instance? k.engine p.flow = some x.run :=
      instance?_eq_some_iff.mpr ⟨eng, he, hi⟩
    have hin : k.work.inHand? = some (lock, p) := by rw [hw]; rfl
    have hkey := (h.keyed _ _ _ hi).1
    -- Whoever is about to take an event has a flow in hand that runs.
    obtain ⟨i, hj, hrun, -⟩ := running?_eq_some_iff.mp (h.atWork t k lock p hk hin).1
    obtain rfl := Option.some.inj (hi.symm.trans hj)
    exact ⟨t, reply, k, rfl, hk, ⟨rfl, lock, p, hin, hkey.symm⟩, hkey ▸ hi, hrun⟩
  | _ => cases hx

/-- A task that has not got the flow in hand takes no event of it. -/
theorem taken?_of_not_holds (h : Orderly w) {t : TaskId} {reply : I.Reply} {k : Task V I}
    (hk : w.tasks[t]? = some k) (hn : ¬ k.Holds e f) : w.taken? e f (.run t reply) = none := by
  rw [Option.eq_none_iff_forall_ne_some]
  intro x hx
  obtain ⟨u, reply', j, hl, hj, hold, -⟩ := taken?_eq_some h hx
  cases hl
  rw [Option.some.inj (hj.symm.trans hk)] at hold
  exact hn hold

/-- What a task that has the flow in hand takes. -/
theorem taken?_run {t : TaskId} {reply : I.Reply} {k : Task V I} {eng : Engine V I}
    (hk : w.tasks[t]? = some k) (he : w.engines[k.engine]? = some eng) :
    w.taken? k.engine f (.run t reply) =
      ((⟨w.registry, eng⟩ : Desk V I).taken? w.now k.work).filter (·.run.params.flow = f) := by
  unfold taken? desk?
  simp [hk, he]

/-- A step records the event of the flow that it takes, and nothing else of the flow. -/
theorem records_of_change (h : Orderly w) {l : Label V I} (hc : Change w l w') :
    w'.records e f = w.records e f ++ ((w.taken? e f l).bind Taken.record?).toList := by
  -- Only a step of a task at this engine writes to its trail.
  have hsame : w'.engines = w.engines → w'.records e f = w.records e f := by
    intro he
    unfold records
    rw [he]
  cases hc with
  | refuses _ | delivers | cancels | elapses => exact (hsame rfl).trans (List.append_nil _).symm
  | opens ho =>
    refine Eq.trans ?_ (List.append_nil _).symm
    unfold records
    rw [ho.engines]
    split
    · rename_i he
      rw [he, ho.hasEngine]
      rfl
    · rfl
  | @runs t reply _ task eng d' work' hr =>
    by_cases he : e = task.engine
    · subst he
      have hin := h.inHand_self hr
      have htrail := hr.move.trail hin
      unfold records
      rw [hr.engines, if_pos rfl, hr.hasEngine, taken?_run hr.hasTask hr.hasEngine]
      simp only [Option.map_some, Option.getD_some, htrail, List.filter_append]
      congr 1
      -- The record of an event is one of the flow whose event it is.
      cases hx : (⟨w.registry, eng⟩ : Desk V I).taken? w.now task.work with
      | none => rfl
      | some x =>
        cases ha : x.record? with
        | none => by_cases hf : x.run.params.flow = f <;> simp [Option.filter, ha, hf]
        | some a =>
          have hflow := (Taken.origin_of_record? ha).1
          by_cases hf : x.run.params.flow = f <;> simp [Option.filter, ha, hf, hflow]
    · have hnone : w.taken? e f (.run t reply) = none :=
        taken?_of_not_holds h hr.hasTask fun hold => he hold.1.symm
      rw [hnone]
      refine Eq.trans ?_ (List.append_nil _).symm
      unfold records
      rw [hr.engines, if_neg he]

/-! ### What befalls a flow -/

/-- What a step does to flow `f` of engine `e`, which has definition `d` and handlers `h`: the event
    of it that is taken, and its instance afterwards, if nothing is forgotten that ends only
    now. -/
inductive Befalls (d : Definition V I) (h : Dispatcher V I) (w : World V I) (e : EngineId)
    (f : FlowId) : Option (Taken V) → Option (Instance V) → Prop where
  /-- Nothing. -/
  | stays : Befalls d h w e f none (w.instance? e f)
  /-- It is opened. -/
  | opens {p : FlowParameters} (hn : ¬ w.Opened f) :
      Befalls d h w e f none (some (.new p d.initial))
  /-- It had ended, and is forgotten. -/
  | forgets {i : Instance V} (hi : w.instance? e f = some i) (hr : i.status ≠ .running) :
      Befalls d h w e f none none
  /-- An event of it is handed to a handler. -/
  | hands {i : Instance V} {event : V.Event} (hi : w.instance? e f = some i)
      (hr : i.status = .running) (hn : ¬ d.Arrived i)
      (hh : (h.handler? event.selector).isSome = true) :
      Befalls d h w e f (some ⟨i, event, .handed⟩) (some i)
  /-- It enters a state. -/
  | enters {i : Instance V} {event : V.Event} {s : V.State} (hi : w.instance? e f = some i)
      (hr : i.status = .running) (hn : ¬ d.Arrived i) (hh : h.handler? event.selector = none)
      (ht : d.transition i.state event.selector = some s) :
      Befalls d h w e f (some ⟨i, event, .entered s⟩) (some (d.entered i s event))
  /-- It is refused an event, and fails. -/
  | refuses {i : Instance V} {event : V.Event} (hi : w.instance? e f = some i)
      (hr : i.status = .running) (hn : ¬ d.Arrived i) (hh : h.handler? event.selector = none)
      (ht : d.transition i.state event.selector = none) :
      Befalls d h w e f (some ⟨i, event, .refused⟩)
        (some ((i.refused event).finish .failed w.now))
  /-- An event of it is dropped, and it ends cancelled. -/
  | drops {i : Instance V} {event : V.Event} (hi : w.instance? e f = some i)
      (hr : i.status = .running) :
      Befalls d h w e f (some ⟨i, event, .dropped⟩) (some (i.finish .cancelled w.now))
  /-- It ends cancelled. -/
  | stops {i : Instance V} (hi : w.instance? e f = some i) (hr : i.status = .running) :
      Befalls d h w e f none (some (i.finish .cancelled w.now))
  /-- It ends in a terminal state. -/
  | completes {i : Instance V} (hi : w.instance? e f = some i) (hr : i.status = .running)
      (ht : d.isTerminal i.state = true) :
      Befalls d h w e f none
        (some (i.finish (if i.failure.isSome then .failed else .finished) w.now))

/-- What befalls a flow in a step of the task that has it in hand. -/
theorem befalls_of_own (h : Poised w) {t : TaskId} {reply : I.Reply} {task : Task V I}
    {eng : Engine V I} {d' : Desk V I} {work' : Work V I}
    (hr : RunStep w t reply w' task eng d' work') {l : LockId} {i : Instance V}
    (hin : task.work.inHand? = some (l, i.params))
    (hi : w.instance? task.engine i.params.flow = some i) (hrun : i.status = .running) :
    ∃ y, Befalls eng.definition eng.dispatcher w task.engine i.params.flow
        ((⟨w.registry, eng⟩ : Desk V I).taken? w.now task.work) y ∧
      (d'.engine.instance? i.params.flow = y ∨ (eng.retention ≤ eng.retired.length ∧
        d'.engine.instance? i.params.flow = none ∧ ∀ j ∈ y, j.status ≠ .running)) := by
  have hi' : eng.instance? i.params.flow = some i := (hr.instance?_self _).symm.trans hi
  have hst := (h.orderly.atWork t task l _ hr.hasTask hin).2
  have hfree := h.not_arrived hr.hasTask hr.hasEngine hin hi hrun
  have hacts := fun s hact => h.acts t task i.params.flow s i hr.hasTask hact hi
  -- A flow that ends is finished, and perhaps forgotten.
  have hquit : ∀ {s : FlowStatus} {x : Option (Taken V)} {D : Desk V I}, s ≠ .running →
      (D.engine.instance? i.params.flow = some (i.finish s w.now) ∨
        (eng.retention ≤ eng.retired.length ∧ D.engine.instance? i.params.flow = none)) →
      Befalls eng.definition eng.dispatcher w task.engine i.params.flow x
        (some (i.finish s w.now)) →
      ∃ y, Befalls eng.definition eng.dispatcher w task.engine i.params.flow x y ∧
        (D.engine.instance? i.params.flow = y ∨ (eng.retention ≤ eng.retired.length ∧
          D.engine.instance? i.params.flow = none ∧ ∀ j ∈ y, j.status ≠ .running)) := by
    intro s x D hs hD hb
    refine ⟨_, hb, hD.imp_right fun hn => ⟨hn.1, hn.2, ?_⟩⟩
    intro j hj
    obtain rfl := Option.some.inj hj
    rw [Instance.status_finish_of_running hrun]
    exact hs
  have hcancel :=
    Desk.instance?_conclude_self (d := ⟨w.registry, eng⟩) hi' hrun .cancelled w.now
  have hm := hr.move
  generalize task.work = work at hm hin hst hfree hacts ⊢
  cases hm with
  | halt hc =>
    cases hin
    rw [Desk.taken?_of_cancelled hc hi']
    exact hquit (s := .cancelled) nofun hcancel (.drops hi hrun)
  | handlerCancelled _ | actionCancelled _ =>
    cases hin
    exact hquit (s := .cancelled) nofun hcancel (.stops hi hrun)
  | completed _ hs =>
    cases hin
    obtain rfl : _ = i.params.flow := congrArg Prod.snd (Option.some.inj hst)
    refine hquit (s := if i.failure.isSome then .failed else .finished) ?_ ?_
      (.completes hi hrun ?_)
    · split <;> exact nofun
    · show ((⟨w.registry, eng⟩ : Desk V I).complete i.params w.now).1.engine.instance? _ = _ ∨
        (_ ∧ ((⟨w.registry, eng⟩ : Desk V I).complete i.params w.now).1.engine.instance? _ = _)
      rw [Desk.complete_eq hi' w.now]
      exact Desk.instance?_conclude_self (d := ⟨w.registry, eng⟩) hi' hrun _ w.now
    · rw [hacts _ rfl]
      exact hs
  | lost _ hn =>
    cases hin
    have hn : eng.instance? i.params.flow = none := hn
    rw [hi'] at hn
    cases hn
  | hand hc hj hh =>
    cases hin
    obtain rfl := Option.some.inj (hi'.symm.trans hj)
    rw [Desk.taken?_of_handler hc hj hh]
    exact ⟨_, .hands hi hrun (hfree rfl) (by rw [hh]; rfl), .inl hi'⟩
  | @enter _ _ _ _ event j s hc hj hh ht =>
    cases hin
    obtain rfl := Option.some.inj (hi'.symm.trans hj)
    rw [Desk.taken?_of_transition hc hj hh ht]
    refine ⟨_, .enters hi hrun (hfree rfl) hh ht, .inl ?_⟩
    exact Engine.instance?_enter (e := eng.record (.ofEvent i.params i.state (some s) event)) hi' ..
  | @refuse _ _ _ _ event j hc hj hh ht =>
    cases hin
    obtain rfl := Option.some.inj (hi'.symm.trans hj)
    rw [Desk.taken?_of_refused hc hj hh ht]
    refine ⟨_, .refuses hi hrun (hfree rfl) hh ht, ?_⟩
    refine (Desk.instance?_reject_self (d := ⟨w.registry, eng⟩) hi' hrun event
      w.now).imp_right fun hn => ⟨hn.1, hn.2, ?_⟩
    intro j hj
    obtain rfl := Option.some.inj hj
    rw [Instance.status_finish_of_running (i := i.refused event) hrun]
    exact nofun
  | handle _ | handled | handlerFailed _ | act _ | acted _ | actionFailed _ _ | parked _ =>
    -- Nothing is taken, and the instance stays as it is.
    exact ⟨_, .stays, .inl (hi'.trans hi.symm)⟩
  | _ => cases hin

/-- All that a step can do to a flow. -/
theorem befalls_of_change (h : Poised w) {l : Label V I} (hc : Change w l w') {eng : Engine V I}
    (he : w.engines[e]? = some eng) :
    ∃ y, Befalls eng.definition eng.dispatcher w e f (w.taken? e f l) y ∧
      (w'.instance? e f = y ∨
        (w.Full e ∧ w'.instance? e f = none ∧ ∀ i ∈ y, i.status ≠ .running)) := by
  cases hc with
  | refuses _ | delivers | cancels | elapses => exact ⟨_, .stays, .inl rfl⟩
  | @opens e' serial q _ eng' g ho =>
    refine ⟨w'.instance? e f, ?_, .inl rfl⟩
    rw [ho.instance?]
    split
    · rename_i hef
      obtain ⟨rfl, rfl⟩ := hef
      obtain rfl := Option.some.inj (he.symm.trans ho.hasEngine)
      exact .opens fun hop => ho.ne_of_opened hop rfl
    · exact .stays
  | @runs t reply _ task eng' d' work' hr =>
    have hnone : ¬ task.Holds e f → w.taken? e f (.run t reply) = none :=
      taken?_of_not_holds h.orderly hr.hasTask
    cases h.orderly.bearing hr e f with
    | aside hn hsame =>
      rw [hnone hn]
      exact ⟨_, .stays, .inl hsame⟩
    | forgets hn hi hend hi' =>
      rw [hnone hn]
      exact ⟨none, .forgets hi hend, .inl hi'⟩
    | cancels _ hw hi hrun hi' =>
      -- A cancel has no events in hand.
      rw [hnone]
      · refine ⟨_, .stops hi hrun, hi'.imp_right fun hn => ⟨hn.1, hn.2, ?_⟩⟩
        intro j hj
        obtain rfl := Option.some.inj hj
        rw [Instance.status_finish_of_running hrun]
        exact nofun
      · rintro ⟨-, l, p, hin, -⟩
        rw [hw] at hin
        cases hin
    | @own i lock hee hkey hin hi hrun =>
      subst hee hkey
      obtain rfl := Option.some.inj (he.symm.trans hr.hasEngine)
      -- Whatever the task takes, it takes of the flow that it has in hand.
      have hown : w.taken? task.engine i.params.flow (.run t reply) =
          (⟨w.registry, eng⟩ : Desk V I).taken? w.now task.work := by
        rw [taken?_run hr.hasTask hr.hasEngine]
        cases hx : (⟨w.registry, eng⟩ : Desk V I).taken? w.now task.work with
        | none => rfl
        | some x =>
          obtain ⟨o, g, lock, p, hwork, hj⟩ := Desk.taken?_eq_some hx
          rw [hwork] at hin
          cases hin
          obtain rfl := Option.some.inj (((hr.instance?_self _).symm.trans hi).symm.trans hj)
          rw [Option.filter_some, if_pos (decide_eq_true rfl)]
      rw [hown, hr.instance?, if_pos rfl]
      obtain ⟨y, hb, hy⟩ := befalls_of_own h hr hin hi hrun
      exact ⟨y, hb, hy.imp_right fun hn => ⟨⟨_, he, hn.1⟩, hn.2⟩⟩

/-! ### Where nothing is forgotten -/

/-- What a task takes does not depend on what is forgotten. -/
theorem taken?_roomy (w : World V I) (e : EngineId) (f : FlowId) (l : Label V I) :
    w.roomy.taken? e f l = w.taken? e f l := by
  have hdesk : ∀ (eng : Engine V I) (work : Work V I),
      (⟨w.registry, eng.roomy⟩ : Desk V I).taken? w.now work =
        (⟨w.registry, eng⟩ : Desk V I).taken? w.now work := by
    intro eng work
    unfold Desk.taken?
    simp only [Desk.fate?_take]
    rfl
  cases l with
  | run t reply =>
    unfold taken? desk? roomy
    simp only [List.getElem?_map]
    cases w.tasks[t]? with
    | none => rfl
    | some k =>
      cases he : w.engines[k.engine]? with
      | none => simp [he]
      | some eng => simp [he, hdesk]
  | _ => rfl

theorem Befalls.of_roomy {d : Definition V I} {h : Dispatcher V I} {x : Option (Taken V)}
    {y : Option (Instance V)} (hb : Befalls d h w.roomy e f x y) : Befalls d h w e f x y := by
  have hi := fun i (hi : w.roomy.instance? e f = some i) => instance?_roomy w e f ▸ hi
  cases hb with
  | stays =>
    rw [instance?_roomy]
    exact .stays
  | opens hn => exact .opens hn
  | forgets hj hr => exact .forgets (hi _ hj) hr
  | hands hj hr hn hh => exact .hands (hi _ hj) hr hn hh
  | enters hj hr hn hh ht => exact .enters (hi _ hj) hr hn hh ht
  | refuses hj hr hn hh ht => exact .refuses (hi _ hj) hr hn hh ht
  | drops hj hr => exact .drops (hi _ hj) hr
  | stops hj hr => exact .stops (hi _ hj) hr
  | completes hj hr ht => exact .completes (hi _ hj) hr ht

/-! ### Over an execution -/

namespace Execution

variable {E : Execution V I}

/-- The events of flow `f` that engine `e` took in the first steps. -/
def taken (E : Execution V I) (e : EngineId) (f : FlowId) : Nat → List (Taken V)
  | 0 => []
  | n + 1 => E.taken e f n ++ ((E.world n).taken? e f (E.label n)).toList

/-- After so many steps the instance of the flow is `i`, also where the last step forgot it. -/
inductive Shows (E : Execution V I) (e : EngineId) (f : FlowId) : Nat → Instance V → Prop where
  /-- The engine remembers it. -/
  | kept {n : Nat} {i : Instance V} (hi : (E.world n).instance? e f = some i) : Shows E e f n i
  /-- Where there is room, the engine remembers it. -/
  | roomy {n : Nat} {w : World V I} {i : Instance V}
      (hs : (E.world n).roomy.step (E.label n) = some w) (hi : w.instance? e f = some i) :
      Shows E e f (n + 1) i

section Engines

variable {engines : List (Definition V I × List (Handler V I) × Nat)} {d : Definition V I}
  {hs : List (Handler V I)} {retention : Nat}

theorem poised (h₀ : E.world 0 = initial engines) (n : Nat) : Poised (E.world n) :=
  (h₀ ▸ Poised.initial engines).reachable (E.reachable n)

theorem engines_length (h₀ : E.world 0 = initial engines) (n : Nat) :
    (E.world n).engines.length = engines.length := by
  induction n with
  | zero => rw [h₀, World.initial, List.length_map]
  | succ n ih => rw [engines_length_of_change (E.change n), ih]

/-- An engine is there throughout, as it was built. -/
theorem engine (h₀ : E.world 0 = initial engines) (he : engines[e]? = some (d, hs, retention))
    (n : Nat) : ∃ eng, (E.world n).engines[e]? = some eng ∧ eng.definition = d ∧
      eng.dispatcher = .ofList hs := by
  have hlt : e < (E.world n).engines.length := by
    rw [engines_length h₀]
    exact (List.getElem?_eq_some_iff.mp he).1
  have hget := List.getElem?_eq_getElem hlt
  exact ⟨_, hget, engine_of_reachable (h₀ ▸ E.reachable n) he hget⟩

/-- What befalls a flow in a step of an execution. -/
theorem befalls (h₀ : E.world 0 = initial engines) (he : engines[e]? = some (d, hs, retention))
    (f : FlowId) (n : Nat) :
    ∃ y, Befalls d (.ofList hs) (E.world n) e f ((E.world n).taken? e f (E.label n)) y ∧
      ((E.world (n + 1)).instance? e f = y ∨
        ((E.world (n + 1)).instance? e f = none ∧ ∀ i ∈ y, i.status ≠ .running)) := by
  obtain ⟨eng, hw, rfl, hh⟩ := engine h₀ he n
  obtain ⟨y, hb, hy⟩ := befalls_of_change (f := f) (poised h₀ n) (E.change n) hw
  exact ⟨y, hh ▸ hb, hy.imp_right And.right⟩

/-- What befalls a flow where nothing is forgotten. -/
theorem befalls_roomy (h₀ : E.world 0 = initial engines)
    (he : engines[e]? = some (d, hs, retention)) (f : FlowId) {n : Nat} {w : World V I}
    (hs' : (E.world n).roomy.step (E.label n) = some w) :
    Befalls d (.ofList hs) (E.world n) e f ((E.world n).taken? e f (E.label n))
      (w.instance? e f) := by
  obtain ⟨eng, hw, rfl, hh⟩ := engine h₀ he n
  have hroomy : (E.world n).roomy.engines[e]? = some eng.roomy := by
    unfold World.roomy
    rw [List.getElem?_map, hw]
    rfl
  obtain ⟨y, hb, hy⟩ :=
    befalls_of_change (f := f) (poised h₀ n).roomy (change_of_step hs') hroomy
  rw [taken?_roomy] at hb
  rcases hy with rfl | ⟨hfull, -⟩
  · exact hh ▸ hb.of_roomy
  · exact absurd hfull (not_full_roomy _ e)

/-- No engine shows an instance at the start. -/
theorem not_shows_zero (h₀ : E.world 0 = initial engines) {i : Instance V} :
    ¬ E.Shows e f 0 i := by
  intro hi
  cases hi with
  | kept hi =>
    rw [h₀, instance?_initial] at hi
    cases hi

/-- What befalls a flow explains its instance after the step. -/
theorem Shows.befalls (h₀ : E.world 0 = initial engines)
    (he : engines[e]? = some (d, hs, retention)) {n : Nat} {i : Instance V}
    (hi : E.Shows e f (n + 1) i) :
    Befalls d (.ofList hs) (E.world n) e f ((E.world n).taken? e f (E.label n)) (some i) := by
  cases hi with
  | kept hi =>
    obtain ⟨y, hb, hy | ⟨hy, -⟩⟩ := Execution.befalls h₀ he f n
    · rw [hi] at hy
      exact hy ▸ hb
    · rw [hi] at hy
      cases hy
  | roomy hs' hi => exact hi ▸ befalls_roomy h₀ he f hs'

/-- A flow of which an event is taken has an instance afterwards. -/
theorem exists_shows_of_taken? (h₀ : E.world 0 = initial engines)
    (he : engines[e]? = some (d, hs, retention)) {n : Nat} {x : Taken V}
    (hx : (E.world n).taken? e f (E.label n) = some x) : ∃ i, E.Shows e f (n + 1) i := by
  obtain ⟨t, reply, k, hl, -⟩ := taken?_eq_some (poised h₀ n).orderly hx
  have hstep := E.step n
  rw [hl] at hstep
  obtain ⟨w₁, hw₁⟩ := run_roomy hstep
  have hw₁ : (E.world n).roomy.step (E.label n) = some w₁ := by
    rw [hl]
    exact hw₁
  have hb := befalls_roomy h₀ he f hw₁
  rw [hx] at hb
  -- Whatever becomes of the event, the flow keeps an instance.
  cases hi : w₁.instance? e f with
  | some i => exact ⟨i, .roomy hw₁ hi⟩
  | none =>
    rw [hi] at hb
    cases hb

/-! What was taken, and when. -/

/-- What is kept of the events that were taken so far and in one more step. -/
theorem filterMap_taken {α : Type} (g : Taken V → Option α) (n : Nat) :
    (E.taken e f (n + 1)).filterMap g =
      (E.taken e f n).filterMap g ++ (((E.world n).taken? e f (E.label n)).bind g).toList := by
  rw [taken, List.filterMap_append]
  cases (E.world n).taken? e f (E.label n) with
  | none => rfl
  | some x => cases hg : g x <;> simp [hg]

/-- An event was taken in some step, after those that were taken before it. -/
theorem step_of_taken {n : Nat} {before after : List (Taken V)} {x : Taken V}
    (h : E.taken e f n = before ++ x :: after) : ∃ m, m < n ∧ E.taken e f m = before ∧
      (E.world m).taken? e f (E.label m) = some x := by
  induction n generalizing after with
  | zero => simp [taken] at h
  | succ n ih =>
    unfold taken at h
    cases hy : (E.world n).taken? e f (E.label n) with
    | none =>
      rw [hy, Option.toList_none, List.append_nil] at h
      obtain ⟨m, hm, hx⟩ := ih h
      exact ⟨m, Nat.lt_succ_of_lt hm, hx⟩
    | some y =>
      rw [hy, Option.toList_some] at h
      -- It is the last event, or one that was taken before.
      rcases List.eq_nil_or_concat after with rfl | ⟨rest, z, rfl⟩
      · obtain ⟨hb, hxy⟩ := List.append_inj' h rfl
        cases hxy
        exact ⟨n, Nat.lt_succ_self n, hb, hy⟩
      · have h' : E.taken e f n ++ [y] = (before ++ x :: rest) ++ [z] := by
          rw [h]
          simp
        obtain ⟨m, hm, hx⟩ := ih (List.append_inj' h' rfl).1
        exact ⟨m, Nat.lt_succ_of_lt hm, hx⟩

/-- No event of a flow is taken before it is opened. -/
theorem taken_of_not_opened (h₀ : E.world 0 = initial engines) {n : Nat}
    (hn : ¬ (E.world n).Opened f) : E.taken e f n = [] := by
  rw [List.eq_nil_iff_forall_not_mem]
  intro x hx
  obtain ⟨before, after, hsplit⟩ := List.append_of_mem hx
  obtain ⟨m, hm, -, hx'⟩ := step_of_taken hsplit
  obtain ⟨-, -, -, -, -, -, hi, -⟩ := taken?_eq_some (poised h₀ m).orderly hx'
  have hop := ((poised h₀ m).orderly.keyed _ _ _ hi).2
  have hlater : ∀ k, m ≤ k → (E.world k).Opened f := by
    intro k hk
    induction hk with
    | refl => exact hop
    | @step k _ ih => exact opened_of_change (E.change k) ih
  exact hn (hlater n (Nat.le_of_lt hm))

/-- The states that a flow entered are those that its events led to. -/
theorem history_of_shows (h₀ : E.world 0 = initial engines)
    (he : engines[e]? = some (d, hs, retention)) {n : Nat} {i : Instance V}
    (hi : E.Shows e f n i) :
    i.history = d.initial :: (E.taken e f n).filterMap Taken.entered? ∧
      i.history.getLast? = some i.state := by
  induction n generalizing i with
  | zero => exact absurd hi (not_shows_zero h₀)
  | succ n ih =>
    have hb := hi.befalls h₀ he
    have hprev : ∀ {j}, (E.world n).instance? e f = some j →
        j.history = d.initial :: (E.taken e f n).filterMap Taken.entered? ∧
          j.history.getLast? = some j.state := fun hj => ih (.kept hj)
    rw [filterMap_taken]
    generalize (E.world n).taken? e f (E.label n) = x at hb
    generalize hy : some i = y at hb
    cases hb with
    | stays => simpa using hprev hy.symm
    | opens hn =>
      obtain rfl := Option.some.inj hy
      simp [taken_of_not_opened h₀ hn, Instance.new]
    | forgets => cases hy
    | hands hj =>
      obtain rfl := Option.some.inj hy
      simpa [Taken.entered?] using hprev hj
    | enters hj =>
      obtain rfl := Option.some.inj hy
      rw [Definition.history_entered, Definition.state_entered, List.getLast?_concat]
      simp [Taken.entered?, (hprev hj).1]
    | refuses hj =>
      obtain rfl := Option.some.inj hy
      simpa [Taken.entered?, Instance.refused] using hprev hj
    | drops hj | stops hj | completes hj =>
      obtain rfl := Option.some.inj hy
      simpa [Taken.entered?] using hprev hj

/-- A flow that has been opened and does not run does not run later. -/
theorem ended_stays (h₀ : E.world 0 = initial engines)
    (he : engines[e]? = some (d, hs, retention)) {n m : Nat} (hop : (E.world n).Opened f)
    (hr : (E.world n).running? e f = none) (hm : n ≤ m) :
    (E.world m).Opened f ∧ (E.world m).running? e f = none := by
  induction hm with
  | refl => exact ⟨hop, hr⟩
  | @step m _ ih =>
    obtain ⟨hop, hr⟩ := ih
    refine ⟨opened_of_change (E.change m) hop, ?_⟩
    rw [Option.eq_none_iff_forall_ne_some] at hr ⊢
    intro p hp
    obtain ⟨i, hi, hrun, -⟩ := running?_eq_some_iff.mp hp
    have hnot : ∀ j, (E.world m).instance? e f = some j → j.status ≠ .running :=
      fun j hj hjr => hr _ (running?_eq_some_iff.mpr ⟨j, hj, hjr, rfl⟩)
    have hb := Shows.befalls h₀ he (.kept hi)
    generalize (E.world m).taken? e f (E.label m) = x at hb
    generalize hy : some i = y at hb
    cases hb with
    | stays => exact hnot i hy.symm hrun
    | opens hn => exact hn hop
    | forgets => cases hy
    | hands hj hjr | enters hj hjr | refuses hj hjr | drops hj hjr | stops hj hjr
    | completes hj hjr => exact hnot _ hj hjr

/-- An engine that does not keep a flow that has been opened never will. -/
theorem instance?_stays_none (h₀ : E.world 0 = initial engines) {n m : Nat}
    (hop : (E.world n).Opened f) (hn : (E.world n).instance? e f = none) (hm : n ≤ m) :
    (E.world m).Opened f ∧ (E.world m).instance? e f = none := by
  induction hm with
  | refl => exact ⟨hop, hn⟩
  | @step m _ ih =>
    obtain ⟨hop, hn⟩ := ih
    refine ⟨opened_of_change (E.change m) hop, Option.eq_none_iff_forall_ne_some.mpr ?_⟩
    intro i hi
    -- Whatever befalls the flow, it is opened once only.
    obtain ⟨eng, he, -⟩ := instance?_eq_some_iff.mp hi
    have hlt := (List.getElem?_eq_some_iff.mp he).1
    rw [engines_length h₀] at hlt
    have hb := (Shows.kept hi).befalls h₀ (List.getElem?_eq_getElem hlt)
    generalize (E.world m).taken? e f (E.label m) = x at hb
    generalize hy : some i = y at hb
    cases hb with
    | stays =>
      rw [hn] at hy
      cases hy
    | opens hnot => exact hnot hop
    | forgets => cases hy
    | hands hj | enters hj | refuses hj | drops hj | stops hj | completes hj =>
      rw [hn] at hj
      cases hj

/-- Over time, too, a flow is kept by one engine only. -/
theorem instance?_single (h₀ : E.world 0 = initial engines) {e' : EngineId} {n m : Nat}
    {i j : Instance V} (hi : (E.world n).instance? e f = some i)
    (hj : (E.world m).instance? e' f = some j) : e = e' := by
  have hlater : ∀ {e e' : EngineId} {n m : Nat} {i j : Instance V}, n ≤ m →
      (E.world n).instance? e f = some i → (E.world m).instance? e' f = some j → e = e' := by
    intro e e' n m i j hm hi hj
    cases hother : (E.world n).instance? e' f with
    | some i' => exact (poised h₀ n).orderly.single _ _ _ _ _ hi hother
    | none =>
      have hop := ((poised h₀ n).orderly.keyed _ _ _ hi).2
      rw [(instance?_stays_none h₀ hop hother hm).2] at hj
      cases hj
  rcases Nat.le_total n m with hm | hm
  · exact hlater hm hi hj
  · exact (hlater hm hj hi).symm

end Engines

end Execution

end World

end ResourceFlow
