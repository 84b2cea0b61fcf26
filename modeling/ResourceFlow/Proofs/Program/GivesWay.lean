import ResourceFlow.Collaborator.Call
import ResourceFlow.Program.Run
/-! # Programs that give way to a cancel

  A program gives way to cancels of a resource if it waits on no other
  resource, calls once in each attempt, and does nothing after a wait but end
  (`Program.GivesWay`). For actions it is put together from their parts
  (`Action.GivesWay`).

  Such a program, once it is inside a wait, closes as soon as the resource is
  cancelled (`Activity.Closing`): it makes no more calls
  (`Activity.Closing.step`), it has ended when a pause is over
  (`Activity.Closing.step_late`), and no pause is longer than the interval
  (`Activity.Closing.due_le`).
-/

namespace ResourceFlow

variable {I : Interface} {α β V : Type} {polling : Polling} {r : ResourceId}

/-! ### Waits -/

/-- The procedure ends without a call. -/
def Procedure.CallFree (p : Procedure I α) : Prop := ∀ m, ∃ a, p.run m = .done a

/-- A wait on the resource that calls once in each attempt. -/
structure Wait.CallsOnce (polling : Polling) (r : ResourceId) (w : Wait I V) : Prop where
  /-- Interval, time limit and error policy. -/
  polling : w.polling = polling
  /-- The resource whose cancellation ends the wait. -/
  resource : w.resource = r
  /-- An attempt begins with its call. -/
  attempt : ∀ k, ∃ q next, w.attempt k = .call q next ∧ ∀ x, (next x).CallFree

/-- After the wait the program only ends, and with one of `late` if it succeeds. -/
def Wait.Last (late : α → Prop)
    (next : Except PollError Unit → Program I (Except ActionError α)) : Prop :=
  ∀ o, ∃ res, next o = .done res ∧ ∀ a, res = .ok a → late a

/-- The wait in progress calls once in each attempt, and its pause is over within the interval. -/
structure Waiting.GivesWay (polling : Polling) (r : ResourceId) (now : Duration)
    (w : Waiting I V) : Prop where
  /-- The wait. -/
  wait : w.wait.CallsOnce polling r
  /-- The pause. -/
  pause : ∀ k due, w.stage = .pausing k due → due ≤ now + polling.interval
  /-- The rest of the attempt that waits for an answer. -/
  rest : ∀ k q next, w.stage = .calling k q next → ∀ x, (next x).CallFree

/-- A pause is not longer than the interval. -/
theorem Polling.le_of_after_eq_pause {p : Polling} {elapsed d : Duration}
    {x : Except String (Attempt V)} (h : p.after elapsed x = .pause d) : d ≤ p.interval := by
  have hcarry : p.carryOn elapsed = (.pause d : Next V) → d ≤ p.interval := by
    intro h
    unfold carryOn at h
    split at h
    · cases h
    · cases h
      exact Nat.min_le_left ..
  cases x with
  | ok a =>
    cases a with
    | again => exact hcarry h
    | finish v => cases h
    | giveUp reason => cases h
  | error message =>
    simp only [after] at h
    split at h
    · cases h
    · exact hcarry h

namespace Waiting.GivesWay

variable {w w' : Waiting I V} {m : Moment} {k : Nat} {now : Duration}

theorem mono (h : w.GivesWay polling r now) {later : Duration} (hn : now ≤ later) :
    w.GivesWay polling r later where
  wait := h.wait
  pause k due hs := Nat.le_trans (h.pause k due hs) (Nat.add_le_add_right hn _)
  rest := h.rest

/-- After its call an attempt is over, so that the wait goes on with a pause. -/
theorem goOn (h : w.GivesWay polling r now) {rest : Procedure I (Except String (Attempt V))}
    (hrest : rest.CallFree) (hw : w.goOn m k rest = .more w') :
    w'.GivesWay polling r m.now ∧ ∃ due, w'.need = .time due := by
  obtain ⟨outcome, hdone⟩ := hrest m
  unfold Waiting.goOn at hw
  rw [hdone] at hw
  dsimp only at hw
  split at hw
  · cases hw
  · rename_i d hpause
    cases hw
    refine ⟨⟨h.wait, ?_, nofun⟩, _, rfl⟩
    rintro _ _ ⟨⟩
    rw [← h.wait.polling]
    exact Nat.add_le_add_left (Polling.le_of_after_eq_pause hpause) _

/-- A cycle that is not cancelled makes the call of the attempt. -/
theorem cycle (h : w.GivesWay polling r now) (hw : w.cycle m k = .more w') :
    w'.GivesWay polling r m.now := by
  obtain ⟨q, next, hattempt, hnext⟩ := h.wait.attempt k
  unfold Waiting.cycle at hw
  split at hw
  · cases hw
  · unfold Waiting.goOn at hw
    rw [hattempt] at hw
    cases hw
    refine ⟨h.wait, nofun, ?_⟩
    rintro _ _ _ ⟨⟩
    exact hnext

theorem step (h : w.GivesWay polling r now) (hn : now ≤ m.now) {reply : I.Reply}
    (hw : w.step m reply = .more w') : w'.GivesWay polling r m.now := by
  unfold Waiting.step at hw
  split at hw
  · split at hw
    · cases hw
      exact h.mono hn
    · exact h.cycle hw
  · rename_i hs
    exact (h.goOn (h.rest _ _ _ hs _) hw).1

/-- If the resource is cancelled, a step that does not end the wait leaves it pausing. -/
theorem step_cancelled (h : w.GivesWay polling r now) (hc : m.cancelled r = true)
    {reply : I.Reply} (hw : w.step m reply = .more w') : ∃ due, w'.need = .time due := by
  unfold Waiting.step at hw
  split at hw
  · rename_i k due hs
    split at hw
    · cases hw
      exact ⟨due, by rw [Waiting.need, hs]⟩
    · -- A cycle is cancelled.
      unfold Waiting.cycle at hw
      rw [h.wait.resource, if_pos hc] at hw
      cases hw
  · rename_i hs
    exact (h.goOn (h.rest _ _ _ hs _) hw).2

end Waiting.GivesWay

theorem Wait.CallsOnce.begin {w : Wait I V} (h : w.CallsOnce polling r) {m : Moment}
    {w' : Waiting I V} (hw : w.begin m = .more w') : w'.GivesWay polling r m.now := by
  have hbegun : (⟨w, m.now, .pausing 0 m.now⟩ : Waiting I V).GivesWay polling r m.now := by
    refine ⟨h, ?_, nofun⟩
    rintro _ _ ⟨⟩
    exact Nat.le_add_right ..
  exact hbegun.cycle hw

/-! ### Programs -/

/-- The waits of the program are waits on the resource that call once in each attempt, and after
    them it only ends. -/
def Program.GivesWay (polling : Polling) (r : ResourceId) (late : α → Prop) :
    Program I (Except ActionError α) → Prop
  | .done _ => True
  | .call _ next => ∀ x, (next x).GivesWay polling r late
  | .look _ next => ∀ b, (next b).GivesWay polling r late
  | .wait w next => w.CallsOnce polling r ∧ Wait.Last late next

/-- So are those of the program in progress. -/
def Activity.GivesWay (polling : Polling) (r : ResourceId) (late : α → Prop) (now : Duration) :
    Activity I (Except ActionError α) → Prop
  | .ended _ => True
  | .calling _ next => ∀ x, (next x).GivesWay polling r late
  | .waiting w next => w.GivesWay polling r now ∧ Wait.Last late next

/-- The program in progress is inside such a wait or past it. -/
def Activity.Closing (polling : Polling) (r : ResourceId) (late : α → Prop) (now : Duration) :
    Activity I (Except ActionError α) → Prop
  | .ended res => ∀ a, res = .ok a → late a
  | .calling _ _ => False
  | .waiting w next => w.GivesWay polling r now ∧ Wait.Last late next

section Run

variable {late : α → Prop} {m : Moment} {now : Duration} {reply : I.Reply}

/-- What is left after the wait has ended when it is run. -/
theorem Wait.Last.run {next : Except PollError Unit → Program I (Except ActionError α)}
    (h : Wait.Last late next) (o : Except PollError Unit) (m : Moment) :
    ∃ res, (next o).run m = .ended res ∧ ∀ a, res = .ok a → late a := by
  obtain ⟨res, hres, hlate⟩ := h o
  rw [hres]
  exact ⟨res, rfl, hlate⟩

theorem Program.GivesWay.run {p : Program I (Except ActionError α)}
    (h : p.GivesWay polling r late) (m : Moment) :
    (p.run m).GivesWay polling r late m.now := by
  induction p with
  | done a => trivial
  | call q next ih => exact h
  | look r' next ih => exact ih _ (h _)
  | wait w next ih =>
    unfold Program.run
    split
    · rename_i hw
      exact ⟨h.1.begin hw, h.2⟩
    · rename_i o _
      obtain ⟨res, hres, -⟩ := h.2.run o m
      rw [hres]
      trivial

namespace Activity

variable {a : Activity I (Except ActionError α)}

theorem GivesWay.mono (h : a.GivesWay polling r late now) {later : Duration} (hn : now ≤ later) :
    a.GivesWay polling r late later := by
  cases a with
  | ended res => trivial
  | calling q next => exact h
  | waiting w next => exact ⟨h.1.mono hn, h.2⟩

theorem GivesWay.step (h : a.GivesWay polling r late now) (hn : now ≤ m.now) (reply : I.Reply) :
    (a.step m reply).GivesWay polling r late m.now := by
  cases a with
  | ended res => trivial
  | calling q next => exact (h (reply q)).run m
  | waiting w next =>
    unfold Activity.step
    dsimp only
    split
    · rename_i hw
      exact ⟨h.1.step hn hw, h.2⟩
    · rename_i o _
      obtain ⟨res, hres, -⟩ := h.2.run o m
      rw [hres]
      trivial

/-- What waits for a time is inside a wait that pauses until then. -/
theorem pausing_of_need {a : Activity I α} {due : Duration} (h : a.need = .time due) :
    ∃ w next k, a = .waiting w next ∧ w.stage = .pausing k due := by
  cases a with
  | ended res => cases h
  | calling q next => cases h
  | waiting w next =>
    have hw : w.need = .time due := h
    unfold Waiting.need at hw
    split at hw
    · rename_i k later hs
      cases hw
      exact ⟨w, next, k, rfl, hs⟩
    · cases hw

/-- What needs nothing has ended. -/
theorem ended_of_need {a : Activity I α} (h : a.need = .nothing) : ∃ res, a = .ended res := by
  cases a with
  | ended res => exact ⟨res, rfl⟩
  | calling q next => cases h
  | waiting w next =>
    have hw : w.need = .nothing := h
    unfold Waiting.need at hw
    split at hw <;> cases hw

/-- A step before the time that is waited for leaves the program as it is. -/
theorem step_early {a : Activity I α} {due : Duration} (h : a.need = .time due)
    (hd : m.now < due) (reply : I.Reply) : a.step m reply = a := by
  obtain ⟨w, next, k, rfl, hs⟩ := pausing_of_need h
  simp only [Activity.step, Waiting.step, hs, if_pos hd]

namespace Closing

theorem mono (h : a.Closing polling r late now) {later : Duration} (hn : now ≤ later) :
    a.Closing polling r late later := by
  cases a with
  | ended res => exact h
  | calling q next => exact h
  | waiting w next => exact ⟨h.1.mono hn, h.2⟩

/-- The time that is waited for comes within the interval. -/
theorem due_le (h : a.Closing polling r late now) {due : Duration} (hneed : a.need = .time due) :
    due ≤ now + polling.interval := by
  obtain ⟨w, next, k, rfl, hs⟩ := pausing_of_need hneed
  exact h.1.pause k due hs

/-- If the resource is cancelled, a step leaves nothing to be answered. -/
theorem step (h : a.Closing polling r late now) (hn : now ≤ m.now) (hc : m.cancelled r = true)
    (reply : I.Reply) :
    (a.step m reply).Closing polling r late m.now ∧ ∀ q, (a.step m reply).need ≠ .answer q := by
  cases a with
  | ended res => exact ⟨h, nofun⟩
  | calling q next => exact absurd h id
  | waiting w next =>
    obtain ⟨hw, hlast⟩ := h
    unfold Activity.step
    dsimp only
    split
    · rename_i w' hstep
      refine ⟨⟨hw.step hn hstep, hlast⟩, fun q hq => ?_⟩
      obtain ⟨due, hdue⟩ := hw.step_cancelled hc hstep
      have hq : w'.need = .answer q := hq
      rw [hdue] at hq
      cases hq
    · rename_i o _
      obtain ⟨res, hres, hlate⟩ := hlast.run o m
      rw [hres]
      exact ⟨hlate, nofun⟩

/-- If the resource is cancelled, the program has ended after the pause. -/
theorem step_late (h : a.Closing polling r late now) {due : Duration}
    (hneed : a.need = .time due) (hd : due ≤ m.now) (hc : m.cancelled r = true)
    (reply : I.Reply) : ∃ res, a.step m reply = .ended res := by
  obtain ⟨w, next, k, rfl, hs⟩ := pausing_of_need hneed
  obtain ⟨hw, hlast⟩ := h
  obtain ⟨res, hres, -⟩ := hlast.run (.error .cancelled) m
  refine ⟨res, ?_⟩
  simp only [Activity.step, Waiting.step, hs, if_neg (Nat.not_lt.mpr hd), Waiting.cycle,
    hw.wait.resource, if_pos hc, hres]

end Closing

end Activity

end Run

/-! ### Actions -/

/-- One program after another, where the second only ends after a wait of the first. -/
theorem Program.GivesWay.bind {late : α → Prop} {late' : β → Prop}
    {p : Program I (Except ActionError α)}
    {f : Except ActionError α → Program I (Except ActionError β)}
    (h : p.GivesWay polling r late) (hf : ∀ res, (f res).GivesWay polling r late')
    (herror : ∀ e, f (.error e) = .done (.error e))
    (hlate : ∀ a, late a → ∃ res, f (.ok a) = .done res ∧ ∀ b, res = .ok b → late' b) :
    (p >>= f).GivesWay polling r late' := by
  induction p with
  | done res => exact hf res
  | call q next ih => exact fun x => ih x (h x)
  | look r' next ih => exact fun b => ih b (h b)
  | wait w next ih =>
    obtain ⟨hw, hlast⟩ := h
    refine ⟨hw, fun o => ?_⟩
    obtain ⟨res, hres, hl⟩ := hlast o
    dsimp only
    rw [hres]
    cases res with
    | ok a => exact hlate a (hl a rfl)
    | error e => exact ⟨_, herror e, nofun⟩

namespace Action

variable {late : α → Prop} {late' : β → Prop}

/-- The action gives way to cancels of the resource, and every value after a wait is one of
    `late`. -/
def GivesWay (polling : Polling) (r : ResourceId) (late : α → Prop)
    (x : Action ActionError α) : Prop :=
  x.run.GivesWay polling r late

theorem givesWay_pure (a : α) : GivesWay polling r late (pure a : Action ActionError α) := trivial

theorem givesWay_throw (e : ActionError) :
    GivesWay polling r late (throw e : Action ActionError α) := trivial

theorem givesWay_ask (q : Call) (late : Except CollaboratorError q.Value → Prop) :
    GivesWay polling r late (q.ask : Action ActionError _) :=
  fun _ => trivial

theorem givesWay_orFail (q : Call) (late : q.Value → Prop) : GivesWay polling r late q.orFail :=
  fun _ => trivial

theorem givesWay_wait {w : Wait Collaborators Unit} (h : w.CallsOnce polling r) :
    GivesWay polling r (fun _ => True) w.orFail :=
  ⟨h, fun _ => ⟨_, rfl, fun _ _ => trivial⟩⟩

theorem GivesWay.bind {x : Action ActionError α} {f : α → Action ActionError β}
    (h : GivesWay polling r late x) (hf : ∀ a, GivesWay polling r late' (f a))
    (hlate : ∀ a, late a → ∃ b, f a = pure b ∧ late' b) : GivesWay polling r late' (x >>= f) := by
  refine Program.GivesWay.bind (p := x.run) h ?_ (fun e => rfl) ?_
  · intro res
    cases res with
    | ok a => exact hf a
    | error e => trivial
  · intro a ha
    obtain ⟨b, hb, hl⟩ := hlate a ha
    refine ⟨.ok b, ?_, fun _ hb' => Except.ok.inj hb' ▸ hl⟩
    show (f a).run = _
    rw [hb]
    rfl

/-- An action without waits, and what is done after it. -/
theorem GivesWay.andThen {x : Action ActionError α} {f : α → Action ActionError β}
    (h : GivesWay polling r (fun _ => False) x) (hf : ∀ a, GivesWay polling r late' (f a)) :
    GivesWay polling r late' (x >>= f) :=
  h.bind hf fun _ ha => absurd ha id

end Action

end ResourceFlow
