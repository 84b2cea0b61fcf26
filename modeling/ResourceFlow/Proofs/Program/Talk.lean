import ResourceFlow.Proofs.Program.Ensures
/-! # What programs say

  The talk of a program is what it asked its collaborators and what it was
  told, with the times, in order. `Program.Obeys` says that a program obeys
  rules, given what was said before: each of its calls is allowed by what was
  said up to then, and its result fits everything that was said. For a wait
  there is an invariant of the talk that each attempt keeps.

  Rules speak of calls and answers only. What holds of a program in progress,
  and of what it says in one step, follows by running it
  (`Program.Obeys.run`, `Activity.Obeys.step`). For actions, the judgment is
  put together from their parts (`Action.Obeys`).
-/

namespace ResourceFlow

variable {I : Interface} {α β V : Type}

/-! ### Talk -/

/-- One line of the talk between a program and its collaborators. -/
inductive Entry (I : Interface) where
  /-- A call is made. -/
  | asked (now : Duration) (q : I.Call)
  /-- A call is answered. -/
  | told (now : Duration) (q : I.Call) (x : I.Answer q)

/-- The call that a line is about. -/
def Entry.call : Entry I → I.Call
  | .asked _ q => q
  | .told _ q _ => q

/-- What was asked and told, in order. -/
abbrev Talk (I : Interface) : Type := List (Entry I)

/-- What is said by coming to need this. -/
def Need.asked (now : Duration) : Need I → Talk I
  | .answer q => [.asked now q]
  | _ => []

/-- What is said by being given what is needed. -/
def Need.told (now : Duration) (reply : I.Reply) : Need I → Talk I
  | .answer q => [.told now q (reply q)]
  | _ => []

/-! ### Rules -/

/-- What programs are held to. -/
structure Rules (I : Interface) where
  /-- Which resources may be seen to be cancelled. -/
  seen : ResourceId → Prop
  /-- After which talk a call is allowed. -/
  allows : Talk I → I.Call → Prop

/-- Every call is allowed when it is made, and every result is one of `Q`, given what was said
    before and whatever is said from now on. -/
def Procedure.Obeys (R : Rules I) (Q : Duration → Talk I → α → Prop) :
    Procedure I α → Duration → Talk I → Prop
  | .done a, now, h => Q now h a
  | .call q next, now, h => R.allows h q ∧
      ∀ later x, (next x).Obeys R Q later (h ++ [.asked now q] ++ [.told later q x])
  | .look r next, now, h => ∀ b, (b = true → R.seen r) → (next b).Obeys R Q now h

namespace Wait

/-- What the outcome of an attempt must fit: `J` if the wait goes on, `K` if it is over. -/
def Settles (w : Wait I V) (started : Duration) (J : Talk I → Prop)
    (K : Except PollError V → Duration → Talk I → Prop) (now : Duration) (h : Talk I)
    (x : Except String (Attempt V)) : Prop :=
  match w.polling.after (now - started) x with
  | .stop o => K o now h
  | .pause _ => J h

/-- The wait keeps the invariant `J`, which speaks of the number of the next attempt, until it is
    over with `K`. -/
structure Keeps (R : Rules I) (w : Wait I V) (started : Duration) (J : Nat → Talk I → Prop)
    (K : Except PollError V → Duration → Talk I → Prop) : Prop where
  /-- It may be over because it was cancelled. -/
  cancelled : ∀ k now h, J k h → R.seen w.resource → K (.error .cancelled) now h
  /-- Each attempt keeps the invariant or settles the wait; the first is made when the wait
      begins. -/
  attempt : ∀ k now h, J k h → (k = 0 → now = started) →
    (w.attempt k).Obeys R (w.Settles started (J (k + 1)) K) now h

variable {w : Wait I V} {started : Duration} {J : Talk I → Prop}
  {K : Except PollError V → Duration → Talk I → Prop} {now : Duration} {h : Talk I}

/-! What each outcome of an attempt must fit. -/

theorem settles_again
    (hK : w.polling.timeout ≤ now - started → K (.error (.timeout w.polling.timeout)) now h)
    (hJ : J h) : w.Settles started J K now h (.ok .again) := by
  unfold Settles Polling.after Polling.carryOn
  dsimp only
  by_cases ht : w.polling.timeout ≤ now - started
  · rw [if_pos ht]
    exact hK ht
  · rw [if_neg ht]
    exact hJ

theorem settles_finish {v : V} (hK : K (.ok v) now h) :
    w.Settles started J K now h (.ok (.finish v)) := hK

theorem settles_giveUp {reason : AbortReason} (hK : K (.error (.aborted reason)) now h) :
    w.Settles started J K now h (.ok (.giveUp reason)) := hK

/-- An attempt that failed ends the wait, if that is the policy, or counts like one that settled
    nothing. -/
theorem settles_error {message : String}
    (hA : w.polling.stopOnError = true → K (.error (.aborted ⟨.attemptError, message⟩)) now h)
    (hK : w.polling.timeout ≤ now - started → K (.error (.timeout w.polling.timeout)) now h)
    (hJ : J h) : w.Settles started J K now h (.error message) := by
  cases hs : w.polling.stopOnError with
  | true =>
    unfold Settles Polling.after
    simp only [hs, if_true]
    exact hA hs
  | false =>
    have hagain := settles_again (V := V) hK hJ
    unfold Settles Polling.after at hagain ⊢
    simpa only [hs, Bool.false_eq_true, if_false] using hagain

end Wait

@[inherit_doc Procedure.Obeys]
def Program.Obeys (R : Rules I) (Q : Duration → Talk I → α → Prop) :
    Program I α → Duration → Talk I → Prop
  | .done a, now, h => Q now h a
  | .call q next, now, h => R.allows h q ∧
      ∀ later x, (next x).Obeys R Q later (h ++ [.asked now q] ++ [.told later q x])
  | .look r next, now, h => ∀ b, (b = true → R.seen r) → (next b).Obeys R Q now h
  | .wait w next, now, h => ∃ J, J 0 h ∧
      w.Keeps R now J fun o later h' => (next o).Obeys R Q later h'

/-! ### In progress -/

/-- The wait goes on to keep its invariant, after what was said so far. -/
def Waiting.Obeys (R : Rules I) (K : Except PollError V → Duration → Talk I → Prop)
    (w : Waiting I V) (h : Talk I) : Prop :=
  ∃ J, w.wait.Keeps R w.started J K ∧
    match w.stage with
    | .pausing k _ => k ≠ 0 ∧ J k h
    | .calling k q next => ∀ later x,
        (next x).Obeys R (w.wait.Settles w.started (J (k + 1)) K) later (h ++ [.told later q x])

/-- The program goes on to obey, after what was said so far. -/
def Activity.Obeys (R : Rules I) (Q : Duration → Talk I → α → Prop) :
    Activity I α → Talk I → Prop
  | .ended a, h => ∃ now, Q now h a
  | .calling q next, h => ∀ later x, (next x).Obeys R Q later (h ++ [.told later q x])
  | .waiting w next, h => w.Obeys R (fun o later h' => (next o).Obeys R Q later h') h

/-- A step that leaves the program so obeys: with a call that it makes, if that is allowed. -/
structure Activity.Follows (R : Rules I) (Q : Duration → Talk I → α → Prop) (now : Duration)
    (h : Talk I) (a : Activity I α) : Prop where
  /-- It goes on to obey after what it asks. -/
  obeys : a.Obeys R Q (h ++ a.need.asked now)
  /-- What it asks is allowed. -/
  allowed : ∀ q, a.need = .answer q → R.allows h q

/-- A step of a wait obeys. -/
def Waiting.Follows (R : Rules I) (K : Except PollError V → Duration → Talk I → Prop)
    (now : Duration) (h : Talk I) : Progress (Waiting I V) (Except PollError V) → Prop
  | .more w => w.Obeys R K (h ++ w.need.asked now) ∧ ∀ q, w.need = .answer q → R.allows h q
  | .result o => K o now h

section Run

variable {R : Rules I}

theorem Procedure.Obeys.goOn {K : Except PollError V → Duration → Talk I → Prop}
    {J : Nat → Talk I → Prop} {w : Waiting I V} {m : Moment}
    (hkeep : w.wait.Keeps R w.started J K) (hseen : ∀ r, m.cancelled r = true → R.seen r) (k : Nat)
    {rest : Procedure I (Except String (Attempt V))} {h : Talk I}
    (hrest : rest.Obeys R (w.wait.Settles w.started (J (k + 1)) K) m.now h) :
    Waiting.Follows R K m.now h (w.goOn m k rest) := by
  -- On what is left of the attempt, up to its next call.
  induction rest with
  | done x =>
    have hx : w.wait.Settles w.started (J (k + 1)) K m.now h x := hrest
    unfold Wait.Settles at hx
    unfold Waiting.goOn Procedure.run
    dsimp only
    cases ha : w.wait.polling.after (m.now - w.started) x with
    | stop o =>
      rw [ha] at hx
      exact hx
    | pause d =>
      rw [ha] at hx
      refine ⟨⟨J, hkeep, Nat.succ_ne_zero k, ?_⟩, fun q hq => by cases hq⟩
      show J (k + 1) (h ++ [])
      rw [List.append_nil]
      exact hx
  | call q next _ =>
    refine ⟨⟨J, hkeep, hrest.2⟩, ?_⟩
    intro q' hq
    cases hq
    exact hrest.1
  | look r next ih => exact ih _ (hrest _ (hseen r))

theorem Waiting.follows_cycle {K : Except PollError V → Duration → Talk I → Prop}
    {J : Nat → Talk I → Prop} {w : Waiting I V} {m : Moment}
    (hkeep : w.wait.Keeps R w.started J K) (hseen : ∀ r, m.cancelled r = true → R.seen r) {k : Nat}
    {h : Talk I} (hJ : J k h) (hk : k = 0 → m.now = w.started) :
    Waiting.Follows R K m.now h (w.cycle m k) := by
  unfold cycle
  split
  · exact hkeep.cancelled k _ h hJ (hseen _ ‹_›)
  · exact (hkeep.attempt k m.now h hJ hk).goOn hkeep hseen k

/-- One step of a wait, with what it is told and what it asks. -/
theorem Waiting.Obeys.step {K : Except PollError V → Duration → Talk I → Prop}
    {w : Waiting I V} {h : Talk I} (hw : w.Obeys R K h) (m : Moment)
    (hseen : ∀ r, m.cancelled r = true → R.seen r) (reply : I.Reply) :
    Waiting.Follows R K m.now (h ++ w.need.told m.now reply) (w.step m reply) := by
  obtain ⟨J, hkeep, hstage⟩ := hw
  unfold Waiting.step Waiting.need
  cases hs : w.stage with
  | pausing k due =>
    rw [hs] at hstage
    obtain ⟨hk, hJ⟩ : k ≠ 0 ∧ J k h := hstage
    dsimp only [Need.told]
    rw [List.append_nil]
    split
    · -- The pause is not over.
      have hneed : w.need = .time due := by rw [Waiting.need, hs]
      refine ⟨⟨J, hkeep, ?_⟩, fun q hq => by rw [hneed] at hq; cases hq⟩
      rw [hs, hneed]
      rw [show Need.asked m.now (Need.time due) = ([] : Talk I) from rfl, List.append_nil]
      exact ⟨hk, hJ⟩
    · exact Waiting.follows_cycle hkeep hseen hJ fun hk' => absurd hk' hk
  | calling k q next =>
    rw [hs] at hstage
    exact (hstage m.now (reply q)).goOn hkeep hseen k

/-- Running a program up to the point at which it has to wait obeys. -/
theorem Program.Obeys.run {Q : Duration → Talk I → α → Prop} {p : Program I α} (m : Moment)
    (hseen : ∀ r, m.cancelled r = true → R.seen r) {h : Talk I} (hp : p.Obeys R Q m.now h) :
    (p.run m).Follows R Q m.now h := by
  induction p with
  | done a =>
    refine ⟨⟨m.now, ?_⟩, nofun⟩
    show Q m.now (h ++ []) a
    rw [List.append_nil]
    exact hp
  | call q next _ =>
    refine ⟨hp.2, ?_⟩
    intro q' hq
    cases hq
    exact hp.1
  | look r next ih => exact ih _ (hp _ (hseen r))
  | wait w next ih =>
    obtain ⟨J, hJ, hkeep⟩ := hp
    have hbegin := Waiting.follows_cycle
      (w := { wait := w, started := m.now, stage := .pausing 0 m.now }) hkeep hseen hJ fun _ => rfl
    unfold Program.run Wait.begin
    cases hc : Waiting.cycle { wait := w, started := m.now, stage := .pausing 0 m.now } m 0 with
    | more w' =>
      rw [hc] at hbegin
      exact ⟨hbegin.1, hbegin.2⟩
    | result o =>
      rw [hc] at hbegin
      exact ih o hbegin

/-- One step of a program, with what it is told and what it asks. -/
theorem Activity.Obeys.step {Q : Duration → Talk I → α → Prop} {a : Activity I α} {h : Talk I}
    (ha : a.Obeys R Q h) (m : Moment) (hseen : ∀ r, m.cancelled r = true → R.seen r)
    (reply : I.Reply) :
    (a.step m reply).Follows R Q m.now (h ++ a.need.told m.now reply) := by
  cases a with
  | ended r =>
    obtain ⟨now, hr⟩ := ha
    refine ⟨⟨now, ?_⟩, nofun⟩
    show Q now (h ++ [] ++ []) r
    rw [List.append_nil, List.append_nil]
    exact hr
  | calling q next => exact (ha m.now (reply q)).run m hseen
  | waiting w next =>
    have hstep := Waiting.Obeys.step ha m hseen reply
    unfold Activity.step
    dsimp only [Activity.need]
    cases hs : w.step m reply with
    | more w' =>
      rw [hs] at hstep
      exact ⟨hstep.1, hstep.2⟩
    | result o =>
      rw [hs] at hstep
      exact Program.Obeys.run m hseen hstep

end Run

/-! ### Putting programs together -/

section Bind

variable {R : Rules I}

theorem Procedure.Obeys.mono {P Q : Duration → Talk I → α → Prop} {p : Procedure I α}
    {now : Duration} {h : Talk I} (hp : p.Obeys R P now h)
    (hPQ : ∀ now h a, P now h a → Q now h a) : p.Obeys R Q now h := by
  induction p generalizing now h with
  | done a => exact hPQ _ _ _ hp
  | call q next ih => exact ⟨hp.1, fun later x => ih x (hp.2 later x)⟩
  | look r next ih => exact fun b hb => ih b (hp b hb)

theorem Wait.Keeps.mono {w : Wait I V} {started : Duration} {J : Nat → Talk I → Prop}
    {K K' : Except PollError V → Duration → Talk I → Prop} (hk : w.Keeps R started J K)
    (hKK : ∀ o now h, K o now h → K' o now h) : w.Keeps R started J K' where
  cancelled k now h hJ hr := hKK _ _ _ (hk.cancelled k now h hJ hr)
  attempt k now h hJ hk' := by
    refine (hk.attempt k now h hJ hk').mono ?_
    intro later h' x hx
    unfold Wait.Settles at hx ⊢
    cases ha : w.polling.after (later - started) x with
    | stop o =>
      rw [ha] at hx
      exact hKK _ _ _ hx
    | pause d =>
      rw [ha] at hx
      exact hx

theorem Program.Obeys.mono {P Q : Duration → Talk I → α → Prop} {p : Program I α}
    {now : Duration} {h : Talk I} (hp : p.Obeys R P now h)
    (hPQ : ∀ now h a, P now h a → Q now h a) : p.Obeys R Q now h := by
  induction p generalizing now h with
  | done a => exact hPQ _ _ _ hp
  | call q next ih => exact ⟨hp.1, fun later x => ih x (hp.2 later x)⟩
  | look r next ih => exact fun b hb => ih b (hp b hb)
  | wait w next ih =>
    obtain ⟨J, hJ, hkeep⟩ := hp
    exact ⟨J, hJ, hkeep.mono fun o _ _ ho => ih o ho⟩

/-- One program after another obeys if the second does wherever the first leads. -/
theorem Program.Obeys.bind {Q : Duration → Talk I → β → Prop} {p : Program I α}
    {f : α → Program I β} {now : Duration} {h : Talk I}
    (hp : p.Obeys R (fun now h a => (f a).Obeys R Q now h) now h) :
    (p >>= f).Obeys R Q now h := by
  induction p generalizing now h with
  | done a => exact hp
  | call q next ih => exact ⟨hp.1, fun later x => ih x (hp.2 later x)⟩
  | look r next ih => exact fun b hb => ih b (hp b hb)
  | wait w next ih =>
    obtain ⟨J, hJ, hkeep⟩ := hp
    exact ⟨J, hJ, hkeep.mono fun o _ _ ho => ih o ho⟩

end Bind

/-! ### Actions -/

namespace Action

variable {ε ε' : Type} {R : Rules Collaborators} {now : Duration} {h : Talk Collaborators}

/-- The action obeys: its values and its errors fit everything that was said. -/
def Obeys (R : Rules Collaborators) (Q : Duration → Talk Collaborators → Except ε α → Prop)
    (x : Action ε α) (now : Duration) (h : Talk Collaborators) : Prop := x.run.Obeys R Q now h

theorem Obeys.mono {P Q : Duration → Talk Collaborators → Except ε α → Prop} {x : Action ε α}
    (hx : Obeys R P x now h) (hPQ : ∀ now h r, P now h r → Q now h r) : Obeys R Q x now h :=
  Program.Obeys.mono hx hPQ

theorem obeys_pure {Q : Duration → Talk Collaborators → Except ε α → Prop} {a : α}
    (hq : Q now h (.ok a)) : Obeys R Q (pure a) now h := hq

theorem obeys_throw {Q : Duration → Talk Collaborators → Except ε α → Prop} {e : ε}
    (hq : Q now h (.error e)) : Obeys R Q (throw e : Action ε α) now h := hq

/-- One action after another: an error of the first is the outcome of both. -/
theorem Obeys.bind {Q : Duration → Talk Collaborators → Except ε β → Prop} {x : Action ε α}
    {f : α → Action ε β}
    (hx : Obeys R (fun now h r => match r with
      | .ok a => Obeys R Q (f a) now h
      | .error e => Q now h (.error e)) x now h) : Obeys R Q (x >>= f) now h := by
  refine Program.Obeys.bind (p := x.run) (hx.mono ?_)
  intro now h r hr
  cases r with
  | ok a => exact hr
  | error e => exact hr

/-- A call, whatever is answered. -/
theorem obeys_ask {q : Call}
    {Q : Duration → Talk Collaborators → Except ε (Except CollaboratorError q.Value) → Prop}
    (hq : R.allows h q)
    (hx : ∀ later x, Q later (h ++ [.asked now q] ++ [.told later q x]) (.ok x)) :
    Obeys R Q q.ask now h := ⟨hq, hx⟩

/-- A call whose failure is raised. -/
theorem obeys_orRaise {q : Call} {raise : CollaboratorError → ε}
    {Q : Duration → Talk Collaborators → Except ε q.Value → Prop} (hq : R.allows h q)
    (hx : ∀ later (x : Except CollaboratorError q.Value),
      Q later (h ++ [.asked now q] ++ [.told later q x]) (x.mapError raise)) :
    Obeys R Q (q.orRaise raise) now h := ⟨hq, hx⟩

/-- An action whose errors are put into other words. -/
theorem obeys_adapt {Q : Duration → Talk Collaborators → Except ε' α → Prop} {x : Action ε α}
    {f : ε → ε'} (hx : Obeys R (fun now h r => Q now h (r.mapError f)) x now h) :
    Obeys R Q (ExceptT.adapt f x : Action ε' α) now h :=
  Program.Obeys.bind (p := x.run) hx

/-- A wait whose failure is raised. -/
theorem obeys_wait {w : Wait Collaborators Unit}
    {Q : Duration → Talk Collaborators → Except ActionError Unit → Prop}
    {J : Nat → Talk Collaborators → Prop} (hJ : J 0 h)
    (hkeep : w.Keeps R now J fun o later h => Q later h (o.mapError .poll)) :
    Obeys R Q w.orFail now h := ⟨J, hJ, hkeep⟩

end Action

end ResourceFlow
