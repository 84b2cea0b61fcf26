import ResourceFlow.Program.Run
/-! # When a wait looks, tries and ends

  A wait is carried on at moments that others choose (`Passage`): steps may
  come before a pause is over, and timers may go off late. Where time does not
  go back (`Passage.Forward`) and timers go off when they are due
  (`Wait.Punctual`), its course is a matter of what it meets: of answers,
  cancellations and the time that calls take (`Surroundings`).

  A wait runs in cycles: it looks whether it is cancelled, and if it is not, an
  attempt begins at once. `Wait.Comes` says which cycles come, in which step
  and at what time after the start of the wait, and `Wait.Ends` how and when
  the wait ends. Neither mentions how a wait is run:

  - the first cycle comes at time zero;
  - after an attempt that settled nothing, within the time limit, the next
    cycle comes when the interval or the time limit is over, whichever is
    first;
  - the wait ends with the first look that notices a cancellation, with an
    attempt that settles it, or with one that settles nothing and ends at the
    time limit or after it.

  The main result is `Wait.keeps_time`: with punctual timers every wait does
  just this, whatever it meets. `Wait.record` is its course told by what it
  meets alone. The induction behind the result is on the calls of an attempt
  (`Wait.record_of_runs`), and every passage with punctual timers is such a
  course (`Wait.along_eq_record`).
-/

namespace ResourceFlow

variable {I : Interface} {V α : Type}

/-! ### What a wait does -/

/-- What a wait does, at a time counted from its start. -/
inductive Deed (V : Type) where
  /-- It looks whether it is cancelled. -/
  | looks (time : Duration) (cancelled : Bool)
  /-- Attempt `k` begins. -/
  | begins (k : Nat) (time : Duration)
  /-- Attempt `k` ends. -/
  | ends (k : Nat) (time : Duration) (outcome : Except String (Attempt V))

namespace Waiting

/-- Goes on with the rest of attempt `k`, and notes whether it ends. -/
def goOnNoted (w : Waiting I V) (m : Moment) (k : Nat)
    (rest : Procedure I (Except String (Attempt V))) :
    Progress (Waiting I V) (Except PollError V) × List (Deed V) :=
  (w.goOn m k rest,
    match rest.run m with
    | .call _ _ => []
    | .done outcome => [.ends k (m.now - w.started) outcome])

/-- Begins attempt `k`, unless the wait is cancelled, and notes what is done. -/
def cycleNoted (w : Waiting I V) (m : Moment) (k : Nat) :
    Progress (Waiting I V) (Except PollError V) × List (Deed V) :=
  if m.cancelled w.wait.resource then
    (.result (.error .cancelled), [.looks (m.now - w.started) true])
  else
    let (progress, deeds) := w.goOnNoted m k (w.wait.attempt k)
    (progress, .looks (m.now - w.started) false :: .begins k (m.now - w.started) :: deeds)

/-- One step of a wait, with what is done noted. -/
def stepNoted (w : Waiting I V) (m : Moment) (reply : I.Reply) :
    Progress (Waiting I V) (Except PollError V) × List (Deed V) :=
  match w.stage with
  | .pausing k due => if m.now < due then (.more w, []) else w.cycleNoted m k
  | .calling k q next => w.goOnNoted m k (next (reply q))

theorem cycleNoted_fst (w : Waiting I V) (m : Moment) (k : Nat) :
    (w.cycleNoted m k).1 = w.cycle m k := by
  unfold cycleNoted cycle
  split <;> rfl

/-- Noting what is done changes nothing. -/
theorem stepNoted_fst (w : Waiting I V) (m : Moment) (reply : I.Reply) :
    (w.stepNoted m reply).1 = w.step m reply := by
  unfold stepNoted step
  cases w.stage with
  | pausing k due =>
    dsimp only
    split
    · rfl
    · exact cycleNoted_fst ..
  | calling k q next => rfl

/-- When the next step is due: at the end of the pause, or when the call at hand is answered. -/
def wakes (w : Waiting I V) (now takes : Duration) : Duration :=
  match w.stage with
  | .pausing _ due => due
  | .calling _ _ _ => now + takes

end Waiting

/-- Begins a wait with its first attempt, with what is done noted. -/
def Wait.beginNoted (w : Wait I V) (m : Moment) :
    Progress (Waiting I V) (Except PollError V) × List (Deed V) :=
  Waiting.cycleNoted { wait := w, started := m.now, stage := .pausing 0 m.now } m 0

theorem Wait.beginNoted_fst (w : Wait I V) (m : Moment) : (w.beginNoted m).1 = w.begin m :=
  Waiting.cycleNoted_fst ..

/-! ### A wait that is carried on -/

/-- The moments at which a wait is carried on and the answers to its calls, by the number of the
    step. -/
structure Passage (I : Interface) where
  /-- The moments. -/
  moment : Nat → Moment
  /-- The answers. -/
  reply : Nat → I.Reply

/-- Time does not go back. -/
def Passage.Forward (x : Passage I) : Prop := ∀ n, (x.moment n).now ≤ (x.moment (n + 1)).now

/-- What became of a wait so far. -/
structure Wait.Record (I : Interface) (V : Type) where
  /-- The time of the last step that carried it on. -/
  now : Duration
  /-- Where the wait stands. -/
  progress : Progress (Waiting I V) (Except PollError V)
  /-- What it did, in order. -/
  deeds : List (Deed V)

namespace Wait

/-- A wait after step `n`, when it is carried on at these moments. -/
def along (w : Wait I V) (x : Passage I) : Nat → Record I V
  | 0 =>
    let (progress, deeds) := w.beginNoted (x.moment 0)
    { now := (x.moment 0).now, progress, deeds }
  | n + 1 =>
    let y := w.along x n
    match y.progress with
    | .result _ => y
    | .more v =>
      let (progress, deeds) := v.stepNoted (x.moment (n + 1)) (x.reply (n + 1))
      { now := (x.moment (n + 1)).now, progress, deeds := y.deeds ++ deeds }

/-- The wait pauses after step `n`. -/
def Pauses (w : Wait I V) (x : Passage I) (n k : Nat) (due : Duration) : Prop :=
  ∃ v, (w.along x n).progress = .more v ∧ v.stage = .pausing k due

/-- The timers of the wait go off when they are due: the step after a pause comes just when it is
    over. -/
def Punctual (w : Wait I V) (x : Passage I) : Prop :=
  ∀ n k due, w.Pauses x n k due → (x.moment (n + 1)).now = due

/-- A wait that goes on was carried on in the last step. -/
theorem now_along {w : Wait I V} {x : Passage I} {n : Nat} {v : Waiting I V}
    (h : (w.along x n).progress = .more v) : (w.along x n).now = (x.moment n).now := by
  cases n with
  | zero => rfl
  | succ n =>
    unfold along at h ⊢
    dsimp only at h ⊢
    split at h
    · next hr => exact nomatch hr.symm.trans h
    · rfl

end Wait

/-! ### What a wait meets -/

/-- What a wait meets, by the number of its step. -/
structure Surroundings (I : Interface) where
  /-- Which resources are cancelled. -/
  cancelled : Nat → ResourceId → Bool
  /-- How long the call that is answered has taken. -/
  takes : Nat → Duration
  /-- The answers. -/
  reply : Nat → I.Reply

/-- What can be seen in step `n`. -/
def Surroundings.moment (s : Surroundings I) (n : Nat) (now : Duration) : Moment where
  now := now
  cancelled := s.cancelled n

/-- What is met on a passage. A call has taken the time since the step before. -/
def Passage.surroundings (x : Passage I) : Surroundings I where
  cancelled n := (x.moment n).cancelled
  takes
    | 0 => 0
    | n + 1 => (x.moment (n + 1)).now - (x.moment n).now
  reply := x.reply

/-- A wait that begins at time `start`, up to step `n`. A timer goes off when it is due. -/
def Wait.record (w : Wait I V) (s : Surroundings I) (start : Duration) : Nat → Wait.Record I V
  | 0 =>
    let (progress, deeds) := w.beginNoted (s.moment 0 start)
    { now := start, progress, deeds }
  | n + 1 =>
    let x := w.record s start n
    match x.progress with
    | .result _ => x
    | .more v =>
      let now := v.wakes x.now (s.takes (n + 1))
      let (progress, deeds) := v.stepNoted (s.moment (n + 1) now) (s.reply (n + 1))
      { now, progress, deeds := x.deeds ++ deeds }

/-! ### The timed specification -/

/-- A procedure that goes on in step `n` at time `t` ends in step `n'` at time `t'` with this
    result. -/
inductive Procedure.Runs (s : Surroundings I) :
    Nat → Duration → Procedure I α → Nat → Duration → α → Prop where
  /-- It ends in the same step. -/
  | done {n : Nat} {t : Duration} {p : Procedure I α} {a : α}
      (h : p.run (s.moment n t) = .done a) : Runs s n t p n t a
  /-- It makes a call and goes on when that is answered. -/
  | call {n n' : Nat} {t t' : Duration} {p : Procedure I α} {a : α} {q : I.Call}
      {next : I.Answer q → Procedure I α} (h : p.run (s.moment n t) = .call q next)
      (hr : Runs s (n + 1) (t + s.takes (n + 1)) (next (s.reply (n + 1) q)) n' t' a) :
      Runs s n t p n' t' a

/-- The outcome of an attempt after which a wait goes on while there is time: not there yet, or an
    error, unless errors end the wait. -/
def Polling.Unsettled (p : Polling) (outcome : Except String (Attempt V)) : Prop :=
  outcome = .ok .again ∨ ∃ message, outcome = .error message ∧ p.stopOnError = false

/-- What is done in a cycle whose attempt ends. -/
def Deed.cycle (k : Nat) (t e : Duration) (outcome : Except String (Attempt V)) : List (Deed V) :=
  [.looks t false, .begins k t, .ends k e outcome]

/-- In step `n`, at time `t` after the start, cycle `k` comes, after what was done before it. -/
inductive Wait.Comes (w : Wait I V) (s : Surroundings I) (start : Duration) :
    Nat → Duration → Nat → List (Deed V) → Prop where
  /-- The first cycle comes at once. -/
  | first : Comes w s start 0 0 0 []
  /-- An attempt that settled nothing ends in time, and the next cycle comes after the interval or
      at the time limit. -/
  | next {n n' k : Nat} {t e : Duration} {before : List (Deed V)}
      {outcome : Except String (Attempt V)} (h : Comes w s start n t k before)
      (hc : s.cancelled n w.resource = false)
      (hr : (w.attempt k).Runs s n (start + t) n' (start + e) outcome)
      (ho : w.polling.Unsettled outcome) (he : e < w.polling.timeout) :
      Comes w s start (n' + 1) (min (e + w.polling.interval) w.polling.timeout) (k + 1)
        (before ++ Deed.cycle k t e outcome)

/-- The attempt of a cycle, not cancelled, ends in step `n'` at time `e` after the start. -/
structure Wait.Tries (w : Wait I V) (s : Surroundings I) (start : Duration) (n' : Nat)
    (e : Duration) (outcome : Except String (Attempt V)) (deeds : List (Deed V)) : Prop where
  /-- The cycle came, and was not cancelled. -/
  tried : ∃ n t k before, w.Comes s start n t k before ∧ s.cancelled n w.resource = false ∧
    (w.attempt k).Runs s n (start + t) n' (start + e) outcome ∧
    deeds = before ++ Deed.cycle k t e outcome

/-- The wait ends in step `n`, at time `t` after the start, after what was done. -/
inductive Wait.Ends (w : Wait I V) (s : Surroundings I) (start : Duration) :
    Nat → Duration → List (Deed V) → Except PollError V → Prop where
  /-- A look notices a cancellation, and the attempt does not begin. -/
  | cancelled {n k : Nat} {t : Duration} {before : List (Deed V)}
      (h : w.Comes s start n t k before) (hc : s.cancelled n w.resource = true) :
      Ends w s start n t (before ++ [.looks t true]) (.error .cancelled)
  /-- An attempt finishes, be it late. -/
  | finished {n : Nat} {e : Duration} {v : V} {deeds : List (Deed V)}
      (h : w.Tries s start n e (.ok (.finish v)) deeds) : Ends w s start n e deeds (.ok v)
  /-- An attempt gives up, be it late. -/
  | gaveUp {n : Nat} {e : Duration} {reason : AbortReason} {deeds : List (Deed V)}
      (h : w.Tries s start n e (.ok (.giveUp reason)) deeds) :
      Ends w s start n e deeds (.error (.aborted reason))
  /-- An attempt fails, be it late, and errors end the wait. -/
  | failed {n : Nat} {e : Duration} {message : String} {deeds : List (Deed V)}
      (h : w.Tries s start n e (.error message) deeds) (hs : w.polling.stopOnError = true) :
      Ends w s start n e deeds (.error (.aborted ⟨.attemptError, message⟩))
  /-- An attempt settled nothing, and time is over. -/
  | timedOut {n : Nat} {e : Duration} {outcome : Except String (Attempt V)}
      {deeds : List (Deed V)} (h : w.Tries s start n e outcome deeds)
      (ho : w.polling.Unsettled outcome) (he : w.polling.timeout ≤ e) :
      Ends w s start n e deeds (.error (.timeout w.polling.timeout))

/-- How a wait stands after step `m`. -/
inductive Wait.Stands (w : Wait I V) (s : Surroundings I) (start : Duration) (m : Nat) :
    Wait.Record I V → Prop where
  /-- The attempt of a cycle waits for an answer. -/
  | trying {n n' k : Nat} {t e now : Duration} {before : List (Deed V)}
      {outcome : Except String (Attempt V)} {q : I.Call}
      {next : I.Answer q → Procedure I (Except String (Attempt V))}
      (h : w.Comes s start n t k before) (hc : s.cancelled n w.resource = false)
      (hr : (w.attempt k).Runs s n (start + t) n' (start + e) outcome) (hn : n ≤ m) (hm : m < n') :
      Stands w s start m
        ⟨now, .more ⟨w, start, .calling k q next⟩, before ++ [.looks t false, .begins k t]⟩
  /-- The attempt of a cycle settled nothing in time, and the wait pauses. -/
  | pausing {n k : Nat} {t e : Duration} {before : List (Deed V)}
      {outcome : Except String (Attempt V)} (h : w.Comes s start n t k before)
      (hc : s.cancelled n w.resource = false)
      (hr : (w.attempt k).Runs s n (start + t) m (start + e) outcome)
      (ho : w.polling.Unsettled outcome) (he : e < w.polling.timeout) :
      Stands w s start m
        ⟨start + e,
          .more ⟨w, start, .pausing (k + 1)
            (start + min (e + w.polling.interval) w.polling.timeout)⟩,
          before ++ Deed.cycle k t e outcome⟩
  /-- The wait is over. -/
  | done {n : Nat} {t : Duration} {deeds : List (Deed V)} {result : Except PollError V}
      (h : w.Ends s start n t deeds result) (hn : n ≤ m) :
      Stands w s start m ⟨start + t, .result result, deeds⟩

/-! ### Attempts end -/

namespace Procedure

variable {s : Surroundings I} {n n' : Nat} {t t' : Duration}

/-- A look at the beginning takes no time. -/
theorem Runs.look {r : ResourceId} {next : Bool → Procedure I α} {a : α}
    (h : Runs s n t (next (s.cancelled n r)) n' t' a) : Runs s n t (.look r next) n' t' a := by
  cases h with
  | done h => exact .done h
  | call h hr => exact .call h hr

theorem Runs.le {p : Procedure I α} {a : α} (h : Runs s n t p n' t' a) : n ≤ n' ∧ t ≤ t' := by
  induction h with
  | done => exact ⟨Nat.le_refl _, Nat.le_refl _⟩
  | call _ _ ih => exact ⟨Nat.le_of_succ_le ih.1, Nat.le_trans (Nat.le_add_right ..) ih.2⟩

/-- Every procedure ends. -/
theorem exists_runs (s : Surroundings I) (p : Procedure I α) (n : Nat) (t : Duration) :
    ∃ n' t' a, p.Runs s n t n' t' a := by
  induction p generalizing n t with
  | done a => exact ⟨n, t, a, .done rfl⟩
  | call q next ih =>
    obtain ⟨n', t', a, h⟩ := ih (s.reply (n + 1) q) (n + 1) (t + s.takes (n + 1))
    exact ⟨n', t', a, .call rfl h⟩
  | look r next ih =>
    obtain ⟨n', t', a, h⟩ := ih (s.cancelled n r) n t
    exact ⟨n', t', a, h.look⟩

end Procedure

/-! ### What a wait does after an attempt -/

namespace Polling

variable {p : Polling} {elapsed : Duration} {outcome : Except String (Attempt V)}

/-- An attempt that settled nothing ends a wait whose time is over. -/
theorem after_of_late (ho : p.Unsettled outcome) (he : p.timeout ≤ elapsed) :
    p.after elapsed outcome = .stop (.error (.timeout p.timeout)) := by
  obtain rfl | ⟨message, rfl, hs⟩ := ho
  · simp [after, carryOn, he]
  · simp [after, carryOn, he, hs]

/-- After an attempt that settled nothing within the time limit there is a pause. -/
theorem after_of_early (ho : p.Unsettled outcome) (he : elapsed < p.timeout) :
    p.after elapsed outcome = .pause (min p.interval (p.timeout - elapsed)) := by
  have he : ¬p.timeout ≤ elapsed := Nat.not_le.mpr he
  obtain rfl | ⟨message, rfl, hs⟩ := ho
  · simp [after, carryOn, he]
  · simp [after, carryOn, he, hs]

end Polling

/-- A pause lasts until the interval or the time limit is over. -/
theorem pause_ends (start e interval timeout : Nat) (he : e < timeout) :
    start + e + min interval (timeout - e) = start + min (e + interval) timeout := by
  omega

/-- Where a wait stands after attempt `k`, ended at time `e` after the start. -/
def Wait.settled (w : Wait I V) (start : Duration) (k : Nat) (e : Duration)
    (outcome : Except String (Attempt V)) : Progress (Waiting I V) (Except PollError V) :=
  match w.polling.after e outcome with
  | .stop result => .result result
  | .pause d => .more ⟨w, start, .pausing (k + 1) (start + e + d)⟩

namespace Wait

variable {w : Wait I V} {s : Surroundings I} {start : Duration}

theorem settled_of_early {k : Nat} {e : Duration} {outcome : Except String (Attempt V)}
    (ho : w.polling.Unsettled outcome) (he : e < w.polling.timeout) :
    w.settled start k e outcome = .more ⟨w, start,
      .pausing (k + 1) (start + min (e + w.polling.interval) w.polling.timeout)⟩ := by
  simp only [settled, Polling.after_of_early ho he, pause_ends start e _ _ he]

/-- After an attempt the wait pauses, or is over. -/
theorem settled_cases {n : Nat} {k : Nat} {e : Duration} {outcome : Except String (Attempt V)}
    {deeds : List (Deed V)} (h : w.Tries s start n e outcome deeds) :
    (w.polling.Unsettled outcome ∧ e < w.polling.timeout) ∨
      ∃ result, w.settled start k e outcome = .result result ∧ w.Ends s start n e deeds result := by
  have unsettled (ho : w.polling.Unsettled outcome) :
      (w.polling.Unsettled outcome ∧ e < w.polling.timeout) ∨
      ∃ result, w.settled start k e outcome = .result result ∧
        w.Ends s start n e deeds result := by
    obtain he | he := Nat.lt_or_ge e w.polling.timeout
    · exact .inl ⟨ho, he⟩
    · exact .inr ⟨_, by simp only [settled, Polling.after_of_late ho he], .timedOut h ho he⟩
  match outcome with
  | .ok .again => exact unsettled (.inl rfl)
  | .ok (.finish v) => exact .inr ⟨_, rfl, .finished h⟩
  | .ok (.giveUp reason) => exact .inr ⟨_, rfl, .gaveUp h⟩
  | .error message =>
    by_cases hs : w.polling.stopOnError = true
    · exact .inr ⟨_, by simp [settled, Polling.after, hs], .failed h hs⟩
    · exact unsettled (.inr ⟨message, rfl, by simpa using hs⟩)

/-! ### The records of a cycle -/

/-- The record of a step with what is done in it. -/
def Record.noted (now : Duration) (before : List (Deed V))
    (x : Progress (Waiting I V) (Except PollError V) × List (Deed V)) : Record I V :=
  ⟨now, x.1, before ++ x.2⟩

/-- While an attempt runs nothing is done; when it ends, that is noted. -/
theorem record_of_runs {n n' k : Nat} {t t' : Duration} {stage : Stage I V}
    {rest : Procedure I (Except String (Attempt V))} {before : List (Deed V)}
    {outcome : Except String (Attempt V)} (hr : rest.Runs s n t n' t' outcome)
    (ht : start ≤ t)
    (h : w.record s start n =
      .noted t before (Waiting.goOnNoted ⟨w, start, stage⟩ (s.moment n t) k rest)) :
    (∀ m, n ≤ m → m < n' → ∃ now q next,
      w.record s start m = ⟨now, .more ⟨w, start, .calling k q next⟩, before⟩) ∧
    w.record s start n' =
      ⟨t', w.settled start k (t' - start) outcome, before ++ [.ends k (t' - start) outcome]⟩ := by
  induction hr generalizing stage with
  | done hp =>
    refine ⟨fun m hn hm => by omega, ?_⟩
    rw [h]
    simp only [Record.noted, Waiting.goOnNoted, Waiting.goOn, hp, settled,
      Nat.add_sub_cancel' ht]
    rfl
  | @call n n' t t' p a q next hp hr ih =>
    have now : w.record s start n = ⟨t, .more ⟨w, start, .calling k q next⟩, before⟩ := by
      rw [h]
      simp [Record.noted, Waiting.goOnNoted, Waiting.goOn, hp]
    -- The answer comes in the next step, and the rest of the attempt goes on with it.
    have answered : w.record s start (n + 1) = .noted (t + s.takes (n + 1)) before
        (Waiting.goOnNoted ⟨w, start, .calling k q next⟩
          (s.moment (n + 1) (t + s.takes (n + 1))) k (next (s.reply (n + 1) q))) := by
      simp only [record, now, Waiting.wakes, Waiting.stepNoted, Record.noted]
    obtain ⟨during, last⟩ := ih (Nat.le_trans ht (Nat.le_add_right ..)) answered
    refine ⟨fun m hn hm => ?_, last⟩
    obtain rfl | hn := Nat.eq_or_lt_of_le hn
    · exact ⟨t, q, next, now⟩
    · exact during m hn hm

/-- A cycle that is not cancelled: a look, an attempt that begins at once, and its end. -/
theorem record_of_attempt {n n' k : Nat} {t e : Duration} {stage : Stage I V}
    {before : List (Deed V)} {outcome : Except String (Attempt V)}
    (h : w.record s start n = .noted (start + t) before
      (Waiting.cycleNoted ⟨w, start, stage⟩ (s.moment n (start + t)) k))
    (hc : s.cancelled n w.resource = false)
    (hr : (w.attempt k).Runs s n (start + t) n' (start + e) outcome) :
    (∀ m, n ≤ m → m < n' → ∃ now q next, w.record s start m =
      ⟨now, .more ⟨w, start, .calling k q next⟩, before ++ [.looks t false, .begins k t]⟩) ∧
    w.record s start n' =
      ⟨start + e, w.settled start k e outcome, before ++ Deed.cycle k t e outcome⟩ := by
  have elapsed (x : Duration) : start + x - start = x := Nat.add_sub_cancel_left ..
  have begun : w.record s start n = .noted (start + t) (before ++ [.looks t false, .begins k t])
      (Waiting.goOnNoted ⟨w, start, stage⟩ (s.moment n (start + t)) k (w.attempt k)) := by
    simp [h, Record.noted, Waiting.cycleNoted, Surroundings.moment, hc, elapsed]
  have := record_of_runs hr (Nat.le_add_right ..) begun
  simpa [elapsed, Deed.cycle] using this

/-- A cycle that is cancelled: a look, and nothing else. -/
theorem record_of_notice {n k : Nat} {t : Duration} {stage : Stage I V} {before : List (Deed V)}
    (h : w.record s start n = .noted (start + t) before
      (Waiting.cycleNoted ⟨w, start, stage⟩ (s.moment n (start + t)) k))
    (hc : s.cancelled n w.resource = true) :
    w.record s start n =
      ⟨start + t, .result (.error .cancelled), before ++ [.looks t true]⟩ := by
  rw [h]
  simp [Record.noted, Waiting.cycleNoted, Surroundings.moment, hc]

/-- In the step in which a cycle comes, the wait looks and goes on accordingly. -/
theorem record_of_comes {n k : Nat} {t : Duration} {before : List (Deed V)}
    (h : w.Comes s start n t k before) :
    w.record s start n = .noted (start + t) before
      (Waiting.cycleNoted ⟨w, start, .pausing k (start + t)⟩ (s.moment n (start + t)) k) := by
  induction h with
  | first => rfl
  | next _ hc hr ho he ih =>
    obtain ⟨-, last⟩ := record_of_attempt ih hc hr
    rw [settled_of_early ho he] at last
    simp [record, last, Waiting.wakes, Waiting.stepNoted, Surroundings.moment, Record.noted]

/-- A wait that is over stays so. -/
theorem record_of_result {n m : Nat} {x : Record I V} {result : Except PollError V}
    (h : w.record s start n = x) (hx : x.progress = .result result) (hm : n ≤ m) :
    w.record s start m = x := by
  induction hm with
  | refl => exact h
  | step _ ih => simp only [record, ih, hx]

/-! ### Every step of a wait -/

/-- The wait ends as `Wait.Ends` says. -/
theorem record_of_ends {n m : Nat} {t : Duration} {deeds : List (Deed V)}
    {result : Except PollError V} (h : w.Ends s start n t deeds result) (hm : n ≤ m) :
    w.record s start m = ⟨start + t, .result result, deeds⟩ := by
  have tried {n : Nat} {e : Duration} {outcome : Except String (Attempt V)}
      {deeds : List (Deed V)} (h : w.Tries s start n e outcome deeds) :
      ∃ k, w.record s start n = ⟨start + e, w.settled start k e outcome, deeds⟩ := by
    obtain ⟨i, t, k, before, hb, hc, hr, rfl⟩ := h.tried
    exact ⟨k, (record_of_attempt (record_of_comes hb) hc hr).2⟩
  refine record_of_result ?_ rfl hm
  cases h with
  | cancelled h hc => exact record_of_notice (record_of_comes h) hc
  | finished h => exact (tried h).elim fun _ h => h
  | gaveUp h => exact (tried h).elim fun _ h => h
  | failed h hs =>
    obtain ⟨k, h⟩ := tried h
    simpa [settled, Polling.after, hs] using h
  | timedOut h ho he =>
    obtain ⟨k, h⟩ := tried h
    simpa only [settled, Polling.after_of_late ho he] using h

/-- In the step in which an attempt ends, the wait pauses or is over. -/
theorem stands_of_runs {n n' k : Nat} {t e : Duration} {before : List (Deed V)}
    {outcome : Except String (Attempt V)} (h : w.Comes s start n t k before)
    (hc : s.cancelled n w.resource = false)
    (hr : (w.attempt k).Runs s n (start + t) n' (start + e) outcome) {m : Nat} (hn : n ≤ m)
    (hm : m ≤ n') : w.Stands s start m (w.record s start m) := by
  obtain ⟨during, last⟩ := record_of_attempt (record_of_comes h) hc hr
  obtain rfl | hm := Nat.eq_or_lt_of_le hm
  · rw [last]
    obtain ⟨ho, he⟩ | ⟨result, hs, h⟩ := settled_cases (k := k) ⟨n, t, k, before, h, hc, hr, rfl⟩
    · exact settled_of_early ho he ▸ .pausing h hc hr ho he
    · exact hs ▸ .done h (Nat.le_refl _)
  · obtain ⟨now, q, next, h'⟩ := during m hn hm
    exact h' ▸ .trying h hc hr hn hm

/-- In the step in which a cycle comes, the wait stands as it should. -/
theorem stands_of_comes {n k : Nat} {t : Duration} {before : List (Deed V)}
    (h : w.Comes s start n t k before) : w.Stands s start n (w.record s start n) := by
  cases hc : s.cancelled n w.resource with
  | true =>
    rw [record_of_notice (record_of_comes h) hc]
    exact .done (.cancelled h hc) (Nat.le_refl _)
  | false =>
    obtain ⟨n', t', outcome, hr⟩ := (w.attempt k).exists_runs s n (start + t)
    obtain ⟨e, rfl⟩ := Nat.exists_eq_add_of_le (Nat.le_trans (Nat.le_add_right ..) hr.le.2)
    exact stands_of_runs h hc hr (Nat.le_refl _) hr.le.1

/-- After every step the wait stands as it should. -/
theorem stands (w : Wait I V) (s : Surroundings I) (start : Duration) (m : Nat) :
    w.Stands s start m (w.record s start m) := by
  induction m with
  | zero => exact stands_of_comes .first
  | succ m ih =>
    generalize hx : w.record s start m = x at ih
    cases ih with
    | trying h hc hr hn hm => exact stands_of_runs h hc hr (by omega) hm
    | pausing h hc hr ho he => exact stands_of_comes (.next h hc hr ho he)
    | done h hn =>
      rw [record_of_ends h (by omega)]
      exact .done h (by omega)

/-! ### The time limit -/

/-- No cycle comes after the time limit. -/
theorem Comes.in_time {n k : Nat} {t : Duration} {before : List (Deed V)}
    (h : w.Comes s start n t k before) : t ≤ w.polling.timeout := by
  cases h with
  | first => exact Nat.zero_le _
  | next => exact Nat.min_le_right ..

/-- No attempt of an earlier cycle began after the time limit. -/
theorem Comes.begun_in_time {n k : Nat} {t : Duration} {before : List (Deed V)}
    (h : w.Comes s start n t k before) {i : Nat} {t' : Duration}
    (hi : .begins i t' ∈ before) : t' ≤ w.polling.timeout := by
  induction h with
  | first => cases hi
  | next h _ _ _ _ ih =>
    obtain hi | hi := List.mem_append.mp hi
    · exact ih hi
    · obtain ⟨-, rfl⟩ : i = _ ∧ t' = _ := by simpa [Deed.cycle] using hi
      exact h.in_time

/-- Nor did the attempt of the cycle at hand. -/
theorem Comes.begun_in_cycle {n k : Nat} {t e : Duration} {before : List (Deed V)}
    {outcome : Except String (Attempt V)} (h : w.Comes s start n t k before) {i : Nat}
    {t' : Duration} (hi : .begins i t' ∈ before ++ Deed.cycle k t e outcome) :
    t' ≤ w.polling.timeout := by
  obtain hi | hi := List.mem_append.mp hi
  · exact h.begun_in_time hi
  · obtain ⟨-, rfl⟩ : i = k ∧ t' = t := by simpa [Deed.cycle] using hi
    exact h.in_time

/-- When a wait ends, every attempt of it began in time. -/
theorem Ends.begun_in_time {n : Nat} {t : Duration} {deeds : List (Deed V)}
    {result : Except PollError V} (h : w.Ends s start n t deeds result) {i : Nat} {t' : Duration}
    (hi : .begins i t' ∈ deeds) : t' ≤ w.polling.timeout := by
  have tried {n : Nat} {e : Duration} {outcome : Except String (Attempt V)}
      {deeds : List (Deed V)} (h : w.Tries s start n e outcome deeds)
      (hi : .begins i t' ∈ deeds) : t' ≤ w.polling.timeout := by
    obtain ⟨_, t, k, before, hb, -, -, rfl⟩ := h.tried
    exact hb.begun_in_cycle hi
  cases h with
  | cancelled h hc => exact h.begun_in_time (by simpa using hi)
  | finished h | gaveUp h | failed h | timedOut h => exact tried h hi

/-- A wait that has timed out has used up its time. -/
theorem Ends.timeout_elapsed {n : Nat} {t d : Duration} {deeds : List (Deed V)}
    (h : w.Ends s start n t deeds (.error (.timeout d))) :
    d = w.polling.timeout ∧ w.polling.timeout ≤ t := by
  cases h with
  | timedOut h ho he => exact ⟨rfl, he⟩

/-! ### The specification as a whole -/

/-- What becomes of the wait, step by step, is what the specification says. -/
structure OnTime (w : Wait I V) (s : Surroundings I) (start : Duration) (r : Nat → Record I V) :
    Prop where
  /-- When a cycle comes that is not cancelled, the wait looks once, an attempt begins at that very
      time, runs to its end, and nothing else is done meanwhile. -/
  cycle : ∀ n t k before, w.Comes s start n t k before → s.cancelled n w.resource = false →
    ∃ n' e outcome, n ≤ n' ∧ t ≤ e ∧
      (w.attempt k).Runs s n (start + t) n' (start + e) outcome ∧
      (∀ m, n ≤ m → m < n' →
        (r m).deeds = before ++ [.looks t false, .begins k t]) ∧
      (r n').deeds = before ++ Deed.cycle k t e outcome ∧
      (r n').now = start + e
  /-- A wait that ends by the specification ends so, at that time and for good. -/
  final : ∀ n t deeds result, w.Ends s start n t deeds result → ∀ m, n ≤ m →
    r m = ⟨start + t, .result result, deeds⟩
  /-- After every step it is in an attempt, pauses for as long as it should, or is over by the
      specification. -/
  stands : ∀ m, w.Stands s start m (r m)
  /-- No attempt begins after the time limit. -/
  begins_in_time : ∀ m k t, .begins k t ∈ (r m).deeds → t ≤ w.polling.timeout
  /-- It never times out before the time limit. -/
  timeout_elapsed : ∀ m d, (r m).progress = .result (.error (.timeout d)) →
    d = w.polling.timeout ∧ start + w.polling.timeout ≤ (r m).now
  /-- Whenever it pauses, the time since its start is less than the time limit, so that the rest of
      the time is what is subtracted. -/
  time_left : ∀ m v k due, (r m).progress = .more v →
    v.stage = .pausing k due → ∃ e, (r m).now = start + e ∧ e < w.polling.timeout

/-- The course of a wait is what the specification says, whatever it meets. -/
theorem onTime_record (w : Wait I V) (s : Surroundings I) (start : Duration) :
    w.OnTime s start (w.record s start) where
  cycle n t k before h hc := by
    obtain ⟨n', t', outcome, hr⟩ := (w.attempt k).exists_runs s n (start + t)
    obtain ⟨e, rfl⟩ := Nat.exists_eq_add_of_le (Nat.le_trans (Nat.le_add_right ..) hr.le.2)
    obtain ⟨during, last⟩ := record_of_attempt (record_of_comes h) hc hr
    refine ⟨n', e, outcome, hr.le.1, Nat.le_of_add_le_add_left hr.le.2, hr, fun m hn hm => ?_,
      by rw [last], by rw [last]⟩
    obtain ⟨now, q, next, h⟩ := during m hn hm
    rw [h]
  final n t deeds result h m hm := record_of_ends h hm
  stands := w.stands s start
  begins_in_time m k t hk := by
    generalize hx : w.record s start m = x at hk
    cases hx ▸ w.stands s start m with
    | trying h =>
      obtain hk | hk := List.mem_append.mp hk
      · exact h.begun_in_time hk
      · obtain ⟨-, rfl⟩ : k = _ ∧ t = _ := by simpa using hk
        exact h.in_time
    | pausing h => exact h.begun_in_cycle hk
    | done h => exact h.begun_in_time hk
  timeout_elapsed m d hd := by
    generalize hx : w.record s start m = x at hd ⊢
    cases hx ▸ w.stands s start m with
    | trying | pausing => cases hd
    | done h =>
      obtain rfl : _ = Except.error (PollError.timeout d) := Progress.result.inj hd
      exact ⟨h.timeout_elapsed.1, Nat.add_le_add_left h.timeout_elapsed.2 _⟩
  time_left m v k due hv hs := by
    generalize hx : w.record s start m = x at hv ⊢
    cases hx ▸ w.stands s start m with
    | trying =>
      obtain rfl := Progress.more.inj hv
      cases hs
    | pausing _ _ _ _ he => exact ⟨_, rfl, he⟩
    | done => cases hv

/-! ### Punctual timers -/

/-- On a passage with punctual timers the wait takes the course that what it meets gives it. -/
theorem along_eq_record {x : Passage I} (hx : x.Forward) (hp : w.Punctual x) (n : Nat) :
    w.along x n = w.record x.surroundings (x.moment 0).now n := by
  induction n with
  | zero => rfl
  | succ n ih =>
    cases hv : (w.along x n).progress with
    | result r =>
      have hv' := ih ▸ hv
      simp only [along, record, hv', ih]
    | more v =>
      -- The step comes just when the wait wakes.
      have hwakes : v.wakes (w.along x n).now (x.surroundings.takes (n + 1)) =
          (x.moment (n + 1)).now := by
        unfold Waiting.wakes
        cases hs : v.stage with
        | pausing k due => exact (hp n k due ⟨v, hv, hs⟩).symm
        | calling k q next =>
          rw [now_along hv]
          exact Nat.add_sub_cancel' (hx n)
      have hv' := ih ▸ hv
      rw [ih] at hwakes
      simp only [along, record, hv', ih, hwakes]
      rfl

/-- The moments at which a wait with punctual timers is carried on. -/
def passage (w : Wait I V) (s : Surroundings I) (start : Duration) : Passage I where
  moment n := s.moment n (w.record s start n).now
  reply := s.reply

theorem along_passage (w : Wait I V) (s : Surroundings I) (start : Duration) (n : Nat) :
    w.along (w.passage s start) n = w.record s start n := by
  induction n with
  | zero => rfl
  | succ n ih =>
    unfold along
    rw [ih]
    cases hp : (w.record s start n).progress with
    | result r => simp only [record, hp]
    | more v =>
      simp only [passage, record, hp]
      rfl

theorem now_of_more {n : Nat} {v : Waiting I V} (h : (w.record s start n).progress = .more v) :
    (w.record s start (n + 1)).now = v.wakes (w.record s start n).now (s.takes (n + 1)) := by
  simp only [record, h]

theorem forward_passage (w : Wait I V) (s : Surroundings I) (start : Duration) :
    (w.passage s start).Forward := by
  intro n
  show (w.record s start n).now ≤ (w.record s start (n + 1)).now
  have hstands := w.stands s start n
  generalize hx : w.record s start n = x at hstands
  cases hstands with
  | trying =>
    rw [now_of_more (by rw [hx]), hx]
    exact Nat.le_add_right _ _
  | pausing _ _ _ _ he =>
    rw [now_of_more (by rw [hx])]
    exact Nat.add_le_add_left (Nat.le_min.mpr ⟨Nat.le_add_right _ _, Nat.le_of_lt he⟩) _
  | done =>
    have hend := record_of_result hx rfl (Nat.le_succ n)
    exact Nat.le_of_eq (congrArg (·.now) hend.symm)

theorem punctual_passage (w : Wait I V) (s : Surroundings I) (start : Duration) :
    w.Punctual (w.passage s start) := by
  rintro n k due ⟨v, hv, hs⟩
  rw [along_passage] at hv
  show (w.record s start (n + 1)).now = due
  rw [now_of_more hv, Waiting.wakes, hs]

/-! ### The specification for all passages -/

/-- The wait keeps to its specification. -/
structure KeepsTime (w : Wait I V) : Prop where
  /-- Carried on with punctual timers, whatever it meets, it does what the specification says. -/
  onTime : ∀ x : Passage I, x.Forward → w.Punctual x →
    w.OnTime x.surroundings (x.moment 0).now (w.along x)
  /-- Whatever is answered and cancelled, and however long the calls take, there is a passage with
      punctual timers, and the wait takes this course on it. -/
  punctual : ∀ s start, (w.passage s start).Forward ∧ w.Punctual (w.passage s start) ∧
    ∀ n, w.along (w.passage s start) n = w.record s start n
  /-- That course is what the specification says. -/
  course : ∀ s start, w.OnTime s start (w.record s start)

/-- Every wait keeps to its specification, whatever it meets. -/
theorem keeps_time (w : Wait I V) : w.KeepsTime where
  onTime x hx hp := by
    rw [show w.along x = w.record x.surroundings (x.moment 0).now from
      funext (along_eq_record hx hp)]
    exact w.onTime_record x.surroundings (x.moment 0).now
  punctual s start :=
    ⟨w.forward_passage s start, w.punctual_passage s start, w.along_passage s start⟩
  course := w.onTime_record

/-- A wait whose attempts take no time and settle nothing looks every three units and at its time
    limit, and times out there. -/
example :
    let w : Wait ⟨Empty, fun _ => Unit⟩ Unit :=
      { polling := { interval := 3, timeout := 7, stopOnError := false }, resource := 1,
        attempt := fun _ => .done (.ok .again) }
    let x := w.record ⟨fun _ _ => false, fun _ => 0, fun _ _ => ()⟩ 10 3
    x.now = 17 ∧ x.progress = .result (.error (.timeout 7)) ∧
      x.deeds = Deed.cycle 0 0 0 (.ok .again) ++ Deed.cycle 1 3 3 (.ok .again) ++
        Deed.cycle 2 6 6 (.ok .again) ++ Deed.cycle 3 7 7 (.ok .again) :=
  ⟨rfl, rfl, rfl⟩

end Wait

end ResourceFlow
