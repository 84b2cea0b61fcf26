import Mathlib.Algebra.Order.Floor.Div
import ResourceFlow.Proofs.Polling.Timing
import ResourceFlow.Proofs.Settings.Reading
/-! # How often a wait tries and how long it sleeps

  A wait is carried on at moments that others choose, and its timers may go off
  late (`Wait.TimersGoOff`). All that is needed is that time does not go back.
  The measure of a wait is the time that it has
  left, but the last sleep is cut short and attempts take what time they like.
  So `Wait.Spent` counts from below: cycle `k` comes no earlier than after `k`
  intervals, or at the time limit.

  The main result is `Wait.keeps_budget`. With a positive interval, and so with
  every configuration that is read from an environment, a wait makes at most
  one attempt more than there are intervals in its time limit, asks for no more
  sleep than its time limit, and ends if its timers go off. When nothing but
  the sleeping takes time and no attempt settles anything, it makes just so
  many attempts and times out at the time limit.
-/

namespace ResourceFlow

variable {I : Interface} {V : Type}

/-! ### What a wait spends -/

namespace Deed

/-- Whether an attempt begins. -/
def isBegin : Deed V → Bool
  | .begins _ _ => true
  | _ => false

/-- The number of attempts that began. -/
def attempts (deeds : List (Deed V)) : Nat := deeds.countP isBegin

theorem attempts_append (deeds more : List (Deed V)) :
    attempts (deeds ++ more) = attempts deeds + attempts more :=
  List.countP_append

@[simp] theorem attempts_begun (k : Nat) (t : Duration) :
    attempts [.looks t false, (.begins k t : Deed V)] = 1 := rfl

@[simp] theorem attempts_cycle (k : Nat) (t e : Duration) (outcome : Except String (Attempt V)) :
    attempts (cycle k t e outcome) = 1 := rfl

@[simp] theorem attempts_looked (t : Duration) (cancelled : Bool) :
    attempts [(.looks t cancelled : Deed V)] = 0 := rfl

end Deed

namespace Polling

/-- The sleep that is asked for after a deed: the pause after an attempt, if there is one. -/
def sleep (p : Polling) : Deed V → Duration
  | .ends _ time outcome =>
    match p.after time outcome with
    | .stop _ => 0
    | .pause d => d
  | _ => 0

/-- The sleep that is asked for in all. -/
def slept (p : Polling) (deeds : List (Deed V)) : Duration := (deeds.map p.sleep).sum

variable {p : Polling}

theorem slept_append (deeds more : List (Deed V)) :
    p.slept (deeds ++ more) = p.slept deeds + p.slept more := by
  simp [slept]

@[simp] theorem slept_begun (k : Nat) (t : Duration) :
    p.slept [.looks t false, (.begins k t : Deed V)] = 0 := rfl

@[simp] theorem slept_looked (t : Duration) (cancelled : Bool) :
    p.slept [(.looks t cancelled : Deed V)] = 0 := rfl

theorem slept_stopped {k : Nat} {t e : Duration} {outcome : Except String (Attempt V)}
    {result : Except PollError V} (h : p.after e outcome = .stop result) :
    p.slept (Deed.cycle k t e outcome) = 0 := by
  simp [slept, sleep, Deed.cycle, h]

theorem slept_paused {k : Nat} {t e d : Duration} {outcome : Except String (Attempt V)}
    (h : p.after e outcome = .pause d) : p.slept (Deed.cycle k t e outcome) = d := by
  simp [slept, sleep, Deed.cycle, h]

theorem pause_cut (e interval timeout : Nat) (he : e < timeout) :
    e + min interval (timeout - e) ≤ timeout ∧
      (min interval (timeout - e) = interval ∨ e + min interval (timeout - e) = timeout) := by
  omega

/-- A pause begins within the time limit, lasts until the interval or the time limit is over, and
    no longer. -/
theorem pause_of_after {e d : Duration} {outcome : Except String (Attempt V)}
    (h : p.after e outcome = .pause d) :
    e < p.timeout ∧ e + d ≤ p.timeout ∧ (d = p.interval ∨ e + d = p.timeout) := by
  have carried (h : p.carryOn e = (.pause d : Next V)) :
      e < p.timeout ∧ e + d ≤ p.timeout ∧ (d = p.interval ∨ e + d = p.timeout) := by
    unfold carryOn at h
    split at h
    · cases h
    · cases h
      have he := Nat.lt_of_not_le ‹_›
      exact ⟨he, pause_cut e _ _ he⟩
  cases outcome with
  | error message =>
    unfold after at h
    dsimp only at h
    split at h
    · cases h
    · exact carried h
  | ok a =>
    cases a with
    | again => exact carried h
    | finish v => cases h
    | giveUp reason => cases h

/-- The number of intervals in the time limit, the last of which may be cut short. -/
def intervals (p : Polling) : Nat := p.timeout ⌈/⌉ p.interval

/-- Fewer intervals than there are do not fill the time limit. -/
theorem lt_intervals_iff (hi : 0 < p.interval) {k : Nat} :
    k < p.intervals ↔ k * p.interval < p.timeout := by
  rw [← Nat.not_le, ← Nat.not_le, not_iff_not, intervals, ceilDiv_le_iff_le_mul hi, Nat.mul_comm]

end Polling

namespace Wait

/-- The timers of the wait go off, when they are due or later. -/
def TimersGoOff (w : Wait I V) (x : Passage I) : Prop :=
  ∀ n k due, w.Pauses x n k due → ∃ m, n < m ∧ due ≤ (x.moment m).now

/-! ### What was spent when a cycle comes -/

/-- What was spent when cycle `k` comes, at least the time `t` after the start. -/
structure Spent (w : Wait I V) (t : Duration) (k : Nat) (deeds : List (Deed V)) : Prop where
  /-- So many attempts were made. -/
  attempts : Deed.attempts deeds = k
  /-- There are no fewer intervals. -/
  room : k ≤ w.polling.intervals
  /-- The sleep is a part of the time. -/
  slept : w.polling.slept deeds ≤ t
  /-- It is a part of the time limit as well. -/
  within : w.polling.slept deeds ≤ w.polling.timeout
  /-- So many intervals have passed, or the time limit has. -/
  time : k * w.polling.interval ≤ t ∨ w.polling.timeout ≤ t

variable {w : Wait I V}

theorem Spent.first : w.Spent 0 0 [] where
  attempts := rfl
  room := Nat.zero_le _
  slept := Nat.le_refl _
  within := Nat.zero_le _
  time := .inl (Nat.le_of_eq (Nat.zero_mul _))

/-- An attempt that is followed by a pause leaves room for another one. -/
theorem Spent.next (hi : 0 < w.polling.interval) {t e d : Duration} {k : Nat}
    {before : List (Deed V)} (h : w.Spent t k before) (ht : t ≤ e)
    {outcome : Except String (Attempt V)} (hd : w.polling.after e outcome = .pause d)
    (t' : Duration) : w.Spent (e + d) (k + 1) (before ++ Deed.cycle k t' e outcome) := by
  obtain ⟨he, hle, hcut⟩ := Polling.pause_of_after hd
  -- The cycle came before the time limit, so that all its intervals have passed.
  have hpassed : k * w.polling.interval ≤ e :=
    h.time.elim (Nat.le_trans · ht) fun hlate =>
      absurd he (Nat.not_lt.mpr (Nat.le_trans hlate ht))
  have hslept : w.polling.slept (before ++ Deed.cycle k t' e outcome) ≤ e + d := by
    rw [Polling.slept_append, Polling.slept_paused hd]
    exact Nat.add_le_add_right (Nat.le_trans h.slept ht) d
  refine ⟨?_, ?_, hslept, Nat.le_trans hslept hle, ?_⟩
  · rw [Deed.attempts_append, Deed.attempts_cycle, h.attempts]
  · exact (Polling.lt_intervals_iff hi).mpr (Nat.lt_of_le_of_lt hpassed he)
  · refine hcut.imp (fun hfull => ?_) fun hcut => Nat.le_of_eq hcut.symm
    rw [Nat.succ_mul, hfull]
    exact Nat.add_le_add_right hpassed _

/-- Where a wait that began at `start` stands, with what it has spent. -/
inductive Thrifty (w : Wait I V) (start : Duration) : Record I V → Prop where
  /-- It pauses until the next cycle. -/
  | pausing {k : Nat} {t now : Duration} {deeds : List (Deed V)} (h : w.Spent t k deeds) :
      Thrifty w start ⟨now, .more ⟨w, start, .pausing k (start + t)⟩, deeds⟩
  /-- The attempt of a cycle waits for an answer. -/
  | calling {k : Nat} {t t' now : Duration} {before : List (Deed V)} {q : I.Call}
      {next : I.Answer q → Procedure I (Except String (Attempt V))} (h : w.Spent t k before)
      (ht : start + t ≤ now) :
      Thrifty w start
        ⟨now, .more ⟨w, start, .calling k q next⟩, before ++ [.looks t' false, .begins k t']⟩
  /-- It is over. -/
  | ended {r : Except PollError V} {now : Duration} {deeds : List (Deed V)}
      (ha : Deed.attempts deeds ≤ w.polling.intervals + 1)
      (hs : w.polling.slept deeds ≤ w.polling.timeout) : Thrifty w start ⟨now, .result r, deeds⟩

namespace Thrifty

variable {start : Duration} {x : Record I V}

theorem attempts_le (h : w.Thrifty start x) :
    Deed.attempts x.deeds ≤ w.polling.intervals + 1 := by
  cases h with
  | pausing h =>
    rw [h.attempts]
    exact Nat.le_succ_of_le h.room
  | calling h =>
    rw [Deed.attempts_append, Deed.attempts_begun, h.attempts]
    exact Nat.succ_le_succ h.room
  | ended ha => exact ha

theorem slept_le (h : w.Thrifty start x) : w.polling.slept x.deeds ≤ w.polling.timeout := by
  cases h with
  | pausing h => exact h.within
  | calling h =>
    rw [Polling.slept_append, Polling.slept_begun]
    exact h.within
  | ended _ hs => exact hs

end Thrifty

/-- Going on with an attempt, the wait stays within its budget. -/
theorem thrifty_goOn (hi : 0 < w.polling.interval) {start t : Duration} {m : Moment} {k : Nat}
    {before : List (Deed V)} (h : w.Spent t k before) (ht : start + t ≤ m.now)
    (t' : Duration) (stage : Stage I V) (rest : Procedure I (Except String (Attempt V))) :
    w.Thrifty start (.noted m.now (before ++ [.looks t' false, .begins k t'])
      (Waiting.goOnNoted ⟨w, start, stage⟩ m k rest)) := by
  unfold Record.noted Waiting.goOnNoted Waiting.goOn
  dsimp only
  cases rest.run m with
  | call q next =>
    rw [List.append_nil]
    exact .calling h ht
  | done outcome =>
    obtain ⟨e, he⟩ := Nat.exists_eq_add_of_le (Nat.le_trans (Nat.le_add_right ..) ht)
    dsimp only
    rw [he, Nat.add_sub_cancel_left]
    have hte : t ≤ e := Nat.le_of_add_le_add_left (he ▸ ht)
    have hcycle : before ++ [.looks t' false, .begins k t'] ++ [.ends k e outcome] =
        before ++ Deed.cycle k t' e outcome := List.append_assoc ..
    rw [hcycle]
    cases hd : w.polling.after e outcome with
    | stop result =>
      refine .ended ?_ ?_
      · rw [Deed.attempts_append, Deed.attempts_cycle, h.attempts]
        exact Nat.succ_le_succ h.room
      · rw [Polling.slept_append, Polling.slept_stopped hd]
        exact h.within
    | pause d =>
      dsimp only
      rw [Nat.add_assoc]
      exact .pausing (h.next hi hte hd t')

theorem thrifty_cycle (hi : 0 < w.polling.interval) {start t : Duration} {m : Moment} {k : Nat}
    {before : List (Deed V)} (h : w.Spent t k before) (ht : start + t ≤ m.now)
    (stage : Stage I V) :
    w.Thrifty start (.noted m.now before (Waiting.cycleNoted ⟨w, start, stage⟩ m k)) := by
  unfold Waiting.cycleNoted
  split
  · refine .ended ?_ ?_
    · simpa [Deed.attempts_append, h.attempts] using Nat.le_succ_of_le h.room
    · simpa [Polling.slept_append] using h.within
  · have := thrifty_goOn hi h ht (m.now - start) stage (w.attempt k)
    simpa only [Record.noted, List.append_assoc, List.cons_append, List.nil_append] using this

/-- A step keeps a wait within its budget. -/
theorem Thrifty.step (hi : 0 < w.polling.interval) {start now : Duration} {v : Waiting I V}
    {deeds : List (Deed V)} (h : w.Thrifty start ⟨now, .more v, deeds⟩) {m : Moment}
    (hm : now ≤ m.now) (reply : I.Reply) :
    w.Thrifty start (.noted m.now deeds (v.stepNoted m reply)) := by
  cases h with
  | pausing h =>
    unfold Waiting.stepNoted
    dsimp only
    split
    · unfold Record.noted
      rw [List.append_nil]
      exact .pausing h
    · exact thrifty_cycle hi h (Nat.not_lt.mp ‹_›) _
  | calling h ht => exact thrifty_goOn hi h (Nat.le_trans ht hm) _ _ _

/-- After every step a wait is within its budget. -/
theorem thrifty_along (hi : 0 < w.polling.interval) {x : Passage I} (hx : x.Forward) (n : Nat) :
    w.Thrifty (x.moment 0).now (w.along x n) := by
  induction n with
  | zero => exact thrifty_cycle hi .first (Nat.le_refl _) _
  | succ n ih =>
    have hnow {v : Waiting I V} (h : (w.along x n).progress = .more v) :
        (w.along x n).now ≤ (x.moment (n + 1)).now := now_along h ▸ hx n
    unfold along
    generalize w.along x n = y at ih hnow
    obtain ⟨now, progress, deeds⟩ := y
    cases progress with
    | more v => exact ih.step hi (hnow rfl) _
    | result r => exact ih

/-! ### A wait ends -/

section Ends

variable {x : Passage I}

/-- After step `n` the wait is over, or pauses until cycle `k`. -/
def Rests (w : Wait I V) (x : Passage I) (n k : Nat) : Prop :=
  (∃ r, (w.along x n).progress = .result r) ∨ ∃ due, w.Pauses x n k due

theorem along_succ {n : Nat} {v : Waiting I V} (h : (w.along x n).progress = .more v) :
    (w.along x (n + 1)).progress = v.step (x.moment (n + 1)) (x.reply (n + 1)) := by
  rw [← Waiting.stepNoted_fst]
  unfold along
  generalize w.along x n = y at h
  obtain ⟨now, progress, deeds⟩ := y
  obtain rfl : progress = .more v := h
  rfl

/-- What is left of an attempt comes to an end. -/
theorem rests_of_rest {k : Nat} (rest : Procedure I (Except String (Attempt V))) {n : Nat}
    {v : Waiting I V} (h : (w.along x n).progress = v.goOn (x.moment n) k rest) :
    ∃ m, w.Rests x m (k + 1) := by
  -- On what is left: each call is answered in the next step.
  induction rest generalizing n v with
  | done outcome =>
    refine ⟨n, ?_⟩
    unfold Waiting.goOn Procedure.run at h
    dsimp only at h
    cases hd : v.wait.polling.after ((x.moment n).now - v.started) outcome with
    | stop result =>
      rw [hd] at h
      exact .inl ⟨result, h⟩
    | pause d =>
      rw [hd] at h
      exact .inr ⟨_, _, h, rfl⟩
  | call q next ih =>
    have hcalling : (w.along x n).progress = .more { v with stage := .calling k q next } := h
    exact ih _ (along_succ hcalling)
  | look r next ih => exact ih _ h

theorem rests_of_cycle {k n : Nat} {v : Waiting I V}
    (h : (w.along x n).progress = v.cycle (x.moment n) k) : ∃ m, w.Rests x m (k + 1) := by
  unfold Waiting.cycle at h
  split at h
  · exact ⟨n, .inl ⟨_, h⟩⟩
  · exact rests_of_rest _ h

/-- A pause is followed by a cycle, as its timer goes off. -/
theorem cycle_of_pauses {n j k : Nat} {due : Duration}
    (h : w.Pauses x n k due) (hdue : due ≤ (x.moment (n + 1 + j)).now) :
    ∃ m v, (w.along x m).progress = Waiting.cycle v (x.moment m) k := by
  -- On the number of steps that may come before the timer goes off.
  induction j generalizing n with
  | zero =>
    obtain ⟨v, hv, hs⟩ := h
    refine ⟨n + 1, v, ?_⟩
    rw [along_succ hv, Waiting.step, hs]
    exact if_neg (Nat.not_lt.mpr hdue)
  | succ j ih =>
    obtain ⟨v, hv, hs⟩ := h
    by_cases hearly : (x.moment (n + 1)).now < due
    · rw [show n + 1 + (j + 1) = n + 1 + 1 + j by omega] at hdue
      refine ih ⟨v, ?_, hs⟩ hdue
      rw [along_succ hv, Waiting.step, hs]
      exact if_pos hearly
    · refine ⟨n + 1, v, ?_⟩
      rw [along_succ hv, Waiting.step, hs]
      exact if_neg hearly

/-- Every cycle is over some time, if the wait is not. -/
theorem exists_rests (htimers : w.TimersGoOff x) (k : Nat) :
    ∃ n, w.Rests x n (k + 1) := by
  induction k with
  | zero =>
    have hbegun : (w.along x 0).progress = w.begin (x.moment 0) := beginNoted_fst ..
    exact rests_of_cycle hbegun
  | succ k ih =>
    obtain ⟨n, ⟨r, hr⟩ | ⟨due, hp⟩⟩ := ih
    · exact ⟨n, .inl ⟨r, hr⟩⟩
    · obtain ⟨m, hm, hdue⟩ := htimers n _ due hp
      obtain ⟨j, rfl⟩ := Nat.exists_eq_add_of_lt hm
      rw [Nat.add_right_comm] at hdue
      obtain ⟨m, v, hc⟩ := cycle_of_pauses hp hdue
      exact rests_of_cycle hc

/-- The wait ends, as there is no room for more attempts than intervals. -/
theorem ends_along (hi : 0 < w.polling.interval) (hx : x.Forward) (htimers : w.TimersGoOff x) :
    ∃ n r, (w.along x n).progress = .result r := by
  obtain ⟨n, ⟨r, hr⟩ | ⟨due, v, hv, hs⟩⟩ := exists_rests htimers w.polling.intervals
  · exact ⟨n, r, hr⟩
  · have hthrifty := thrifty_along hi hx n
    generalize w.along x n = y at hv hthrifty
    cases hthrifty with
    | pausing h =>
      obtain rfl := Progress.more.inj hv
      obtain ⟨rfl, -⟩ := Stage.pausing.inj hs
      exact absurd h.room (Nat.not_succ_le_self _)
    | calling h =>
      obtain rfl := Progress.more.inj hv
      cases hs
    | ended => cases hv

end Ends

/-! ### Timers that go off when they are due -/

section Punctual

variable {s : Surroundings I} {start : Duration}

theorem Punctual.timersGoOff {x : Passage I} (h : w.Punctual x) : w.TimersGoOff x :=
  fun n k due hp => ⟨n + 1, Nat.lt_succ_self n, Nat.le_of_eq (h n k due hp).symm⟩

/-- The attempts of the wait settle nothing, whenever they are made. -/
def NeverSettles (w : Wait I V) (s : Surroundings I) : Prop :=
  ∀ k n t n' t' outcome, (w.attempt k).Runs s n t n' t' outcome → outcome = .ok .again

/-- Where calls take no time a procedure takes none. -/
theorem runs_instant (ht : ∀ n, s.takes n = 0) {α : Type} {p : Procedure I α} {n n' : Nat}
    {t t' : Duration} {a : α} (h : p.Runs s n t n' t' a) : t' = t := by
  induction h with
  | done => rfl
  | call _ _ ih => rw [ih, ht, Nat.add_zero]

/-- An attempt that settles nothing and takes no time. -/
theorem exists_runs_again (ht : ∀ n, s.takes n = 0) (hagain : w.NeverSettles s) (k n : Nat)
    (t : Duration) : ∃ n', (w.attempt k).Runs s n t n' t (.ok .again) := by
  obtain ⟨n', t', outcome, h⟩ := (w.attempt k).exists_runs s n t
  obtain rfl := runs_instant ht h
  obtain rfl := hagain k n _ n' _ outcome h
  exact ⟨n', h⟩

theorem pause_ends_early (e interval timeout : Nat) (he : e < timeout) :
    e + min interval (timeout - e) = min (e + interval) timeout := by
  omega

/-- If only the sleeping takes time, cycle `k` comes after `k` intervals, or at the time limit. -/
theorem comes_on_time (start : Duration) (hi : 0 < w.polling.interval)
    (hc : ∀ n, s.cancelled n w.resource = false) (ht : ∀ n, s.takes n = 0)
    (hagain : w.NeverSettles s) (k : Nat) (hk : k ≤ w.polling.intervals) :
    ∃ n before, w.Comes s start n (min (k * w.polling.interval) w.polling.timeout) k before ∧
      Deed.attempts before = k ∧
      w.polling.slept before = min (k * w.polling.interval) w.polling.timeout := by
  induction k with
  | zero =>
    rw [Nat.zero_mul, Nat.zero_min]
    exact ⟨0, [], .first, rfl, rfl⟩
  | succ k ih =>
    obtain ⟨n, before, hcomes, ha, hs⟩ := ih (Nat.le_of_succ_le hk)
    have hlt := (Polling.lt_intervals_iff hi).mp hk
    rw [Nat.min_eq_left (Nat.le_of_lt hlt)] at hcomes hs
    obtain ⟨n', hruns⟩ := exists_runs_again ht hagain k n (start + k * w.polling.interval)
    have hnext := hcomes.next (hc n) hruns (.inl rfl) hlt
    rw [Nat.succ_mul]
    refine ⟨n' + 1, _, hnext, ?_, ?_⟩
    · rw [Deed.attempts_append, Deed.attempts_cycle, ha]
    · rw [Polling.slept_append, hs, Polling.slept_paused (Polling.after_of_early (.inl rfl) hlt)]
      exact pause_ends_early _ _ _ hlt

/-- Then the wait times out at its time limit. -/
theorem times_out (start : Duration) (hi : 0 < w.polling.interval)
    (hc : ∀ n, s.cancelled n w.resource = false)
    (ht : ∀ n, s.takes n = 0) (hagain : w.NeverSettles s) :
    ∃ n deeds, w.Ends s start n w.polling.timeout deeds
        (.error (.timeout w.polling.timeout)) ∧
      Deed.attempts deeds = w.polling.intervals + 1 ∧
      w.polling.slept deeds = w.polling.timeout := by
  obtain ⟨n, before, hcomes, ha, hs⟩ :=
    comes_on_time start hi hc ht hagain _ (Nat.le_refl _)
  have hover : w.polling.timeout ≤ w.polling.intervals * w.polling.interval :=
    Nat.not_lt.mp fun h => Nat.lt_irrefl _ ((Polling.lt_intervals_iff hi).mpr h)
  rw [Nat.min_eq_right hover] at hcomes hs
  obtain ⟨n', hruns⟩ := exists_runs_again ht hagain w.polling.intervals n
    (start + w.polling.timeout)
  have hunsettled : w.polling.Unsettled (.ok .again : Except String (Attempt V)) := .inl rfl
  refine ⟨n', _, .timedOut ⟨n, _, _, before, hcomes, hc n, hruns, rfl⟩ hunsettled
    (Nat.le_refl _), ?_, ?_⟩
  · rw [Deed.attempts_append, Deed.attempts_cycle, ha]
  · rw [Polling.slept_append, hs,
      Polling.slept_stopped (Polling.after_of_late hunsettled (Nat.le_refl _)), Nat.add_zero]

end Punctual

/-! ### The budget as a whole -/

/-- The wait keeps to its budget. -/
structure KeepsBudget (w : Wait I V) : Prop where
  /-- It makes at most one attempt more than there are intervals in its time limit. -/
  attempts : ∀ x : Passage I, x.Forward → ∀ n,
    Deed.attempts (w.along x n).deeds ≤ w.polling.timeout ⌈/⌉ w.polling.interval + 1
  /-- It asks for no more sleep than its time limit. -/
  slept : ∀ x : Passage I, x.Forward → ∀ n,
    w.polling.slept (w.along x n).deeds ≤ w.polling.timeout
  /-- It ends if its timers go off. -/
  ends : ∀ x : Passage I, x.Forward → w.TimersGoOff x → ∃ n r, (w.along x n).progress = .result r
  /-- Timers that go off when they are due are a case of this, whatever is answered and however
      long it takes. -/
  punctual : ∀ s start, (w.passage s start).Forward ∧ w.TimersGoOff (w.passage s start) ∧
    ∀ n, w.along (w.passage s start) n = w.record s start n
  /-- If then no cancellation is noticed, calls take no time and no attempt settles anything, it
      makes just so many attempts, sleeps all the time, and times out at the time limit. -/
  timesOut : ∀ s start, (∀ n, s.cancelled n w.resource = false) → (∀ n, s.takes n = 0) →
    w.NeverSettles s → ∃ n deeds,
      w.record s start n =
        ⟨start + w.polling.timeout, .result (.error (.timeout w.polling.timeout)), deeds⟩ ∧
      Deed.attempts deeds = w.polling.timeout ⌈/⌉ w.polling.interval + 1 ∧
      w.polling.slept deeds = w.polling.timeout

end Wait

/-- The settings of some environment configure waits so. -/
def Polling.Configured (p : Polling) : Prop :=
  ∃ env settings, Settings.fromEnv env = .ok settings ∧
    (p = settings.environment ∨ p = settings.freeipa ∨ p = settings.deletion)

theorem Polling.Configured.interval_pos {p : Polling} (h : p.Configured) : 0 < p.interval := by
  obtain ⟨env, settings, henv, hp⟩ := h
  obtain ⟨⟨henvironment, hfreeipa, hdeletion⟩, hall⟩ :=
    (Settings.reads_fromEnv env).value settings henv
  have hsound := Settings.sound_iff.mpr hall
  obtain rfl | rfl | rfl := hp
  · exact henvironment.interval_pos hsound (by decide)
  · exact hfreeipa.interval_pos hsound (by decide)
  · exact hdeletion.interval_pos hsound (by decide)

namespace Wait

/-- Every wait that pauses between attempts keeps to its budget, and so every wait that is
    configured by an environment. -/
theorem keeps_budget (w : Wait I V) (h : 0 < w.polling.interval ∨ w.polling.Configured) :
    w.KeepsBudget := by
  have hi : 0 < w.polling.interval := h.elim id Polling.Configured.interval_pos
  exact {
    attempts := fun x hx n => (thrifty_along hi hx n).attempts_le
    slept := fun x hx n => (thrifty_along hi hx n).slept_le
    ends := fun x hx htimers => ends_along hi hx htimers
    punctual := fun s start =>
      ⟨forward_passage w s start, (punctual_passage w s start).timersGoOff, along_passage w s start⟩
    timesOut := fun s start hc ht hagain => by
      obtain ⟨n, deeds, hends, ha, hs⟩ := times_out start hi hc ht hagain
      exact ⟨n, deeds, record_of_ends hends (Nat.le_refl n), ha, hs⟩ }

/-- A wait with the default settings that never settles anything. -/
def idle : Wait ⟨Empty, fun _ => Unit⟩ Unit where
  polling := Settings.defaultPolling
  resource := 1
  attempt _ := .done (.ok .again)

/-- It makes 361 attempts in its hour, and times out at the end of it. -/
theorem keeps_budget_idle :
    idle.polling.Configured ∧ ∃ n deeds,
      idle.record ⟨fun _ _ => false, fun _ => 0, fun _ _ => ()⟩ 0 n =
        ⟨.ofSeconds 3600, .result (.error (.timeout (.ofSeconds 3600))), deeds⟩ ∧
      Deed.attempts deeds = 361 ∧ idle.polling.slept deeds = .ofSeconds 3600 := by
  have hidle : idle.polling.Configured :=
    ⟨fun _ => none, Settings.defaults, rfl, .inl rfl⟩
  refine ⟨hidle, ?_⟩
  have hagain : idle.NeverSettles ⟨fun _ _ => false, fun _ => 0, fun _ _ => ()⟩ := by
    intro k n t n' t' outcome hruns
    cases hruns with
    | done h =>
      cases h
      rfl
    | call h => cases h
  obtain ⟨n, deeds, hrecord, ha, hs⟩ :=
    (keeps_budget idle (.inr hidle)).timesOut _ 0 (fun _ => rfl) (fun _ => rfl) hagain
  rw [Nat.zero_add] at hrecord
  exact ⟨n, deeds, hrecord, ha, hs⟩

end Wait

end ResourceFlow
