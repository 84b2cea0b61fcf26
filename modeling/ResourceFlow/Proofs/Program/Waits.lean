import ResourceFlow.Proofs.Program.Talk
/-! # What a wait says

  Where every attempt of a wait makes the same call, the wait says nothing but
  this call and what is answered, over and over. An answer settles the wait, or
  it is pending: the wait goes on, if there is time. So what was said tells how
  the wait ended (`Wait.Waited`, `Wait.keeps_polled`): by its last answer, or
  with pending answers only, when the time limit was reached.

  `Wait.TimedOut` and `Wait.Aborted` tell from the answers and their times alone
  whether a wait timed out or was aborted.
-/

namespace ResourceFlow

variable {I : Interface} {V : Type}

/-- When a line was said. -/
def Entry.time : Entry I → Duration
  | .asked c _ => c
  | .told c _ _ => c

/-- What an attempt came to does not end a wait, unless its time is over. -/
def Polling.Pending (polling : Polling) : Except String (Attempt V) → Prop
  | .ok .again => True
  | .ok (.finish _) => False
  | .ok (.giveUp _) => False
  | .error _ => polling.stopOnError = false

/-- What is pending does not end a wait early. -/
theorem Polling.Pending.not_abort {polling : Polling} {x : Except String (Attempt V)}
    (h : polling.Pending x) : ¬ ((∃ reason, x = .ok (.giveUp reason)) ∨
      (polling.stopOnError = true ∧ ∃ message, x = .error message)) := by
  rintro (⟨reason, rfl⟩ | ⟨hs, message, rfl⟩)
  · exact h
  · have h : polling.stopOnError = false := h
    rw [hs] at h
    cases h

namespace Wait

/-! ### What is said -/

section Said

variable (polling : Polling) (q : I.Call) (judge : I.Answer q → Except String (Attempt V))

/-- The call was made so many times, and every answer was pending. -/
inductive Polled : Talk I → Prop where
  /-- It was not made yet. -/
  | nil : Polled []
  /-- It was made once more. -/
  | again {talk : Talk I} (h : Polled talk) (c c' : Duration) (x : I.Answer q)
      (hx : polling.Pending (judge x)) : Polled (talk ++ [.asked c q, .told c' q x])

/-- What was said in a wait, and how it ended. -/
inductive Waited : Talk I → Except PollError V → Prop where
  /-- An answer finished it. -/
  | finished {talk : Talk I} (h : Polled polling q judge talk) (c c' : Duration) (x : I.Answer q)
      {v : V} (hx : judge x = .ok (.finish v)) :
      Waited (talk ++ [.asked c q, .told c' q x]) (.ok v)
  /-- An answer made it give up. -/
  | gaveUp {talk : Talk I} (h : Polled polling q judge talk) (c c' : Duration) (x : I.Answer q)
      {reason : AbortReason} (hx : judge x = .ok (.giveUp reason)) :
      Waited (talk ++ [.asked c q, .told c' q x]) (.error (.aborted reason))
  /-- An attempt failed, and the policy is to stop on errors. -/
  | stopped {talk : Talk I} (h : Polled polling q judge talk) (c c' : Duration) (x : I.Answer q)
      {message : String} (hx : judge x = .error message) (hs : polling.stopOnError = true) :
      Waited (talk ++ [.asked c q, .told c' q x]) (.error (.aborted ⟨.attemptError, message⟩))
  /-- The time limit was reached. -/
  | timedOut {talk : Talk I} (h : Polled polling q judge talk) {first last : Duration}
      (hfirst : talk.head?.map Entry.time = some first)
      (hlast : talk.getLast?.map Entry.time = some last) (hl : polling.timeout ≤ last - first) :
      Waited talk (.error (.timeout polling.timeout))

/-- All answers were pending, and from the first line to the last the time limit was reached. -/
def TimedOut (talk : Talk I) : Prop :=
  (∀ c x, .told c q x ∈ talk → polling.Pending (judge x)) ∧
    ∃ first last, talk.head?.map Entry.time = some first ∧
      talk.getLast?.map Entry.time = some last ∧ polling.timeout ≤ last - first

/-- An answer made the wait give up, or an attempt failed and the policy is to stop on errors. -/
def Aborted (talk : Talk I) : Prop :=
  ∃ c x, .told c q x ∈ talk ∧ ((∃ reason, judge x = .ok (.giveUp reason)) ∨
    (polling.stopOnError = true ∧ ∃ message, judge x = .error message))

end Said

variable {polling : Polling} {q : I.Call} {judge : I.Answer q → Except String (Attempt V)}
  {talk : Talk I}

theorem Polled.call_eq (h : Polled polling q judge talk) : ∀ x ∈ talk, x.call = q := by
  induction h with
  | nil => exact List.forall_mem_nil _
  | again _ c c' x _ ih =>
    rw [List.forall_mem_append, List.forall_mem_cons, List.forall_mem_singleton]
    exact ⟨ih, rfl, rfl⟩

theorem Polled.pending (h : Polled polling q judge talk) {c : Duration} {x : I.Answer q}
    (hx : .told c q x ∈ talk) : polling.Pending (judge x) := by
  induction h with
  | nil => cases hx
  | again _ c c' y hy ih =>
    rcases List.mem_append.mp hx with hx | hx
    · exact ih hx
    · simp only [List.mem_cons, reduceCtorEq, List.not_mem_nil, or_false, false_or] at hx
      cases hx
      exact hy

namespace Waited

variable {o : Except PollError V}

theorem call_eq (h : Waited polling q judge talk o) : ∀ x ∈ talk, x.call = q := by
  cases h with
  | finished h | gaveUp h | stopped h =>
    rw [List.forall_mem_append, List.forall_mem_cons, List.forall_mem_singleton]
    exact ⟨h.call_eq, rfl, rfl⟩
  | timedOut h => exact h.call_eq

/-- A wait timed out by what was said if it ended so. -/
theorem timedOut_iff (h : Waited polling q judge talk o) :
    TimedOut polling q judge talk ↔ o = .error (.timeout polling.timeout) := by
  -- The last answer of a wait that ended otherwise was not pending.
  have hlast : ∀ {talk : Talk I} {c c' : Duration} {x : I.Answer q},
      TimedOut polling q judge (talk ++ [.asked c q, .told c' q x]) → polling.Pending (judge x) :=
    fun {talk c c' x} ht => ht.1 c' x (by simp)
  cases h with
  | finished _ _ _ _ hx =>
    refine ⟨fun ht => ?_, nofun⟩
    have hp := hlast ht
    rw [hx] at hp
    exact absurd hp id
  | gaveUp _ _ _ _ hx => exact ⟨fun ht => absurd (.inl ⟨_, hx⟩) (hlast ht).not_abort, nofun⟩
  | stopped _ _ _ _ hx hs =>
    exact ⟨fun ht => absurd (.inr ⟨hs, _, hx⟩) (hlast ht).not_abort, nofun⟩
  | timedOut h hfirst hlast hl =>
    exact ⟨fun _ => rfl, fun _ => ⟨fun _ _ => h.pending, _, _, hfirst, hlast, hl⟩⟩

/-- A wait was aborted by what was said if it ended so. -/
theorem aborted_iff (h : Waited polling q judge talk o) :
    Aborted polling q judge talk ↔ ∃ reason, o = .error (.aborted reason) := by
  cases h with
  | finished h c c' x hx =>
    refine ⟨?_, nofun⟩
    rintro ⟨c₁, y, hy, habort⟩
    rcases List.mem_append.mp hy with hy | hy
    · exact absurd habort (h.pending hy).not_abort
    · simp only [List.mem_cons, reduceCtorEq, List.not_mem_nil, or_false, false_or] at hy
      cases hy
      rcases habort with ⟨reason, hx'⟩ | ⟨-, message, hx'⟩ <;> cases hx.symm.trans hx'
  | gaveUp _ c c' x hx =>
    exact ⟨fun _ => ⟨_, rfl⟩, fun _ => ⟨c', x, by simp, .inl ⟨_, hx⟩⟩⟩
  | stopped _ c c' x hx hs =>
    exact ⟨fun _ => ⟨_, rfl⟩, fun _ => ⟨c', x, by simp, .inr ⟨hs, _, hx⟩⟩⟩
  | timedOut h =>
    refine ⟨?_, nofun⟩
    rintro ⟨c, x, hx, habort⟩
    exact absurd habort (h.pending hx).not_abort

end Waited

/-- Where nothing was said, no wait timed out. -/
theorem not_timedOut_nil : ¬ TimedOut polling q judge [] := by
  rintro ⟨-, first, last, hfirst, -⟩
  cases hfirst

/-- Nor was one aborted. -/
theorem not_aborted_nil : ¬ Aborted polling q judge [] := by
  rintro ⟨c, x, hx, -⟩
  cases hx

/-! ### Waits keep to it -/

/-- So many answers since `h` were pending; the first call was made when the wait started. -/
def Attempts (polling : Polling) (q : I.Call) (judge : I.Answer q → Except String (Attempt V))
    (h : Talk I) (started : Duration) (k : Nat) (talk : Talk I) : Prop :=
  ∃ said, talk = h ++ said ∧ Polled polling q judge said ∧ (k = 0 → said = []) ∧
    (k ≠ 0 → said.head?.map Entry.time = some started)

theorem Attempts.begin (h : Talk I) (started : Duration) :
    Attempts polling q judge h started 0 h :=
  ⟨[], (List.append_nil h).symm, .nil, fun _ => rfl, fun hk => absurd rfl hk⟩

/-- A wait whose attempts make one call says this call, and ends as it is answered. -/
theorem keeps_polled {w : Wait I V} {R : Rules I} {h : Talk I} {started : Duration}
    (hattempt : ∀ k, w.attempt k = .call q fun x => .done (judge x))
    (hallow : ∀ said, R.allows (h ++ said) q) :
    w.Keeps R started (Attempts w.polling q judge h started) fun o _ talk =>
      (o = .error .cancelled ∧ R.seen w.resource) ∨
        ∃ said, talk = h ++ said ∧ Waited w.polling q judge said o where
  cancelled _ _ _ _ hseen := .inl ⟨rfl, hseen⟩
  attempt k now talk hk hnow := by
    obtain ⟨said, rfl, hpolled, hnil, hhead⟩ := hk
    rw [hattempt]
    refine ⟨hallow _, ?_⟩
    intro later x
    have hsaid : h ++ said ++ [.asked now q] ++ [.told later q x] =
        h ++ (said ++ [.asked now q, .told later q x]) := by simp
    rw [hsaid]
    -- The first attempt begins the wait.
    have hfirst : (said ++ [Entry.asked now q, .told later q x]).head?.map Entry.time =
        some started := by
      cases k with
      | zero =>
        rw [hnil rfl, hnow rfl]
        rfl
      | succ k =>
        obtain ⟨y, hy, hyt⟩ := Option.map_eq_some_iff.mp (hhead (Nat.succ_ne_zero k))
        rw [List.head?_append, hy]
        exact congrArg some hyt
    have hlast : (said ++ [Entry.asked now q, .told later q x]).getLast?.map Entry.time =
        some later := by
      simp [Entry.time]
    have hagain : w.polling.Pending (judge x) →
        Attempts w.polling q judge h started (k + 1)
          (h ++ (said ++ [.asked now q, .told later q x])) := fun hx =>
      ⟨_, rfl, hpolled.again now later x hx, nofun, fun _ => hfirst⟩
    have htime : w.polling.Pending (judge x) → w.polling.timeout ≤ later - started →
        Waited w.polling q judge (said ++ [.asked now q, .told later q x])
          (.error (.timeout w.polling.timeout)) := fun hx ht =>
      .timedOut (hpolled.again now later x hx) hfirst hlast ht
    show Wait.Settles _ _ _ _ later _ (judge x)
    cases hj : judge x with
    | error message =>
      cases hs : w.polling.stopOnError with
      | true =>
        unfold Settles Polling.after
        simp only [hs, if_true]
        exact .inr ⟨_, rfl, .stopped hpolled now later x hj hs⟩
      | false =>
        have hx : w.polling.Pending (judge x) := hj ▸ hs
        refine settles_error (fun hs' => ?_) (fun ht => .inr ⟨_, rfl, htime hx ht⟩) (hagain hx)
        rw [hs] at hs'
        cases hs'
    | ok attempt =>
      cases attempt with
      | again =>
        have hx : w.polling.Pending (judge x) := hj ▸ trivial
        exact settles_again (fun ht => .inr ⟨_, rfl, htime hx ht⟩) (hagain hx)
      | giveUp reason => exact settles_giveUp (.inr ⟨_, rfl, .gaveUp hpolled now later x hj⟩)
      | finish v => exact settles_finish (.inr ⟨_, rfl, .finished hpolled now later x hj⟩)

end Wait

end ResourceFlow
