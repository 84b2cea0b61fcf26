import Mathlib.Data.List.Forall2
import ResourceFlow.Flow.Embedding
import ResourceFlow.Proofs.Program.GivesWay
import ResourceFlow.Proofs.Program.Likeness
import ResourceFlow.Proofs.Program.Talk
/-! # Programs whose calls go through a link

  A program that makes its calls through another interface is the same
  program: it comes to the same results (`Program.Ensures.through`), it gives
  way to cancels as before (`Program.GivesWay.through`), and tells no answers
  apart that it did not (`Program.Resembles.through`). What it says is
  what it said before, line by line, with the calls that are made instead
  (`Interface.Link.Carries`), so that it obeys the rules that it obeyed before,
  put in terms of those calls (`Program.Obeys.through`).
-/

namespace ResourceFlow

variable {I J : Interface} {α β V : Type} {l : Interface.Link I J}

/-! ### Results -/

theorem Program.Ensures.through {Q : α → Prop} {p : Program I α} (h : p.Ensures Q) :
    (l.program p).Ensures Q := by
  induction p with
  | done a => exact h
  | call q next ih => exact fun x => ih _ (h _)
  | look r next ih => exact fun b => ih b (h b)
  | wait w next ih => exact ⟨h.1, fun o => ih o (h.2 o)⟩

theorem Program.Ensures.map {Q : β → Prop} {p : Program I α} {f : α → β}
    (h : p.Ensures fun a => Q (f a)) : (p.map f).Ensures Q :=
  Program.Ensures.bind (f := fun a => .done (f a)) h fun _ ha => ha

/-! ### Talk -/

namespace Interface.Link

/-- The second line is the first, said through the link. -/
inductive Relays (l : Link I J) : Entry I → Entry J → Prop where
  /-- A call is made. -/
  | asked (now : Duration) (q : I.Call) : Relays l (.asked now q) (.asked now (l.call q))
  /-- A call is answered. -/
  | told (now : Duration) (q : I.Call) (x : J.Answer (l.call q)) :
      Relays l (.told now q (l.answer q x)) (.told now (l.call q) x)

/-- The second talk is the first, line by line, said through the link. -/
abbrev Carries (l : Link I J) : Talk I → Talk J → Prop := List.Forall₂ l.Relays

theorem Carries.answered {h : Talk I} {h' : Talk J} (hc : l.Carries h h') (now later : Duration)
    (q : I.Call) (x : J.Answer (l.call q)) :
    l.Carries (h ++ [.asked now q] ++ [.told later q (l.answer q x)])
      (h' ++ [.asked now (l.call q)] ++ [.told later (l.call q) x]) :=
  List.rel_append (List.rel_append hc (.cons (.asked now q) .nil)) (.cons (.told later q x) .nil)

/-- A call through the link, with what was said before it. -/
theorem Carries.split {before after : Talk I} {c : Duration} {q : I.Call} {h' : Talk J}
    (hc : l.Carries (before ++ .asked c q :: after) h') : ∃ before' after',
      h' = before' ++ .asked c (l.call q) :: after' ∧ l.Carries before before' := by
  induction before generalizing h' with
  | nil =>
    cases hc with
    | cons hx _ =>
      cases hx
      exact ⟨[], _, rfl, .nil⟩
  | cons x rest ih =>
    cases hc with
    | @cons _ y _ _ hx hrest =>
      obtain ⟨before', after', rfl, hbefore⟩ := ih hrest
      exact ⟨y :: before', after', rfl, .cons hx hbefore⟩

/-- If no two calls are made as one, a line tells what was said. -/
theorem Relays.unique (hl : Function.Injective l.call) {x y : Entry I} {z : Entry J}
    (hx : l.Relays x z) (hy : l.Relays y z) : x = y := by
  cases hx with
  | asked now q =>
    generalize hz : Entry.asked now (l.call q) = z at hy
    cases hy with
    | asked _ p =>
      injection hz with hn hq
      rw [hn, hl hq]
    | told => cases hz
  | told now q a =>
    generalize hz : Entry.told now (l.call q) a = z at hy
    cases hy with
    | asked => cases hz
    | told _ p _ =>
      injection hz with hn hq ha
      obtain rfl := hl hq
      rw [hn, eq_of_heq ha]

@[inherit_doc Relays.unique]
theorem Carries.unique (hl : Function.Injective l.call) {h₁ h₂ : Talk I} {h' : Talk J}
    (hc₁ : l.Carries h₁ h') (hc₂ : l.Carries h₂ h') : h₁ = h₂ := by
  induction hc₁ generalizing h₂ with
  | nil =>
    cases hc₂
    rfl
  | cons hx _ ih =>
    cases hc₂ with
    | cons hy hc₂ => rw [hx.unique hl hy, ih hc₂]

/-- The rules `R'` ask no more of what is said through the link than `R` of what is said. -/
structure Relaxes (l : Link I J) (R : Rules I) (R' : Rules J) : Prop where
  /-- No other resources may be seen to be cancelled. -/
  seen : ∀ r, R'.seen r → R.seen r
  /-- What is allowed is allowed to be called instead. -/
  allows : ∀ h h' q, l.Carries h h' → R.allows h q → R'.allows h' (l.call q)

end Interface.Link

section Obeys

variable {R : Rules I} {R' : Rules J}

theorem Procedure.Obeys.through (hR : l.Relaxes R R') {Q : Duration → Talk I → α → Prop}
    {Q' : Duration → Talk J → α → Prop}
    (hQ : ∀ now h h' a, l.Carries h h' → Q now h a → Q' now h' a) {p : Procedure I α}
    {now : Duration} {h : Talk I} {h' : Talk J} (hc : l.Carries h h') (hp : p.Obeys R Q now h) :
    (l.procedure p).Obeys R' Q' now h' := by
  induction p generalizing now h h' with
  | done a => exact hQ _ _ _ _ hc hp
  | call q next ih =>
    refine ⟨hR.allows _ _ _ hc hp.1, fun later x => ?_⟩
    exact ih _ (hc.answered now later q x) (hp.2 later _)
  | look r next ih => exact fun b hb => ih b hc (hp b fun h => hR.seen r (hb h))

theorem Wait.Keeps.through (hR : l.Relaxes R R') {w : Wait I V} {started : Duration}
    {J' : Nat → Talk I → Prop} {K : Except PollError V → Duration → Talk I → Prop}
    {K' : Except PollError V → Duration → Talk J → Prop}
    (hK : ∀ o now h h', l.Carries h h' → K o now h → K' o now h')
    (hk : w.Keeps R started J' K) :
    (l.wait w).Keeps R' started (fun k h' => ∃ h, l.Carries h h' ∧ J' k h) K' where
  cancelled := by
    rintro k now h' ⟨h, hc, hJ⟩ hr
    exact hK _ _ _ _ hc (hk.cancelled k now h hJ (hR.seen _ hr))
  attempt := by
    rintro k now h' ⟨h, hc, hJ⟩ hnow
    refine (hk.attempt k now h hJ hnow).through hR ?_ hc
    intro later h h' x hc hx
    -- An attempt settles the wait through the link as it does without.
    unfold Wait.Settles at hx ⊢
    cases ha : w.polling.after (later - started) x with
    | stop o =>
      rw [ha] at hx
      rw [show (l.wait w).polling = w.polling from rfl, ha]
      exact hK _ _ _ _ hc hx
    | pause d =>
      rw [ha] at hx
      rw [show (l.wait w).polling = w.polling from rfl, ha]
      exact ⟨h, hc, hx⟩

theorem Program.Obeys.through (hR : l.Relaxes R R') {Q : Duration → Talk I → α → Prop}
    {Q' : Duration → Talk J → α → Prop}
    (hQ : ∀ now h h' a, l.Carries h h' → Q now h a → Q' now h' a) {p : Program I α}
    {now : Duration} {h : Talk I} {h' : Talk J} (hc : l.Carries h h') (hp : p.Obeys R Q now h) :
    (l.program p).Obeys R' Q' now h' := by
  induction p generalizing now h h' with
  | done a => exact hQ _ _ _ _ hc hp
  | call q next ih =>
    refine ⟨hR.allows _ _ _ hc hp.1, fun later x => ?_⟩
    exact ih _ (hc.answered now later q x) (hp.2 later _)
  | look r next ih => exact fun b hb => ih b hc (hp b fun h => hR.seen r (hb h))
  | wait w next ih =>
    obtain ⟨J', hJ, hkeep⟩ := hp
    exact ⟨_, ⟨h, hc, hJ⟩, hkeep.through hR fun o _ _ _ hc ho => ih o hc ho⟩

theorem Program.Obeys.map {Q : Duration → Talk I → β → Prop} {p : Program I α} {f : α → β}
    {now : Duration} {h : Talk I} (hp : p.Obeys R (fun now h a => Q now h (f a)) now h) :
    (p.map f).Obeys R Q now h :=
  Program.Obeys.bind (f := fun a => .done (f a)) hp

end Obeys

/-! ### Giving way to cancels -/

section GivesWay

variable {polling : Polling} {r : ResourceId}

theorem Procedure.CallFree.through {p : Procedure I α} (h : p.CallFree) :
    (l.procedure p).CallFree := by
  intro m
  obtain ⟨a, ha⟩ := h m
  refine ⟨a, ?_⟩
  clear h
  induction p with
  | done b =>
    cases ha
    rfl
  | call q next _ => cases ha
  | look r next ih => exact ih _ ha

theorem Wait.CallsOnce.through {w : Wait I V} (h : w.CallsOnce polling r) :
    (l.wait w).CallsOnce polling r where
  polling := h.polling
  resource := h.resource
  attempt k := by
    obtain ⟨q, next, hattempt, hnext⟩ := h.attempt k
    refine ⟨l.call q, fun x => l.procedure (next (l.answer q x)), ?_, fun x => (hnext _).through⟩
    show l.procedure (w.attempt k) = _
    rw [hattempt]
    rfl

theorem Program.GivesWay.through {late : α → Prop} {p : Program I (Except ActionError α)}
    (h : p.GivesWay polling r late) : (l.program p).GivesWay polling r late := by
  induction p with
  | done a => trivial
  | call q next ih => exact fun x => ih _ (h _)
  | look r' next ih => exact fun b => ih b (h b)
  | wait w next ih =>
    refine ⟨h.1.through, fun o => ?_⟩
    obtain ⟨res, hres, hlate⟩ := h.2 o
    refine ⟨res, ?_, hlate⟩
    show l.program (next o) = _
    rw [hres]
    rfl

theorem Program.GivesWay.map {late : α → Prop} {late' : β → Prop} {f : α → β}
    (hf : ∀ a, late a → late' (f a)) {p : Program I (Except ActionError α)}
    (h : p.GivesWay polling r late) : (p.map (·.map f)).GivesWay polling r late' := by
  induction p with
  | done a => trivial
  | call q next ih => exact fun x => ih x (h x)
  | look r' next ih => exact fun b => ih b (h b)
  | wait w next ih =>
    refine ⟨h.1, fun o => ?_⟩
    obtain ⟨res, hres, hlate⟩ := h.2 o
    refine ⟨res.map f, ?_, ?_⟩
    · show (next o).bind _ = _
      rw [hres]
      rfl
    · -- What succeeds afterwards, succeeded before.
      intro b hb
      cases res with
      | ok a =>
        cases hb
        exact hf a (hlate a rfl)
      | error e => cases hb

end GivesWay

/-! ### Not telling answers apart -/

/-- What the answers through the link mean. -/
def Interface.Link.reply (l : Link I J) (ρ : J.Reply) : I.Reply :=
  fun q => l.answer q (ρ (l.call q))

section Resembles

variable {A : I.Reply → I.Reply → Prop} {A' : J.Reply → J.Reply → Prop} {T T' : Prop}
  {R : α → β → Prop}

theorem Procedure.Resembles.through (hA : ∀ ρ ρ', A' ρ ρ' → A (l.reply ρ) (l.reply ρ'))
    {p p' : Procedure I α} (h : p.Resembles A p') :
    (l.procedure p).Resembles A' (l.procedure p') := by
  induction h with
  | done a => exact .done a
  | call _ ih => exact .call fun ρ ρ' hρ => ih _ _ (hA ρ ρ' hρ)
  | look _ ih => exact .look ih

theorem Wait.Resembles.through (hA : ∀ ρ ρ', A' ρ ρ' → A (l.reply ρ) (l.reply ρ'))
    {w w' : Wait I V} (h : w.Resembles A w') : (l.wait w).Resembles A' (l.wait w') where
  polling := h.polling
  resource := h.resource
  attempt k := (h.attempt k).through hA

theorem Program.Resembles.through (hA : ∀ ρ ρ', A' ρ ρ' → A (l.reply ρ) (l.reply ρ'))
    (hT : T → T') {p : Program I α} {p' : Program I β} (h : p.Resembles A T R p') :
    (l.program p).Resembles A' T' R (l.program p') := by
  induction h with
  | done h => exact .done h
  | call _ ih => exact .call fun ρ ρ' hρ => ih _ _ (hA ρ ρ' hρ)
  | look _ ih => exact .look ih
  | wait ht hw _ ih => exact .wait (hT ht) (hw.through hA) ih

theorem Program.Resembles.map {α' β' : Type} {S : α' → β' → Prop} {f : α → α'} {g : β → β'}
    {p : Program I α} {p' : Program I β} (h : p.Resembles A T R p')
    (hf : ∀ a b, R a b → S (f a) (g b)) : (p.map f).Resembles A T S (p'.map g) :=
  h.bind fun a b hab => .done (hf a b hab)

end Resembles

end ResourceFlow
