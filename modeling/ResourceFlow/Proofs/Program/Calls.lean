import ResourceFlow.Flow.Definition
import ResourceFlow.Proofs.Program.Likeness
/-! # Programs that make only some of the calls

  A program makes calls of `P` only (`Program.Calls`) if that holds of it after
  any answers, and of the attempts of its waits. Such a program depends on the
  answers to these calls alone: with other answers to other calls it goes on as
  it did (`Program.Calls.resembles`).

  For actions and definitions it is put together from their parts
  (`Action.Calls`, `Definition.Calls`).
-/

namespace ResourceFlow

variable {I : Interface} {P : I.Call → Prop} {α β : Type}

/-! ### Programs -/

/-- Every call that the procedure can make is one of `P`. -/
def Procedure.Calls (P : I.Call → Prop) : Procedure I α → Prop
  | .done _ => True
  | .call q next => P q ∧ ∀ x, (next x).Calls P
  | .look _ next => ∀ b, (next b).Calls P

/-- Every call that the program can make is one of `P`, in its waits too. -/
def Program.Calls (P : I.Call → Prop) : Program I α → Prop
  | .done _ => True
  | .call q next => P q ∧ ∀ x, (next x).Calls P
  | .look _ next => ∀ b, (next b).Calls P
  | .wait w next => (∀ k, (w.attempt k).Calls P) ∧ ∀ o, (next o).Calls P

theorem Program.Calls.bind {p : Program I α} {f : α → Program I β} (h : p.Calls P)
    (hf : ∀ a, (f a).Calls P) : (p >>= f).Calls P := by
  induction p with
  | done a => exact hf a
  | call q next ih => exact ⟨h.1, fun x => ih x (h.2 x)⟩
  | look r next ih => exact fun b => ih b (h b)
  | wait w next ih => exact ⟨h.1, fun o => ih o (h.2 o)⟩

section Resembles

variable {A : I.Reply → I.Reply → Prop} {T : Prop}

theorem Procedure.Calls.resembles {p : Procedure I α} (h : p.Calls P)
    (hA : ∀ ρ ρ', A ρ ρ' → ∀ q, P q → ρ' q = ρ q) : p.Resembles A p := by
  induction p with
  | done a => exact .done a
  | call q next ih =>
    refine .call fun ρ ρ' hρ => ?_
    rw [hA ρ ρ' hρ q h.1]
    exact ih _ (h.2 _)
  | look r next ih => exact .look fun b => ih b (h b)

/-- A program goes on the same if the answers to its calls are the same. -/
theorem Program.Calls.resembles {p : Program I α} (h : p.Calls P)
    (hA : ∀ ρ ρ', A ρ ρ' → ∀ q, P q → ρ' q = ρ q) (hT : T) :
    p.Resembles A T (fun a b => b = a) p := by
  induction p with
  | done a => exact .done rfl
  | call q next ih =>
    refine .call fun ρ ρ' hρ => ?_
    rw [hA ρ ρ' hρ q h.1]
    exact ih _ (h.2 _)
  | look r next ih => exact .look fun b => ih b (h b)
  | wait w next ih =>
    exact .wait hT ⟨rfl, rfl, fun k => (h.1 k).resembles hA⟩ fun o => ih o (h.2 o)

end Resembles

/-! ### Actions -/

namespace Action

variable {ε ε' : Type} {P : Call → Prop}

/-- Every call that the action can make is one of `P`. -/
def Calls (P : Call → Prop) (x : Action ε α) : Prop := x.run.Calls (I := Collaborators) P

theorem calls_pure (a : α) : Calls P (pure a : Action ε α) := trivial

theorem calls_throw (e : ε) : Calls P (throw e : Action ε α) := trivial

theorem Calls.bind {x : Action ε α} {f : α → Action ε β} (h : Calls P x)
    (hf : ∀ a, Calls P (f a)) : Calls P (x >>= f) := by
  refine Program.Calls.bind (p := x.run) h fun res => ?_
  cases res with
  | ok a => exact hf a
  | error e => trivial

theorem calls_ask {q : Call} (h : P q) : Calls P (q.ask : Action ε _) := ⟨h, fun _ => trivial⟩

theorem calls_orFail {q : Call} (h : P q) : Calls P q.orFail := ⟨h, fun _ => trivial⟩

theorem calls_adapt {x : Action ε α} (h : Calls P x) (f : ε → ε') :
    Calls P (ExceptT.adapt f x : Action ε' α) :=
  Program.Calls.bind (p := x.run) h fun _ => trivial

theorem calls_wait {w : Wait Collaborators Unit}
    (h : ∀ k, (w.attempt k).Calls (I := Collaborators) P) : Calls P w.orFail :=
  ⟨h, fun _ => trivial⟩

end Action

/-! ### Definitions -/

variable {V : Vocabulary}

/-- The actions and handlers make calls of `P` only. -/
structure Definition.Calls (d : Definition V I) (h : Dispatcher V I) (P : I.Call → Prop) :
    Prop where
  /-- The actions of the states. -/
  execute : ∀ s p e, (d.execute s p e).Calls P
  /-- The handlers. -/
  accept : ∀ {selector hd}, h.handler? selector = some hd → ∀ f e, (hd.accept f e).Calls P

end ResourceFlow
