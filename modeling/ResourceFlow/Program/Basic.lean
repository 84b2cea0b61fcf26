import ResourceFlow.Polling.Basic
import ResourceFlow.Flow.Event
/-! # Programs

  What an action, a handler or a service does is a program: it calls
  collaborators, looks whether a resource is cancelled, waits, and in the end
  has a result. A program is a value that says what it does next and how it
  goes on, so that whoever runs it decides when each call is answered and what
  happens in between.

  A `Procedure` only calls and looks; the attempts of a wait are procedures.
  A `Program` can also wait. Every procedure and every attempt ends after
  finitely many calls; a wait may go on for as many attempts as its time limit
  and the collaborators' answers make it.
-/

namespace ResourceFlow

/-- The calls that programs can make, and what is answered to each. -/
structure Interface where
  /-- The calls. -/
  Call : Type
  /-- The answers to a call. -/
  Answer : Call → Type

/-- An answer to every call. -/
abbrev Interface.Reply (I : Interface) : Type := (q : I.Call) → I.Answer q

/-! ### Procedures -/

/-- A program that does not wait. -/
inductive Procedure (I : Interface) (α : Type) where
  /-- It ends with a result. -/
  | done (a : α)
  /-- It makes a call and goes on with the answer. -/
  | call (q : I.Call) (next : I.Answer q → Procedure I α)
  /-- It looks whether a resource is cancelled. -/
  | look (r : ResourceId) (next : Bool → Procedure I α)

namespace Procedure

variable {I : Interface} {α β : Type}

/-- One procedure after another. -/
def bind : Procedure I α → (α → Procedure I β) → Procedure I β
  | .done a, f => f a
  | .call q next, f => .call q fun x => (next x).bind f
  | .look r next, f => .look r fun b => (next b).bind f

instance : Monad (Procedure I) where
  pure := .done
  bind := bind

/-- A single call. -/
def ask (q : I.Call) : Procedure I (I.Answer q) := .call q .done

/-- A single look. -/
def isCancelled (r : ResourceId) : Procedure I Bool := .look r .done

end Procedure

/-! ### Waits -/

/-- A wait: its attempts, by number, and whose cancellation ends it. -/
structure Wait (I : Interface) (V : Type) where
  /-- Interval, time limit and error policy. -/
  polling : Polling
  /-- The resource whose cancellation ends the wait. -/
  resource : ResourceId
  /-- What the attempt of a number does; the first has number zero. -/
  attempt : Nat → Procedure I (Except String (Attempt V))

/-! ### Programs with waits -/

/-- A program that calls collaborators and waits. -/
inductive Program (I : Interface) (α : Type) where
  /-- It ends with a result. -/
  | done (a : α)
  /-- It makes a call and goes on with the answer. -/
  | call (q : I.Call) (next : I.Answer q → Program I α)
  /-- It looks whether a resource is cancelled. -/
  | look (r : ResourceId) (next : Bool → Program I α)
  /-- It waits and goes on with the outcome. -/
  | wait (w : Wait I Unit) (next : Except PollError Unit → Program I α)

namespace Program

variable {I : Interface} {α β : Type}

/-- One program after another. -/
def bind : Program I α → (α → Program I β) → Program I β
  | .done a, f => f a
  | .call q next, f => .call q fun x => (next x).bind f
  | .look r next, f => .look r fun b => (next b).bind f
  | .wait w next, f => .wait w fun o => (next o).bind f

instance : Monad (Program I) where
  pure := .done
  bind := bind

/-- A single call. -/
def ask (q : I.Call) : Program I (I.Answer q) := .call q .done

/-- A single look. -/
def isCancelled (r : ResourceId) : Program I Bool := .look r .done

/-- A single wait. -/
def await (w : Wait I Unit) : Program I (Except PollError Unit) := .wait w .done

end Program

/-- A procedure as a program. -/
def Procedure.toProgram {I : Interface} {α : Type} : Procedure I α → Program I α
  | .done a => .done a
  | .call q next => .call q fun x => (next x).toProgram
  | .look r next => .look r fun b => (next b).toProgram

/-! ### Changing the interface -/

/-- How the calls of one interface are made through another. -/
structure Interface.Link (I J : Interface) where
  /-- The call that is made instead. -/
  call : I.Call → J.Call
  /-- What its answer means. -/
  answer : (q : I.Call) → J.Answer (call q) → I.Answer q

namespace Interface.Link

variable {I J : Interface} {α V : Type}

/-- A procedure whose calls go through a link. -/
def procedure (l : Link I J) : Procedure I α → Procedure J α
  | .done a => .done a
  | .call q next => .call (l.call q) fun x => l.procedure (next (l.answer q x))
  | .look r next => .look r fun b => l.procedure (next b)

/-- A wait whose calls go through a link. -/
def wait (l : Link I J) (w : Wait I V) : Wait J V where
  polling := w.polling
  resource := w.resource
  attempt k := l.procedure (w.attempt k)

/-- A program whose calls go through a link. -/
def program (l : Link I J) : Program I α → Program J α
  | .done a => .done a
  | .call q next => .call (l.call q) fun x => l.program (next (l.answer q x))
  | .look r next => .look r fun b => l.program (next b)
  | .wait w next => .wait (l.wait w) fun o => l.program (next o)

end Interface.Link

end ResourceFlow
