/-! # Locks

  A lock serializes the processing of one flow's events. It is handed over in
  the order in which it was asked for: while someone holds it, those who ask
  wait in a queue, and when the holder lets go, the first in the queue holds
  it at once. Those who take part are told apart by number.
-/

namespace ResourceFlow

/-- A lock and its queue. -/
structure Lock where
  /-- Who holds it. -/
  holder : Option Nat := none
  /-- Who waits for it, the first to be served first. -/
  queue : List Nat := []
  deriving DecidableEq, Inhabited

namespace Lock

/-- Whether nobody holds the lock. -/
def isFree (l : Lock) : Bool := l.holder.isNone

/-- Someone asks for the lock: holds it if it is free, else waits at the end. -/
def ask (l : Lock) (who : Nat) : Lock :=
  match l.holder with
  | none => { l with holder := some who }
  | some _ => { l with queue := l.queue ++ [who] }

/-- The holder lets go. -/
def pass (l : Lock) : Lock :=
  match l.queue with
  | [] => { l with holder := none }
  | who :: rest => { holder := some who, queue := rest }

end Lock

end ResourceFlow
