import ResourceFlow.Data.Table
import ResourceFlow.Flow.Error
import ResourceFlow.Registry.Lock
/-! # Execution lanes

  Each resource has one lane, and a flow occupies it from the moment it is
  opened until it has ended: `claim` succeeds only on a free lane, and only
  the occupant can `release` it. Every successful claim comes with a lock of
  its own; whoever processes events of the flow holds that lock. A lock
  outlives its lane, so a late holder never keeps the next occupant waiting.
-/

namespace ResourceFlow

/-- The number of a lock; locks are numbered in the order in which lanes were claimed. -/
abbrev LockId := Nat

/-- An occupied lane. -/
structure Lane where
  /-- The flow that occupies the lane. -/
  flow : FlowId
  /-- The type of that flow. -/
  flowType : String
  /-- The lock that serializes the flow's events. -/
  lock : LockId
  deriving DecidableEq, Inhabited

/-- The lanes of the resources, and the locks given out with them. -/
structure Lanes where
  /-- The occupied lanes. -/
  occupied : Table ResourceId Lane := .empty
  /-- The locks that someone has asked for; any other is free. -/
  locks : Table LockId Lock := .empty
  /-- The number of the next lock. -/
  nextLock : LockId := 0
  deriving Inhabited

namespace Lanes

/-! ### Occupancy -/

/-- The lane of a resource, if a flow occupies it. -/
def lane? (l : Lanes) (r : ResourceId) : Option Lane := l.occupied.get? r

/-- The flow that occupies the lane of a resource. -/
def activeFlow? (l : Lanes) (r : ResourceId) : Option FlowId := (l.lane? r).map Lane.flow

/-- Whether the flow occupies the lane of the resource. -/
def holds (l : Lanes) (r : ResourceId) (f : FlowId) : Bool := l.activeFlow? r = some f

/-- The number of occupied lanes. -/
def size (l : Lanes) : Nat := l.occupied.size

/-- A flow takes the lane of a resource; a conflict if another flow occupies it. -/
def claim (l : Lanes) (r : ResourceId) (f : FlowId) (flowType : String) :
    Except FlowError Lanes :=
  match l.lane? r with
  | some lane => .error (.conflict r lane.flow lane.flowType)
  | none => .ok { l with
      occupied := l.occupied.insert r { flow := f, flowType := flowType, lock := l.nextLock }
      nextLock := l.nextLock + 1 }

/-- The lane is free again, if the flow occupies it. -/
def release (l : Lanes) (r : ResourceId) (f : FlowId) : Lanes :=
  if l.holds r f then { l with occupied := l.occupied.erase r } else l

/-! ### Locks -/

/-- The lock of that number. -/
def lock (l : Lanes) (i : LockId) : Lock := (l.locks.get? i).getD {}

/-- Someone asks for a lock. -/
def ask (l : Lanes) (i : LockId) (who : Nat) : Lanes :=
  { l with locks := l.locks.insert i ((l.lock i).ask who) }

/-- The holder of a lock lets go. -/
def pass (l : Lanes) (i : LockId) : Lanes :=
  { l with locks := l.locks.insert i (l.lock i).pass }

/-- Whether someone holds a lock. -/
def isHeldBy (l : Lanes) (i : LockId) (who : Nat) : Bool := (l.lock i).holder = some who

/-! ### What the operations do to the occupancy -/

@[simp] theorem lane?_ask (l : Lanes) (i : LockId) (who : Nat) (r : ResourceId) :
    (l.ask i who).lane? r = l.lane? r := rfl

@[simp] theorem lane?_pass (l : Lanes) (i : LockId) (r : ResourceId) :
    (l.pass i).lane? r = l.lane? r := rfl

theorem lane?_claim {l l' : Lanes} {r : ResourceId} {f : FlowId} {flowType : String}
    (h : l.claim r f flowType = .ok l') (r' : ResourceId) :
    l'.lane? r' = if r' = r then some ⟨f, flowType, l.nextLock⟩ else l.lane? r' := by
  unfold claim at h
  split at h
  · cases h
  · cases h; simp [lane?, Table.get?_insert]

theorem lane?_release (l : Lanes) (r r' : ResourceId) (f : FlowId) :
    (l.release r f).lane? r' = if r' = r ∧ l.holds r f = true then none else l.lane? r' := by
  unfold release
  by_cases h : l.holds r f = true
  · simp only [h, if_true, lane?, Table.get?_erase, and_true]
  · simp [h]

end Lanes

end ResourceFlow
