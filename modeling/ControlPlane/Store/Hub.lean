import ControlPlane.Store.Basic

/-!
# The change hub

Every batch the store commits goes out to each open receiver. A receiver keeps what it has
not taken yet, but only the newest `capacity` batches stay readable: a receiver that fell
further behind loses the oldest ones and is told how many it lost. The capacity is the
smallest power of two that is at least the configured one, and at least 1. A batch sent
while no receiver is open goes nowhere.
-/

namespace ControlPlane

/-- The smallest power of two that is at least `n`, and at least 1. -/
def powerOfTwoAtLeast (n : Nat) : Nat :=
  go n 1
where
  /-- Doubles `p` until it reaches `n`; `n` doublings always suffice. -/
  go : Nat → Nat → Nat
    | 0, p => p
    | fuel + 1, p => if n ≤ p then p else go fuel (2 * p)

/-- An open receiver and the batches sent to it that it has not taken, oldest first. -/
structure Receiver where
  id : Nat
  queue : List Batch := []
  deriving Inhabited

/-- What a receiver finds when it takes the next batch. -/
inductive Delivery where
  | batch (b : Batch)
  /-- Nothing was sent since the last take. -/
  | empty
  /-- The receiver fell behind and lost this many batches. -/
  | lagged (missed : Nat)
  deriving Inhabited

/-- The receivers of committed batches. -/
structure Hub where
  capacity : Nat := 1024
  receivers : List Receiver := []
  nextId : Nat := 0
  deriving Inhabited

namespace Hub

/-- A hub for a configured capacity. -/
def make (capacity : Nat) : Hub := { capacity := powerOfTwoAtLeast (max capacity 1) }

def subscribe (h : Hub) : Hub × Nat :=
  ({ h with receivers := h.receivers ++ [{ id := h.nextId }], nextId := h.nextId + 1 }, h.nextId)

def close (h : Hub) (id : Nat) : Hub :=
  { h with receivers := h.receivers.filter (·.id != id) }

def send (h : Hub) (b : Batch) : Hub :=
  { h with receivers := h.receivers.map fun r => { r with queue := r.queue ++ [b] } }

def count (h : Hub) : Nat := h.receivers.length

/-- The batches a receiver has not taken yet. -/
def queued (h : Hub) (id : Nat) : List Batch :=
  match h.receivers.find? (·.id == id) with
  | some r => r.queue
  | none => []

def setQueue (h : Hub) (id : Nat) (queue : List Batch) : Hub :=
  { h with receivers := h.receivers.map fun r => if r.id == id then { r with queue } else r }

/-- Takes the next batch of a receiver. A receiver more than `capacity` batches behind loses
the oldest ones and keeps the newest `capacity`. -/
def take (h : Hub) (id : Nat) : Delivery × Hub :=
  let queue := h.queued id
  if h.capacity < queue.length then
    let missed := queue.length - h.capacity
    (.lagged missed, h.setQueue id (queue.drop missed))
  else
    match queue with
    | [] => (.empty, h)
    | b :: rest => (.batch b, h.setQueue id rest)

end Hub

end ControlPlane
