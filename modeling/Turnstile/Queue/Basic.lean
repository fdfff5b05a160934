import Turnstile.Queue.Refusal
import Turnstile.Queue.Ring
import Turnstile.Semaphore
import Turnstile.Text.Record

/-!
# A bounded queue

A ring of slots, a flag that says whether the queue is closed, and two
semaphores: one with a permit for every free slot, on which pushers sleep, and
one with a permit for every item, on which poppers sleep. Whoever has a permit
goes to the ring.

Closing adds one extra permit to each semaphore. A caller that took it and finds
nothing to do posts it again, so it travels from caller to caller and every
sleeper gets up.

The critical sections are functions here, so that a queue can be looked at one
section at a time, or one whole operation at a time (`tryPush`, `push`,
`tryPop`, `pop`, `close`): an operation is its sections in a row.
-/

namespace Turnstile

set_option autoImplicit false

structure Queue (α : Type) where
  ring : Queue.Ring α
  closed : Bool
  openSlots : Semaphore
  fullSlots : Semaphore

namespace Queue

variable {α : Type}

def greatestCapacity : Nat := UInt64.size / 256

/-- What keeps a queue from having so many slots. -/
def capacityFault? (capacity : Nat) : Option Fault :=
  if capacity = 0 then some .emptyCapacity
  else if greatestCapacity < capacity then some .capacityTooLarge
  else none

def ofCapacity (capacity : Nat) : Except Fault (Queue α) :=
  match capacityFault? capacity with
  | some fault => .error fault
  | none => .ok ⟨.ofCapacity capacity, false, .ofPermits (UInt64.ofNat capacity), .empty⟩

def len (queue : Queue α) : Nat := queue.ring.count
def capacity (queue : Queue α) : Nat := queue.ring.capacity
def isEmpty (queue : Queue α) : Bool := queue.len = 0
def isFull (queue : Queue α) : Bool := queue.len = queue.capacity

/-- The stored items, oldest first. -/
def toList (queue : Queue α) : List α := queue.ring.toList

/-- What a caller with a permit for a slot finds. -/
inductive Stored (α : Type) where
  | closed
  | stored (queue : Queue α)
  | fault (fault : Fault)

def store (item : α) (queue : Queue α) : Stored α :=
  if queue.closed then .closed
  else
    match queue.ring.put item with
    | .ok ring => .stored { queue with ring }
    | .error fault => .fault fault

/-- What a caller with a permit for an item finds. -/
inductive Loaded (α : Type) where
  | nothing
  | loaded (item : α) (queue : Queue α)
  | fault (fault : Fault)

def load (queue : Queue α) : Loaded α :=
  match queue.ring.take with
  | .ok none => .nothing
  | .ok (some (item, ring)) => .loaded item { queue with ring }
  | .error fault => .fault fault

def postOpen (queue : Queue α) : Queue α := { queue with openSlots := queue.openSlots.post }
def postFull (queue : Queue α) : Queue α := { queue with fullSlots := queue.fullSlots.post }

inductive PushAnswer (α : Type) where
  | stored
  | refused (refusal : Refusal α)
  | fault (fault : Fault)

inductive PopAnswer (α : Type) where
  | item (item : α)
  | nothing
  | fault (fault : Fault)

inductive Attempt (α β : Type) where
  | finished (answer : β) (queue : Queue α)
  /-- The caller has joined a line. -/
  | joined (queue : Queue α)
  /-- The caller is still in the line. -/
  | asleep

def storeAll (item : α) (queue : Queue α) : PushAnswer α × Queue α :=
  match queue.store item with
  | .closed => (.refused (.closed item), queue.postOpen)
  | .stored queue => (.stored, queue.postFull)
  | .fault fault => (.fault fault, queue)

/-- A pop that has its permit, to the end. Only a closed queue has a permit
without an item. -/
def loadAll (queue : Queue α) : PopAnswer α × Queue α :=
  match queue.load with
  | .loaded item queue => (.item item, queue.postOpen)
  | .nothing =>
    if queue.closed then (.nothing, queue.postFull) else (.fault .permitWithoutItem, queue)
  | .fault fault => (.fault fault, queue)

def tryPush (item : α) (queue : Queue α) : PushAnswer α × Queue α :=
  match queue.openSlots.take? with
  | none => (.refused (if queue.closed then .closed item else .full item), queue)
  | some openSlots => storeAll item { queue with openSlots }

def push (me : ThreadId) (item : α) (queue : Queue α) : Attempt α (PushAnswer α) :=
  match queue.openSlots.wait me with
  | .taken openSlots =>
    let (answer, queue) := storeAll item { queue with openSlots }
    .finished answer queue
  | .joined openSlots => .joined { queue with openSlots }
  | .asleep => .asleep

def tryPop (queue : Queue α) : PopAnswer α × Queue α :=
  match queue.fullSlots.take? with
  | none => (.nothing, queue)
  | some fullSlots => loadAll { queue with fullSlots }

def pop (me : ThreadId) (queue : Queue α) : Attempt α (PopAnswer α) :=
  match queue.fullSlots.wait me with
  | .taken fullSlots =>
    let (answer, queue) := loadAll { queue with fullSlots }
    .finished answer queue
  | .joined fullSlots => .joined { queue with fullSlots }
  | .asleep => .asleep

/-- The end of a timed pop of a caller in the line: one more attempt without a
wait. `none` if the caller is not in the line. -/
def popExpired? (me : ThreadId) (queue : Queue α) : Option (PopAnswer α × Queue α) :=
  (queue.fullSlots.withdraw? me).map fun fullSlots => tryPop { queue with fullSlots }

def close (queue : Queue α) : Queue α :=
  if queue.closed then queue else { queue with closed := true }.postFull.postOpen

/-- The stored items are thrown away. -/
def clear (queue : Queue α) : Queue α := { queue with ring := .ofCapacity queue.capacity }

def describe (queue : Queue α) : String :=
  Text.record "BoundedQueue"
    [("len", toString queue.len), ("capacity", toString queue.capacity),
      ("closed", toString queue.closed)]

end Queue

end Turnstile
