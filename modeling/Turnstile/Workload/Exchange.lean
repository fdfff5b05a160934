import Turnstile.Event
import Turnstile.Permits.Backend
import Turnstile.Queue.Calls
import Turnstile.Workload.Basic

/-!
# Workloads in which threads hand something over

Two threads that take turns, and threads that pass items through a queue.
-/

namespace Turnstile.Workload

set_option autoImplicit false

variable {σ π ρ κ : Type}

/-- Two threads that wait for each other in turn, with an object for each
direction: the first thread gives at the first object, where the second takes, and
the answer goes through the second object. -/
def turns (machine : Machine σ π ρ) (object : σ) (give take : π) (rounds : Nat) :
    Shop (σ × σ) Nat :=
  let first : List (Order (σ × σ) (π ⊕ π) (ρ ⊕ ρ) Nat) :=
    Workload.rounds rounds fun _ => [plain (.inl give), plain (.inr take)]
  let second : List (Order (σ × σ) (π ⊕ π) (ρ ⊕ ρ) Nat) :=
    Workload.rounds rounds fun _ => [plain (.inl take), record (· + 1), plain (.inr give)]
  perform (machine.beside machine) (object, object) 0 [first, second]

def turnsBySemaphore (backend : Permits.Backend) (rounds : Nat) : Nat × UInt64 × UInt64 :=
  let shop := turns backend.machine (backend.ofPermits 0)
    (Permits.SemaphoreCall.post.start backend) (Permits.SemaphoreCall.wait.start backend) rounds
  (shop.ledger, backend.count shop.object.1, backend.count shop.object.2)

def turnsByEvent (rounds : Nat) : Nat × Bool × Bool :=
  let shop := turns Event.machine (Event.ofMode .auto false) (Event.start .signal)
    (Event.start .wait) rounds
  (shop.ledger, shop.object.1.signaled, shop.object.2.signaled)

/-- What came out of a queue: how many numbers, their sum, and how often a
consumer got something older than what it had from the same producer. -/
structure Delivered where
  received : Nat := 0
  sum : Nat := 0
  reordered : Nat := 0
  /-- The latest position that a consumer had from a producer. -/
  latest : List ((ThreadId × Nat) × Nat) := []

/-- A consumer has got number `position` of a producer, of `rounds` each. -/
def Delivered.receive (consumer rounds item : Nat) (delivered : Delivered) : Delivered :=
  let key := (consumer, item / rounds)
  let isLate := (delivered.latest.lookup key).any fun latest => item % rounds ≤ latest
  { received := delivered.received + 1
    sum := delivered.sum + item
    reordered := if isLate then delivered.reordered + 1 else delivered.reordered
    latest := (key, item % rounds) :: delivered.latest.filter (·.1 ≠ key) }

/-- Producers that push their numbers, and as many consumers that pop as often:
the ledger and the queue. -/
def passThrough (queue : Queue Nat) (threads rounds : Nat) : Delivered × Queue Nat :=
  let producer (me : Nat) :
      List (Order (Queue Nat) (Queue.Point Nat) (Queue.Answer Nat) Delivered) :=
    Workload.rounds rounds fun round => [plain (Queue.start (.push (me * rounds + round)))]
  let consumer (me : Nat) :
      List (Order (Queue Nat) (Queue.Point Nat) (Queue.Answer Nat) Delivered) :=
    Workload.rounds rounds fun _ =>
      [.call (Queue.start .pop) fun answer delivered =>
        match answer with
        | .pop (.item item) => delivered.receive me rounds item
        | _ => delivered]
  let members := List.range threads
  let shop := perform (Queue.machine Nat) queue {} (members.map producer ++ members.map consumer)
  (shop.ledger, shop.object)

end Turnstile.Workload
