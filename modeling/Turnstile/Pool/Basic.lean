import Turnstile.Machine
import Turnstile.Pool.Config
import Turnstile.Pool.Note
import Turnstile.Queue.Basic

/-!
# The shared state of a pool

One queue for each worker, the counters, and what became of every submission so
far. Everything that threads do to each other in a pool they do through one of
the functions here; an operation of a queue is one action.
-/

namespace Turnstile

set_option autoImplicit false

open Turnstile.Task (Ticket Job Delivery Outcome)

namespace Pool

/-- What became of a worker's thread. -/
inductive Fate where
  | alive
  /-- It came to the end of its work. -/
  | left
  /-- A job ended it. -/
  | died
  deriving DecidableEq, Repr

/-- What reaches a pool from outside, apart from calls. -/
inductive Signal where
  | openGate (gate : String)
  /-- The handle of a ticket is dropped. -/
  | forgo (ticket : Ticket)
  deriving DecidableEq, Repr

end Pool

structure Pool (α : Type) where
  config : Pool.Config
  /-- The queue of each worker. -/
  queues : List (Queue (Job α))
  /-- Where the next submission begins to look for room. -/
  nextQueue : UInt64
  counters : Pool.Counters
  fates : List Pool.Fate
  /-- The delivery of each ticket. -/
  deliveries : List (Delivery α)
  isOpen : String → Bool
  /-- Whether there was a handle of the ticket, and it has been dropped. -/
  isForgone : Ticket → Bool
  /-- What has happened so far, the latest first. -/
  journal : List Pool.Note

namespace Pool

variable {α : Type}

/-- A pool of which no thread has run yet. -/
def initial (config : Config) (queue : Queue (Job α)) : Pool α where
  config := config
  queues := List.replicate config.workers queue
  nextQueue := 0
  counters := {}
  fates := List.replicate config.workers .alive
  deliveries := []
  isOpen _ := false
  isForgone _ := false
  journal :=
    [.opened config.workers config.queueCapacity config.submitAttempts config.idlePark.micros]

def note (what : Note) (pool : Pool α) : Pool α := { pool with journal := what :: pool.journal }

def count (bump : Counters → Counters) (pool : Pool α) : Pool α :=
  { pool with counters := bump pool.counters }

def setQueue (index : Nat) (queue : Queue (Job α)) (pool : Pool α) : Pool α :=
  { pool with queues := pool.queues.set index queue }

def setFate (worker : Nat) (fate : Fate) (pool : Pool α) : Pool α :=
  { pool with fates := pool.fates.set worker fate }

def issueTicket (pool : Pool α) : Ticket × Pool α :=
  (pool.deliveries.length, { pool with deliveries := pool.deliveries ++ [.pending] })

def setDelivery (ticket : Ticket) (delivery : Delivery α) (pool : Pool α) : Pool α :=
  { pool with deliveries := pool.deliveries.set ticket delivery }

def heed (signal : Signal) (pool : Pool α) : Pool α :=
  { pool with
    isOpen := fun gate => signal = .openGate gate || pool.isOpen gate
    isForgone := fun ticket => signal = .forgo ticket || pool.isForgone ticket }

/-- The same pool in which no gate holds anybody up. -/
def openAllGates (pool : Pool α) : Pool α := { pool with isOpen := fun _ => true }

def queued (pool : Pool α) : List (Job α) := pool.queues.flatMap Queue.toList

def stats (pool : Pool α) : Stats where
  workers := pool.queues.length
  queued := pool.queues.foldr (fun queue rest => queue.len + rest) 0
  counters := pool.counters

/-- The pool is taken down: the jobs that are left are discarded. -/
def dismantle (pool : Pool α) : Pool α :=
  let left := pool.queued.map Job.ticket
  { pool with
    queues := pool.queues.map Queue.clear
    deliveries := pool.deliveries.mapIdx fun ticket delivery =>
      if left.contains ticket then delivery.close else delivery
    journal := (left.map .discarded).reverse ++ pool.journal }

def describe (pool : Pool α) : String :=
  Text.record "ThreadPool"
    [("workers", toString pool.queues.length),
      ("submit_attempts", toString pool.config.submitAttempts)]

end Pool

end Turnstile
