import Turnstile.Duration
import Turnstile.Fault
import Turnstile.Pool.Failure
import Turnstile.Text.Record

/-!
# The settings of a pool

How many workers there are, how much fits into the queue of each, how often a
submission looks for room before it waits, how the threads of the workers are
named, and how long an idle worker sleeps before it looks at the queues of the
others again.

A `Draft` leaves settings open; `Draft.resolve` fills them in.
-/

namespace Turnstile.Pool

set_option autoImplicit false

def greatestSize : Nat := UInt64.size - 1

structure Config where
  workers : Nat
  queueCapacity : Nat
  /-- A submission looks for room this often at each of the workers' queues. -/
  stealFactor : Nat
  threadName : String
  /-- How long an idle worker sleeps at most. -/
  idlePark : Duration
  deriving DecidableEq, Repr

namespace Config

def standardQueueCapacity : Nat := 256
def standardStealFactor : Nat := 2
def standardThreadName : String := "fastsync-worker"
def standardIdlePark : Duration := ⟨1000000, by decide⟩

/-- The number of workers where the number of processors is not known. -/
def fallbackWorkers : Nat := 4

structure Draft where
  workers : Option Nat := none
  queueCapacity : Option Nat := none
  stealFactor : Option Nat := none
  threadName : Option String := none
  idlePark : Option Duration := none
  deriving DecidableEq, Repr

/-- The settings of a draft on a machine with so many processors: one worker for
each, and the standard in everything else that is left open. -/
def Draft.resolve (processors : Nat) (draft : Draft) : Config where
  workers := draft.workers.getD processors
  queueCapacity := draft.queueCapacity.getD standardQueueCapacity
  stealFactor := draft.stealFactor.getD standardStealFactor
  threadName := draft.threadName.getD standardThreadName
  idlePark := draft.idlePark.getD standardIdlePark

/-- What is wrong with settings that cannot work, by the first rule that they
break. -/
def flaw? (config : Config) : Option Failure :=
  let broken (name : String) : Option Failure := some (.invalidConfig s!"{name} must be > 0")
  if config.workers = 0 then broken "workers"
  else if config.queueCapacity = 0 then broken "queue_capacity"
  else if config.stealFactor = 0 then broken "steal_factor"
  else if config.idlePark.isZero then broken "idle_park"
  else none

/-- How often a submission looks for room before it waits. -/
def submitAttempts (config : Config) : Nat :=
  min (config.stealFactor * config.workers) greatestSize

def workerName (config : Config) (worker : Nat) : String := s!"{config.threadName}-{worker}"

/-- A thread name must not have a zero in it. -/
def nameFault? (config : Config) : Option Fault :=
  let bytes := (config.workerName 0).toUTF8.toList
  (bytes.findIdx? (· = 0)).map fun position => .zeroInThreadName position bytes

def describe (config : Config) : String :=
  Text.record "PoolConfig"
    [("workers", toString config.workers), ("queue_capacity", toString config.queueCapacity),
      ("steal_factor", toString config.stealFactor),
      ("thread_name", Text.quoted config.threadName),
      ("idle_park", config.idlePark.describe)]

end Config

end Turnstile.Pool
