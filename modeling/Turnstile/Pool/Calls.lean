import Turnstile.Pool.Closing
import Turnstile.Pool.Handle
import Turnstile.Pool.Worker

/-!
# A pool and its callers

The threads of a pool are its workers, which start when the pool is opened, and
the callers: who submits a task, asks for an outcome, or closes the pool.
-/

namespace Turnstile.Pool

set_option autoImplicit false

open Turnstile.Task (Ticket Body Outcome Job)

variable {α : Type}

inductive Point (α : Type) where
  | worker (worker : Worker α)
  | submission (submission : Submission α)
  | inquiry (inquiry : Inquiry α)
  | closing (closing : Closing)

inductive Answer (α : Type) where
  | receipt (receipt : Receipt)
  | outcome (outcome : Option (Outcome α))
  | closed

def act (me : ThreadId) (point : Point α) (pool : Pool α) : Option (Point α × Pool α) :=
  match point with
  | .worker worker => (worker.act me pool).map fun (worker, pool) => (.worker worker, pool)
  | .submission submission =>
    (submission.act me pool).map fun (submission, pool) => (.submission submission, pool)
  | .inquiry inquiry => (inquiry.act pool).map fun (inquiry, pool) => (.inquiry inquiry, pool)
  | .closing closing => (closing.act pool).map fun (closing, pool) => (.closing closing, pool)

def expire (me : ThreadId) (point : Point α) (pool : Pool α) : Option (Point α × Pool α) :=
  match point with
  | .worker worker => (worker.expire me pool).map fun (worker, pool) => (.worker worker, pool)
  | .inquiry inquiry => (inquiry.expire pool).map fun (inquiry, pool) => (.inquiry inquiry, pool)
  | .submission _ | .closing _ => none

def answer? : Point α → Option (Answer α)
  | .submission (.done receipt) => some (.receipt receipt)
  | .inquiry (.done outcome) => some (.outcome outcome)
  | .closing .done => some .closed
  | _ => none

def machine (α : Type) : Machine (Pool α) (Point α) (Answer α) := ⟨act, expire, answer?⟩

abbrev Running (α : Type) := World (Pool α) (Point α)

inductive Rejection where
  | failure (failure : Failure)
  | fault (fault : Fault)
  deriving DecidableEq, Repr

/-- No list in memory has more queues: each takes 384 bytes of the `2 ^ 63 - 1` that
there can be. -/
def greatestWorkers : Nat := (UInt64.size / 2 - 1) / 384

/-- What keeps a pool from having the queues that its settings ask for. -/
def Config.queueFault? (config : Config) : Option Fault :=
  if greatestWorkers < config.workers then some .capacityTooLarge
  else Queue.capacityFault? config.queueCapacity

/-- What keeps a pool from being opened with these settings. -/
def Config.rejection? (config : Config) : Option Rejection :=
  (config.flaw?.map .failure).or ((config.queueFault?.or config.nameFault?).map .fault)

def start (config : Config) : Except Rejection (Running α) :=
  match config.rejection? with
  | some rejection => .error rejection
  | none =>
    match Queue.ofCapacity (α := Job α) config.queueCapacity with
    | .ok queue => .ok ⟨initial config queue, List.replicate config.workers (.worker .start)⟩
    | .error fault => .error (.fault fault)

def startWithoutThreads (config : Config) : Rejection :=
  config.rejection?.getD
    (.failure (.spawnFailed "Resource temporarily unavailable (os error 11)"))

inductive Call (α : Type) where
  | submit (body : Body α)
  | submitTo (worker : Nat) (body : Body α)
  | ask (ticket : Ticket)
  | wait (ticket : Ticket)
  | waitBriefly (ticket : Ticket)
  | close

def begin : Call α → Point α
  | .submit body => .submission (.begin body)
  | .submitTo worker body => .submission (.aim worker body)
  | .ask ticket => .inquiry (.ask ticket)
  | .wait ticket => .inquiry (.wait ticket false)
  | .waitBriefly ticket => .inquiry (.wait ticket true)
  | .close => .closing .begin

/-- The sleep of a worker has lasted as long as it may. -/
def rouse (worker : Nat) (world : Running α) : Running α :=
  ((world.expire? (machine α) worker).getD world).settle (machine α)

end Turnstile.Pool
