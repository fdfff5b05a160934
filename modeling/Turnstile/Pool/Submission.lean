import Turnstile.Pool.Basic

/-!
# Submissions

A submission takes the next number, and looks for room first at the queue that
the number stands for, modulo the number of queues, then at the queues after it,
going round, up to a fixed number of attempts. If there was room nowhere it goes
back to the first of them and waits there. A submission may also be aimed at the
queue of one worker, and waits there if there is no room.

The number advances whatever comes of the submission.
-/

namespace Turnstile.Pool

set_option autoImplicit false

open Turnstile.Task (Ticket Job Body)

variable {α : Type}

inductive Receipt where
  | accepted (ticket : Ticket)
  | refused (failure : Failure)
  | fault (fault : Fault)
  deriving DecidableEq, Repr

inductive Submission (α : Type) where
  | begin (body : Body α)
  | aim (worker : Nat) (body : Body α)
  | look (job : Job α) (home : UInt64) (attempt : Nat)
  | fallBack (job : Job α) (home : UInt64)
  | wait (job : Job α) (queue : Nat)
  | count (ticket : Ticket)
  | done (receipt : Receipt)

def queueAt (pool : Pool α) (number : UInt64) : Nat := number.toNat % pool.queues.length

/-- The queue at which a submission looks in an attempt. -/
def candidate (pool : Pool α) (home : UInt64) (attempt : Nat) : Nat :=
  pool.queueAt (home + UInt64.ofNat attempt)

namespace Submission

/-- A submission after a queue has answered its blocking push. -/
def afterPush (job : Job α) (index : Nat) (pool : Pool α) :
    Queue.PushAnswer (Job α) → Submission α × Pool α
  | .stored => (.count job.ticket, pool.note (.accepted job.ticket index))
  | .refused _ => (.done (.refused .shutDown), pool.note (.refused job.ticket))
  | .fault fault => (.done (.fault fault), pool)

/-- A submission after a queue has answered that it has room or has none. -/
def afterLook (job : Job α) (home : UInt64) (attempt index : Nat) (pool : Pool α) :
    Queue.PushAnswer (Job α) → Submission α × Pool α
  | .refused (.full _) => (.look job home (attempt + 1), pool)
  | answer => afterPush job index pool answer

/-- The next action of a submission that thread `me` makes. -/
def act (me : ThreadId) (submission : Submission α) (pool : Pool α) :
    Option (Submission α × Pool α) :=
  match submission with
  | .begin body =>
    let (ticket, ticketed) := pool.issueTicket
    some (.look ⟨ticket, body⟩ pool.nextQueue 0, { ticketed with nextQueue := pool.nextQueue + 1 })
  | .aim worker body =>
    if worker < pool.queues.length then
      let (ticket, ticketed) := pool.issueTicket
      some (.wait ⟨ticket, body⟩ worker, ticketed)
    else some (.done (.fault .noSuchWorker), pool)
  | .look job home attempt =>
    if attempt < pool.config.submitAttempts then
      let index := pool.candidate home attempt
      pool.queues[index]?.map fun queue =>
        let (answer, queue) := queue.tryPush job
        afterLook job home attempt index (pool.setQueue index queue) answer
    else some (.fallBack job home, pool)
  | .fallBack job home =>
    let index := pool.queueAt home
    some (.wait job index, (pool.count .countFallback).note (.fellBack job.ticket index))
  | .wait job index =>
    pool.queues[index]?.bind fun queue =>
      match queue.push me job with
      | .finished answer queue => some (afterPush job index (pool.setQueue index queue) answer)
      | .joined queue => some (.wait job index, pool.setQueue index queue)
      | .asleep => none
  | .count ticket => some (.done (.accepted ticket), pool.count .countSubmitted)
  | .done _ => none

end Submission

end Turnstile.Pool
