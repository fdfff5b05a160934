import Turnstile.Pool.Submission

/-!
# Workers

A worker looks for a job in its own queue and then in those of the others, going
round. If there is none it sleeps at its own queue, for a limited time. It leaves
when it finds nothing to do, its own queue closed, and then that queue empty.

Running a job is to go through the actions of its body, to deliver the outcome,
and to count. A panic in a body is an outcome, unless discarding what was thrown
panics as well: that ends the worker's thread after the delivery, and nothing is
counted. So does a result that panics when it is discarded, if its handle has been
dropped: there is nobody then to whom it could be delivered, and the worker discards
it itself.

The worker with index `i` is thread `i` of the pool, and its queue is queue `i`.
-/

namespace Turnstile.Pool

set_option autoImplicit false

open Turnstile.Task (Ticket Job Body Result Payload Outcome)

variable {α : Type}

/-- A body that is being run: what is left of it, and its result so far. -/
structure Frame (α : Type) where
  ticket : Ticket
  rest : Body α
  result : Result α

/-- A body has ended with its result, or with what was thrown. -/
abbrev Ending (α : Type) := Except Payload (Result α)

inductive Worker (α : Type) where
  | start
  /-- Looks into the queue that is `offset` after its own. -/
  | look (offset : Nat)
  | countTheft (job : Job α) (victim : Nat)
  | sleep
  | checkClosed
  | checkEmpty
  | run (frame : Frame α)
  | post (frame : Frame α) (submission : Submission α)
  | deliver (ticket : Ticket) (ending : Ending α)
  | countPanic (ticket : Ticket) (message : String)
  | countRun (ticket : Ticket)
  /-- The thread ends before its time: by a job, or by a fault. -/
  | perish (ticket : Option Ticket)
  | leave
  | gone

namespace Worker

def begin (job : Job α) : Worker α := .run ⟨job.ticket, job.body, .nothing⟩

/-- A worker that has tried to take a job from the queue `offset` after its
own, which is queue `index`. -/
def afterLook (me offset index : Nat) (pool : Pool α) :
    Queue.PopAnswer (Job α) → Worker α × Pool α
  | .item job =>
    (if offset = 0 then begin job else .countTheft job index,
      pool.note (.took me job.ticket index))
  | .nothing => (.look (offset + 1), pool)
  | .fault _ => (.perish none, pool)

/-- A worker whose sleep at its own queue has ended. -/
def afterSleep (me : Nat) (pool : Pool α) : Queue.PopAnswer (Job α) → Worker α × Pool α
  | .item job => (begin job, pool.note (.took me job.ticket me))
  | .nothing => (.checkClosed, pool)
  | .fault _ => (.perish none, pool)

/-- What a submission made by a task is to that task. -/
def afterPost (frame : Frame α) : Receipt → Worker α
  | .accepted _ => .run { frame with result := .accepted }
  | .refused failure => .run { frame with result := .refused failure }
  | .fault fault => .deliver frame.ticket (.error (.text fault.message))

/-- The next action of a body that worker `me` runs. -/
def runBody (me : Nat) (frame : Frame α) (pool : Pool α) : Option (Worker α × Pool α) :=
  match frame.rest with
  | [] => some (.deliver frame.ticket (.ok frame.result), pool)
  | .say text :: rest =>
    some (.run { frame with rest }, pool.note (.said text (pool.config.workerName me)))
  | .pass gate :: rest => if pool.isOpen gate then some (.run { frame with rest }, pool) else none
  | .give value :: rest => some (.run { frame with rest, result := .value value }, pool)
  | .giveExplosive :: rest => some (.run { frame with rest, result := .explosive }, pool)
  | .giveName :: rest =>
    some (.run { frame with rest, result := .name (pool.config.workerName me) }, pool)
  | .post body :: rest => some (.post { frame with rest } (.begin body), pool)
  | .postTo worker body :: rest => some (.post { frame with rest } (.aim worker body), pool)
  | .panic payload :: _ => some (.deliver frame.ticket (.error payload), pool)

/-- The outcome that an ending is for the holder of the ticket. -/
def outcome : Ending α → Outcome α
  | .ok result => .ok result
  | .error payload => .error (.panicked payload.message)

/-- Whether the worker itself has to discard something that panics then: what was thrown,
or a result whose handle has been dropped. -/
def bursts (forgone : Bool) : Ending α → Bool
  | .ok result => forgone && (result matches .explosive)
  | .error payload => payload = .explosive

def afterDelivery (ticket : Ticket) (forgone : Bool) (ending : Ending α) : Worker α :=
  if bursts forgone ending then .perish (some ticket)
  else
    match ending with
    | .ok _ => .countRun ticket
    | .error payload => .countPanic ticket payload.message

/-- The next action of worker `me`. -/
def act (me : Nat) (worker : Worker α) (pool : Pool α) : Option (Worker α × Pool α) :=
  match worker with
  | .start => some (.look 0, pool.note (.started me))
  | .look offset =>
    if offset < pool.queues.length then
      let index := (me + offset) % pool.queues.length
      pool.queues[index]?.map fun queue =>
        let (answer, queue) := queue.tryPop
        afterLook me offset index (pool.setQueue index queue) answer
    else some (.sleep, pool)
  | .countTheft job victim =>
    some (begin job, (pool.count .countStolen).note (.stole me victim))
  | .sleep =>
    pool.queues[me]?.bind fun queue =>
      match queue.pop me with
      | .finished answer queue => some (afterSleep me (pool.setQueue me queue) answer)
      | .joined queue => some (.sleep, pool.setQueue me queue)
      | .asleep => none
  | .checkClosed =>
    pool.queues[me]?.map fun queue => (if queue.closed then .checkEmpty else .look 0, pool)
  | .checkEmpty =>
    pool.queues[me]?.map fun queue => (if queue.isEmpty then .leave else .look 0, pool)
  | .run frame => runBody me frame pool
  | .post frame (.done receipt) => some (afterPost frame receipt, pool)
  | .post frame submission =>
    (submission.act me pool).map fun (submission, pool) => (.post frame submission, pool)
  | .deliver ticket ending =>
    some (afterDelivery ticket (pool.isForgone ticket) ending,
      pool.setDelivery ticket (.ready (outcome ending)))
  | .countPanic ticket message =>
    some (.countRun ticket, (pool.count .countPanicked).note (.panicked me ticket message))
  | .countRun ticket => some (.look 0, (pool.count .countExecuted).note (.finished me ticket))
  | .perish ticket => some (.gone, (pool.setFate me .died).note (.perished me ticket))
  | .leave => some (.gone, (pool.setFate me .left).note (.left me))
  | .gone => none

/-- The end of a sleep that has lasted as long as it may. -/
def expire (me : Nat) (worker : Worker α) (pool : Pool α) : Option (Worker α × Pool α) :=
  match worker with
  | .sleep =>
    pool.queues[me]?.bind fun queue =>
      (queue.popExpired? me).map fun (answer, queue) =>
        afterSleep me (pool.setQueue me queue) answer
  | _ => none

end Worker

end Turnstile.Pool
