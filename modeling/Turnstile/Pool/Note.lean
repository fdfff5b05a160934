import Turnstile.Log.Record
import Turnstile.Pool.Counters
import Turnstile.Task.Basic

/-!
# What happens in a pool

A pool keeps a journal of what happens in it. Some of the notes are told to
whoever listens, as log records.
-/

namespace Turnstile.Pool

set_option autoImplicit false

open Turnstile.Task (Ticket)

inductive Note where
  | opened (workers queueCapacity submitAttempts : Nat) (idleMicros : UInt64)
  | started (worker : Nat)
  /-- A submission was put into a queue. -/
  | accepted (ticket : Ticket) (queue : Nat)
  /-- A submission came too late. -/
  | refused (ticket : Ticket)
  /-- A submission found every queue full. -/
  | fellBack (ticket : Ticket) (queue : Nat)
  | took (worker : Nat) (ticket : Ticket) (queue : Nat)
  | stole (worker victim : Nat)
  /-- A task wrote a line. -/
  | said (text : String) (thread : String)
  | panicked (worker : Nat) (ticket : Ticket) (message : String)
  | finished (worker : Nat) (ticket : Ticket)
  /-- The thread of a worker ended before its time: by a job, or by a fault. -/
  | perished (worker : Nat) (ticket : Option Ticket)
  | closing (workers : Nat)
  | left (worker : Nat)
  /-- A worker's thread was found to have ended before its time. -/
  | foundDead (worker : Nat)
  | stopped (counters : Counters)
  /-- A job was discarded without having run. -/
  | discarded (ticket : Ticket)
  deriving DecidableEq, Repr

namespace Note

open Turnstile.Log

def worker? : Note → Option Nat
  | started worker | stole worker _ | panicked worker _ _ | left worker => some worker
  | _ => none

def ofPool (level : Level) (message : String) (fields : List (String × Value)) : Record :=
  ⟨level, "fastsync::scheduler::pool", message, fields⟩

def ofWorker (level : Level) (message : String) (fields : List (String × Value)) : Record :=
  ⟨level, "fastsync::scheduler::worker", message, fields⟩

def record? : Note → Option Record
  | opened workers queueCapacity submitAttempts idleMicros =>
    ofPool .info "thread pool started"
      [("workers", .number workers), ("queue_capacity", .number queueCapacity),
        ("submit_attempts", .number submitAttempts), ("idle_park_us", .number idleMicros.toNat)]
  | started worker => ofWorker .debug "worker started" [("worker", .number worker)]
  | fellBack _ queue =>
    ofPool .debug "every candidate queue full, blocking on home queue" [("queue", .number queue)]
  | stole worker victim =>
    ofWorker .trace "stole job" [("worker", .number worker), ("victim", .number victim)]
  | panicked worker _ message =>
    ofWorker .error "task panicked" [("worker", .number worker), ("panic", .text message)]
  | closing workers => ofPool .debug "closing worker queues" [("workers", .number workers)]
  | left worker => ofWorker .debug "worker exiting" [("worker", .number worker)]
  | foundDead worker =>
    ofPool .error "worker thread terminated abnormally" [("worker", .number worker)]
  | stopped counters =>
    ofPool .info "thread pool stopped"
      [("submitted", .number counters.submitted.toNat),
        ("executed", .number counters.executed.toNat),
        ("stolen", .number counters.stolen.toNat),
        ("panicked", .number counters.panicked.toNat)]
  | _ => none

end Note

end Turnstile.Pool
