import Turnstile.Log.Collector
import Turnstile.Pool.Calls

/-!
# Whole runs of a pool

A pool that is opened, given work by one submitter, and left alone until nothing
moves any more: with no gate closed, with all workers but one held up, or with
everything it tells written down.
-/

namespace Turnstile.Pool

set_option autoImplicit false

open Turnstile.Task (Ticket Body Outcome)

variable {α : Type}

namespace Running

/-- A pool in which all workers have started and found nothing to do. -/
def opened (config : Config) : Except Rejection (Running α) :=
  (start config).map (World.settle (machine α))

/-- A call, and its answer once nothing moves any more, if there is one then. -/
def call (world : Running α) (call : Call α) : Running α × Option (Answer α) :=
  let (world, report) := world.issue (machine α) (begin call)
  (world, report.answer)

def submitAll (world : Running α) (calls : List (Call α)) :
    Running α × List (Option Ticket) :=
  let submit := fun (so : Running α × List (Option Ticket)) (next : Call α) =>
    match so.1.call next with
    | (world, some (.receipt (.accepted ticket))) => (world, some ticket :: so.2)
    | (world, _) => (world, none :: so.2)
  let (world, tickets) := calls.foldl submit (world, [])
  (world, tickets.reverse)

def outcome? (world : Running α) (ticket : Ticket) : Option (Outcome α) :=
  (world.shared.deliveries[ticket]?).bind fun delivery => (Inquiry.collect delivery).1

/-- The lines that tasks wrote, in order, each with the thread that wrote it. -/
def spoken (notes : List Note) : List (String × String) :=
  notes.reverse.filterMap fun
    | .said text thread => some (text, thread)
    | _ => none

end Running

/-- A pool without closed gates after some submissions, and the outcomes of those
that were accepted. -/
def batch (config : Config) (calls : List (Call α)) :
    Except Rejection (Running α × List (Option (Outcome α))) := do
  let world : Running α ← Running.opened config
  let (world, tickets) :=
    Running.submitAll { world with shared := world.shared.openAllGates } calls
  .ok (world, tickets.map fun ticket => ticket.bind world.outcome?)

/-- A pool in which the first worker is the only one that is not held up, after it
has looked at all the queues; `each` tasks that do nothing were put into every
one of them. -/
def rescan (config : Config) (each : Nat) : Except Rejection (Pool α) := do
  let world : Running α ← Running.opened config
  let workers := List.range config.workers
  let held := (workers.drop 1).map fun worker => Call.submitTo worker [.pass "held"]
  let tasks := workers.flatMap fun worker => List.replicate each (Call.submitTo worker [])
  let (world, _) := world.submitAll (held ++ tasks)
  .ok (rouse 0 world).shared

/-- What is told of a pool from its opening to its end, when it runs some tasks in
between. -/
def told (config : Config) (bodies : List (Body α)) : Except Rejection (List Log.Entry) := do
  let world : Running α ← Running.opened config
  let (world, _) := world.submitAll (bodies.map .submit)
  let (world, _) := world.call .close
  .ok (world.shared.journal.reverse.filterMap fun note =>
    note.record?.map fun record =>
      ⟨(note.worker?.map config.workerName).getD "main", record⟩)

end Turnstile.Pool
