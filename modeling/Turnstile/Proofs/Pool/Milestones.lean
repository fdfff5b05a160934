import Turnstile.Pool.Calls
import Turnstile.Proofs.Queue.Whole
import Turnstile.Proofs.Total

/-!
# The way of a ticket

A submission is accepted or refused; the job of an accepted one waits in a queue,
is taken by a worker and has run in the end. The journal notes each of these
milestones, and `times` counts how often a ticket has come to one.

Most of what a thread does touches neither the queues nor a milestone: the pool
stays `Quiet`. And whatever a thread does, each queue goes `Onward`: one that is
closed stays closed, and if it is empty as well it stays empty.
-/

namespace Turnstile

set_option autoImplicit false

open Turnstile.Task (Ticket Job Delivery)

namespace Queue

variable {α : Type} {queue later : Queue α} {item : α}

structure Onward (queue later : Queue α) : Prop where
  idle : Idle later
  closed : queue.closed = true → later.closed = true
  empty : queue.closed = true → queue.toList = [] → later.toList = []

theorem Idle.onward (idle : Idle queue) : Onward queue queue :=
  ⟨idle, fun closed => closed, fun _ empty => empty⟩

theorem Retains.onward (retains : Retains queue later) : Onward queue later :=
  ⟨retains.idle, fun closed => retains.closed.trans closed, fun _ empty => retains.items.trans empty⟩

theorem Stores.onward (stores : Stores item queue later) : Onward queue later := by
  refine ⟨stores.idle, fun closed => stores.closed.trans closed, ?_⟩
  intro closed
  rw [stores.isOpen] at closed
  cases closed

theorem Loads.onward (loads : Loads item queue later) : Onward queue later := by
  refine ⟨loads.idle, fun closed => loads.closed.trans closed, ?_⟩
  intro _ empty
  have items := loads.items
  rw [empty] at items
  cases items

theorem Shuts.onward (shuts : Shuts queue later) : Onward queue later :=
  ⟨shuts.idle, fun _ => shuts.closed, fun _ empty => shuts.items.trans empty⟩

end Queue

namespace Pool

variable {α : Type} {pool later last : Pool α} {ticket : Ticket}

inductive Milestone where
  | accepted
  | refused
  | taken
  | finished
  deriving DecidableEq, Repr

/-- The milestone that a note tells of, and the ticket that has come to it. -/
def Note.milestone? : Note → Option (Milestone × Ticket)
  | .accepted ticket _ => some (.accepted, ticket)
  | .refused ticket => some (.refused, ticket)
  | .took _ ticket _ => some (.taken, ticket)
  | .finished _ ticket => some (.finished, ticket)
  | _ => none

/-- How often a ticket has come to a milestone. -/
def times (milestone : Milestone) (ticket : Ticket) (pool : Pool α) : Nat :=
  pool.journal.countP fun note => note.milestone? = some (milestone, ticket)

/-- How often the job of a ticket lies in a queue. -/
def copies (ticket : Ticket) (queue : Queue (Job α)) : Nat :=
  queue.toList.countP fun job => job.ticket = ticket

def queuedTimes (ticket : Ticket) (pool : Pool α) : Nat := World.total (copies ticket) pool.queues

/-- One for what is wanted, and nothing for anything else. -/
def isFor {κ : Type} [DecidableEq κ] (wanted : κ) (held : Option κ) : Nat :=
  if held = some wanted then 1 else 0

@[simp] theorem isFor_none {κ : Type} [DecidableEq κ] (wanted : κ) : isFor wanted none = 0 := rfl

@[simp] theorem isFor_milestone (milestone other : Milestone) (ticket wanted : Ticket) :
    isFor (other, wanted) (some (milestone, ticket)) =
      if milestone = other then isFor wanted (some ticket) else 0 := by
  by_cases same : milestone = other
  · simp [isFor, same]
  · simp [isFor, same]

theorem times_note (milestone : Milestone) (ticket : Ticket) (what : Note) (pool : Pool α) :
    (pool.note what).times milestone ticket =
      pool.times milestone ticket + isFor (milestone, ticket) what.milestone? := by
  simp [times, note, isFor, List.countP_cons]

@[simp] theorem times_setQueue (milestone : Milestone) (ticket : Ticket) (index : Nat)
    (queue : Queue (Job α)) (pool : Pool α) :
    (pool.setQueue index queue).times milestone ticket = pool.times milestone ticket := rfl

@[simp] theorem queuedTimes_note (ticket : Ticket) (what : Note) (pool : Pool α) :
    (pool.note what).queuedTimes ticket = pool.queuedTimes ticket := rfl

/-- A pool of which no queue and no milestone has changed. -/
structure Quiet (pool later : Pool α) : Prop where
  queues : later.queues = pool.queues
  fates : later.fates = pool.fates
  issued : later.deliveries.length = pool.deliveries.length
  times : ∀ milestone ticket, later.times milestone ticket = pool.times milestone ticket

namespace Quiet

theorem refl (pool : Pool α) : Quiet pool pool := ⟨rfl, rfl, rfl, fun _ _ => rfl⟩

theorem note (quiet : Quiet pool later) {what : Note} (silent : what.milestone? = none) :
    Quiet pool (later.note what) := by
  refine ⟨quiet.queues, quiet.fates, quiet.issued, ?_⟩
  intro milestone ticket
  rw [times_note, silent]
  exact quiet.times milestone ticket

theorem count (quiet : Quiet pool later) (bump : Counters → Counters) :
    Quiet pool (later.count bump) :=
  ⟨quiet.queues, quiet.fates, quiet.issued, quiet.times⟩

theorem setDelivery (quiet : Quiet pool later) (ticket : Ticket) (delivery : Delivery α) :
    Quiet pool (later.setDelivery ticket delivery) := by
  refine ⟨quiet.queues, quiet.fates, ?_, quiet.times⟩
  rw [Pool.setDelivery, List.length_set]
  exact quiet.issued

end Quiet

/-- A pool with no operation of a queue under way. -/
def Idle (pool : Pool α) : Prop := ∀ queue ∈ pool.queues, queue.Idle

theorem Idle.of_found (idle : pool.Idle) {index : Nat} {queue : Queue (Job α)}
    (found : pool.queues[index]? = some queue) : queue.Idle :=
  idle queue (List.mem_of_getElem? found)

structure Onward (pool later : Pool α) : Prop where
  length : later.queues.length = pool.queues.length
  queues : ∀ (index : Nat) (queue : Queue (Job α)), pool.queues[index]? = some queue →
    ∃ after, later.queues[index]? = some after ∧ queue.Onward after

namespace Onward

theorem idle (onward : Onward pool later) : later.Idle := by
  intro after member
  obtain ⟨index, found⟩ := List.mem_iff_getElem?.mp member
  obtain ⟨bound, _⟩ := List.getElem?_eq_some_iff.mp found
  rw [onward.length] at bound
  obtain ⟨same, foundAfter, step⟩ := onward.queues index _ (List.getElem?_eq_getElem bound)
  rw [found] at foundAfter
  cases foundAfter
  exact step.idle

theorem of_queues_eq (idle : pool.Idle) (same : later.queues = pool.queues) :
    Onward pool later := by
  refine ⟨congrArg List.length same, ?_⟩
  intro index queue found
  exact ⟨queue, same ▸ found, (idle.of_found found).onward⟩

theorem of_set (idle : pool.Idle) {index : Nat} {queue after : Queue (Job α)}
    (found : pool.queues[index]? = some queue) (onward : queue.Onward after)
    (changed : later.queues = pool.queues.set index after) : Onward pool later := by
  refine ⟨by rw [changed, List.length_set], ?_⟩
  intro other before foundOther
  by_cases same : index = other
  · subst same
    rw [found] at foundOther
    cases foundOther
    exact ⟨after, changed ▸ World.found_set found, onward⟩
  · refine ⟨before, ?_, (idle.of_found foundOther).onward⟩
    rw [changed, List.getElem?_set_ne same]
    exact foundOther

end Onward

section Queued

variable {index : Nat} {queue after : Queue (Job α)} {job : Job α}

theorem queuedTimes_setQueue (ticket : Ticket) (found : pool.queues[index]? = some queue)
    (after : Queue (Job α)) :
    (pool.setQueue index after).queuedTimes ticket + copies ticket queue =
      pool.queuedTimes ticket + copies ticket after :=
  World.total_set (copies ticket) found after

theorem queuedTimes_of_items (ticket : Ticket) (found : pool.queues[index]? = some queue)
    (items : after.toList = queue.toList) :
    (pool.setQueue index after).queuedTimes ticket = pool.queuedTimes ticket := by
  have changed := queuedTimes_setQueue ticket found after
  have same : copies ticket after = copies ticket queue := by rw [copies, copies, items]
  omega

theorem queuedTimes_of_stores (ticket : Ticket) (found : pool.queues[index]? = some queue)
    (stores : Queue.Stores job queue after) :
    (pool.setQueue index after).queuedTimes ticket =
      pool.queuedTimes ticket + isFor ticket (some job.ticket) := by
  have changed := queuedTimes_setQueue ticket found after
  have more : copies ticket after = copies ticket queue + isFor ticket (some job.ticket) := by
    rw [copies, copies, stores.items, List.countP_append, List.countP_singleton]
    simp [isFor]
  omega

theorem queuedTimes_of_loads (ticket : Ticket) (found : pool.queues[index]? = some queue)
    (loads : Queue.Loads job queue after) :
    pool.queuedTimes ticket =
      (pool.setQueue index after).queuedTimes ticket + isFor ticket (some job.ticket) := by
  have changed := queuedTimes_setQueue ticket found after
  have fewer : copies ticket queue = copies ticket after + isFor ticket (some job.ticket) := by
    rw [copies, copies, loads.items, List.countP_cons]
    simp [isFor]
  omega

end Queued

end Pool

end Turnstile
