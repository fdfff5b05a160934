import Turnstile.Pool.Failure
import Turnstile.Task.Failure
import Turnstile.Text.Record

/-!
# Tasks

A task is a list of actions, run one after the other; its result is that of the
last action that has one. A job is a task that was submitted to a pool, under a
ticket of its own. What the holder of the ticket can learn is the `Delivery`: it
is pending until the job has run, then holds the outcome until somebody collects
it, and is closed from then on, or from the moment at which the job is discarded
without having run.
-/

namespace Turnstile.Task

set_option autoImplicit false

inductive Action (α : Type) where
  /-- Writes a line. -/
  | say (text : String)
  /-- Waits until a gate is open. -/
  | pass (gate : String)
  | give (value : α)
  /-- Gives a value that panics when it is discarded. -/
  | giveExplosive
  /-- Gives the name of the thread. -/
  | giveName
  /-- Submits another task to the same pool. -/
  | post (body : List (Action α))
  /-- Submits another task to the queue of one worker of the same pool. -/
  | postTo (worker : Nat) (body : List (Action α))
  | panic (payload : Payload)

abbrev Body (α : Type) := List (Action α)

inductive Result (α : Type) where
  | nothing
  | value (value : α)
  /-- A value that panics when it is discarded. -/
  | explosive
  | name (name : String)
  | accepted
  | refused (failure : Pool.Failure)
  deriving DecidableEq, Repr

abbrev Outcome (α : Type) := Except Failure (Result α)

/-- Submissions are numbered in the order in which they are made. -/
abbrev Ticket := Nat

structure Job (α : Type) where
  ticket : Ticket
  body : Body α

inductive Delivery (α : Type) where
  | pending
  | ready (outcome : Outcome α)
  | closed

namespace Delivery

variable {α : Type}

def isFinished : Delivery α → Bool
  | pending => false
  | ready _ | closed => true

def close : Delivery α → Delivery α
  | pending | closed => closed
  | ready outcome => ready outcome

def describe (delivery : Delivery α) : String :=
  Text.record "TaskHandle" [("finished", toString delivery.isFinished)]

end Delivery

end Turnstile.Task
