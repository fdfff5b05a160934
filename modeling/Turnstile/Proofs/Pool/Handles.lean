import Turnstile.Proofs.Pool.Asking
import Turnstile.Proofs.Pool.Drained
import Turnstile.Proofs.Pool.Outcomes

/-!
# Each handle yields the outcome of its own task once

A job can end in many places: with the owner of its queue or with a thief, by a panic, with
the death of its worker, or in a queue when the pool is taken down. Wherever it does, the
holder of its handle is told nothing before, then once what the body came to, and afterwards
that nothing will come; or only that, if the job was discarded.
-/

namespace Turnstile.Pool

set_option autoImplicit false

open Turnstile.Task (Ticket Body Outcome)

variable {α : Type} {ticket : Ticket} {config : Config} {body : Body α} {world first last : Running α}
  {history : List (Occurrence α)} {told : Option (Outcome α)}

/-- A submission of the body was accepted, and its handle returned, to a caller or to the task
that has made the submission. -/
inductive HandedOut (ticket : Ticket) (body : Body α) (world : Running α)
    (history : List (Occurrence α)) : Prop where
  | toCaller (me : ThreadId) (called : .called me (.submit body) ∈ history)
      (answered : world.threads[me]? = some (.submission (.done (.accepted ticket)))) :
      HandedOut ticket body world history
  | toTask (ticketed : .ticketed ticket body false ∈ history) (answered : .answered ticket ∈ history) :
      HandedOut ticket body world history

theorem HandedOut.issued (handed : HandedOut ticket body world history)
    (truthful : Truthful config world history) : Issued history ticket body := by
  cases handed with
  | toCaller me called answered =>
      obtain ⟨posting, found, pursues⟩ := truthful.callers me _ none body called rfl
      rw [answered] at found
      cases found
      cases pursues with
      | accepted ticketed => exact ticketed.issued
  | toTask ticketed => exact ⟨false, ticketed⟩

theorem Tells.unique {other : Option (Outcome α)} (tells : Tells ticket told world)
    (another : Tells ticket other world) : told = other := by
  have same := (tells [.atOnce]).answers.symm.trans (another [.atOnce]).answers
  cases same
  rfl

/-- Thread 1 submits a task that kills the only worker, thread 2 another one that stays in the
queue then, and thread 3 closes the pool. -/
def doomed : Running Unit × List (Occurrence Unit) :=
  Chronicle.callAll [.submit [.panic .explosive], .submit [], .close] (opened, [])

end Turnstile.Pool
