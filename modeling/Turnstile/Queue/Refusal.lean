import Turnstile.Diagnosis

/-!
# Refused items

A queue that does not take an item hands it back and says why.
-/

namespace Turnstile.Queue

set_option autoImplicit false

inductive Refusal (α : Type) where
  | full (item : α)
  | closed (item : α)
  deriving DecidableEq, Repr

namespace Refusal

variable {α : Type}

def item : Refusal α → α
  | full item | closed item => item

def isFull : Refusal α → Bool
  | full _ => true
  | closed _ => false

def isClosed : Refusal α → Bool
  | full _ => false
  | closed _ => true

def label : Refusal α → String
  | full _ => "Full"
  | closed _ => "Closed"

/-- How a refusal is shown for inspection: without the item, which may have no
text. -/
def describe (refusal : Refusal α) : String := refusal.label ++ "(..)"

def diagnosis : Refusal α → Diagnosis
  | full _ =>
    { message := "queue is full"
      code := "queue::full"
      advice := "Retry later, push to another queue, or use the blocking push." }
  | closed _ =>
    { message := "queue is closed"
      code := "queue::closed"
      advice := "The queue no longer accepts items. It is being drained for shutdown." }

end Refusal

end Turnstile.Queue
