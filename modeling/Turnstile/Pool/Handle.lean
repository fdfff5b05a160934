import Turnstile.Pool.Basic

/-!
# Asking for outcomes

The holder of a ticket asks for the outcome: at once, or with a wait that may be
limited. An outcome is collected once; whoever asks later is told that nothing
will come any more.
-/

namespace Turnstile.Pool

set_option autoImplicit false

open Turnstile.Task (Ticket Outcome Delivery)

variable {α : Type}

inductive Inquiry (α : Type) where
  | ask (ticket : Ticket)
  | wait (ticket : Ticket) (timed : Bool)
  /-- `none` is that the outcome is still to come. -/
  | done (outcome : Option (Outcome α))

namespace Inquiry

def collect : Delivery α → Option (Outcome α) × Delivery α
  | .pending => (none, .pending)
  | .ready outcome => (some outcome, .closed)
  | .closed => (some (.error .abandoned), .closed)

def act (inquiry : Inquiry α) (pool : Pool α) : Option (Inquiry α × Pool α) :=
  match inquiry with
  | .ask ticket =>
    pool.deliveries[ticket]?.map fun delivery =>
      let (outcome, left) := collect delivery
      (.done outcome, pool.setDelivery ticket left)
  | .wait ticket _ =>
    pool.deliveries[ticket]?.bind fun delivery =>
      match collect delivery with
      | (some outcome, left) => some (.done (some outcome), pool.setDelivery ticket left)
      | (none, _) => none
  | .done _ => none

def expire (inquiry : Inquiry α) (pool : Pool α) : Option (Inquiry α × Pool α) :=
  match inquiry with
  | .wait _ true => some (.done (some (.error .timeout)), pool)
  | _ => none

end Inquiry

end Turnstile.Pool
