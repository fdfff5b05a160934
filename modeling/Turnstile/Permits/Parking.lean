import Turnstile.Machine
import Turnstile.Permits.Basic

/-!
# A permit counter with a parking line

The count is a word that every caller reads and exchanges directly. A caller
that finds it empty registers as a waiter and parks; parking checks the count
once more and joins the line in one action, so a release between the first
look and the sleep is not missed. A release adds its permits, and only if a
waiter is registered does it go on to the line, where it takes out the caller
parked longest, or everybody.

A caller that was taken out of the line owns nothing yet: it deregisters, looks
at the count again and, if others were faster, parks behind the last of the
line. A timed wait that ends takes its caller out of the line, and the caller
then tries once more before it gives up.
-/

namespace Turnstile.Permits

set_option autoImplicit false

structure Parking where
  count : UInt64
  /-- Callers between their registration as a waiter and its end. -/
  waiters : Nat
  /-- The parked callers, the one parked longest first. -/
  line : List ThreadId
  deriving DecidableEq, Repr

namespace Parking

inductive Fallback where
  | wait (timed : Bool)
  | giveUp
  deriving DecidableEq, Repr

inductive Point where
  | add (permits : UInt64) (wake : Wake)
  | look (wake : Wake)
  | rouse (wake : Wake)
  | read (fallback : Fallback)
  | exchange (seen : UInt64) (fallback : Fallback)
  | register (timed : Bool)
  | park (timed : Bool)
  | parked (timed : Bool)
  | deregister (fallback : Fallback)
  | done (answer : Answer)
  deriving DecidableEq, Repr

/-- What follows when the count was seen to be `seen`. -/
def afterLook (seen : UInt64) (fallback : Fallback) : Point :=
  if seen = 0 then
    match fallback with
    | .wait timed => .register timed
    | .giveUp => .done .refused
  else .exchange seen fallback

def act (me : ThreadId) (point : Point) (state : Parking) : Option (Point × Parking) :=
  match point with
  | .add permits wake => some (.look wake, { state with count := state.count + permits })
  | .look wake =>
    some (if state.waiters = 0 then .done .released else .rouse wake, state)
  | .rouse .one => some (.done .released, { state with line := state.line.tail })
  | .rouse .all => some (.done .released, { state with line := [] })
  | .read fallback => some (afterLook state.count fallback, state)
  | .exchange seen fallback =>
    if state.count = seen then some (.done .taken, { state with count := seen - 1 })
    else some (afterLook state.count fallback, state)
  | .register timed => some (.park timed, { state with waiters := state.waiters + 1 })
  | .park timed =>
    if state.count = 0 then some (.parked timed, { state with line := state.line ++ [me] })
    else some (.deregister (.wait timed), state)
  | .parked timed => if me ∈ state.line then none else some (.deregister (.wait timed), state)
  | .deregister fallback => some (.read fallback, { state with waiters := state.waiters - 1 })
  | .done _ => none

def expire (me : ThreadId) (point : Point) (state : Parking) : Option (Point × Parking) :=
  match point with
  | .parked true =>
    if me ∈ state.line then
      some (.deregister .giveUp, { state with line := state.line.erase me })
    else none
  | _ => none

def answer? : Point → Option Answer
  | .done answer => some answer
  | _ => none

def machine : Machine Parking Point Answer := ⟨act, expire, answer?⟩

def start : Request → Point
  | .release permits wake => .add permits wake
  | .acquire timed => .read (.wait timed)
  | .tryAcquire => .read .giveUp

def ofPermits (permits : UInt64) : Parking := ⟨permits, 0, []⟩

end Parking

end Turnstile.Permits
