import Turnstile.Machine
import Turnstile.Text.Record

/-!
# Events

An event is a flag that callers wait for. Signalling a *manual* event sets the
flag and rouses everybody who is parked; the flag stays set until it is reset,
and passing leaves it alone. Signalling an *automatic* event rouses the caller
parked longest, and whoever passes clears the flag in the same action, so one
signal lets one caller through.

Setting the flag and rousing are two actions, and so are being roused and
passing. Parking checks the flag and joins the line in one action.
-/

namespace Turnstile

set_option autoImplicit false

inductive EventMode where
  | manual
  | auto
  deriving DecidableEq, Repr

namespace EventMode

def label : EventMode → String
  | manual => "Manual"
  | auto => "Auto"

end EventMode

structure Event where
  mode : EventMode
  signaled : Bool
  /-- The parked callers, the one parked longest first. -/
  line : List ThreadId
  deriving DecidableEq, Repr

namespace Event

inductive Fallback where
  | wait (timed : Bool)
  | giveUp
  deriving DecidableEq, Repr

inductive Answer where
  /-- The call changed the flag and returned. -/
  | changed
  | passed
  | refused
  deriving DecidableEq, Repr

inductive Point where
  | raise
  | rouse
  | lower
  | pass (fallback : Fallback)
  | park (timed : Bool)
  | parked (timed : Bool)
  | done (answer : Answer)
  deriving DecidableEq, Repr

def afterPass (event : Event) : Event :=
  match event.mode with
  | .manual => event
  | .auto => { event with signaled := false }

def afterRouse (event : Event) : Event :=
  match event.mode with
  | .manual => { event with line := [] }
  | .auto => { event with line := event.line.tail }

def act (me : ThreadId) (point : Point) (event : Event) : Option (Point × Event) :=
  match point with
  | .raise => some (.rouse, { event with signaled := true })
  | .rouse => some (.done .changed, event.afterRouse)
  | .lower => some (.done .changed, { event with signaled := false })
  | .pass fallback =>
    if event.signaled then some (.done .passed, event.afterPass)
    else
      match fallback with
      | .wait timed => some (.park timed, event)
      | .giveUp => some (.done .refused, event)
  | .park timed =>
    if event.signaled then some (.pass (.wait timed), event)
    else some (.parked timed, { event with line := event.line ++ [me] })
  | .parked timed => if me ∈ event.line then none else some (.pass (.wait timed), event)
  | .done _ => none

def expire (me : ThreadId) (point : Point) (event : Event) : Option (Point × Event) :=
  match point with
  | .parked true =>
    if me ∈ event.line then some (.pass .giveUp, { event with line := event.line.erase me })
    else none
  | _ => none

def answer? : Point → Option Answer
  | .done answer => some answer
  | _ => none

def machine : Machine Event Point Answer := ⟨act, expire, answer?⟩

inductive Call where
  | signal
  | reset
  | wait
  /-- A wait with a deadline, which is looked at only if the caller may not pass. -/
  | waitUntil
  deriving DecidableEq, Repr

def start : Call → Point
  | .signal => .raise
  | .reset => .lower
  | .wait => .pass (.wait false)
  | .waitUntil => .pass (.wait true)

def ofMode (mode : EventMode) (signaled : Bool) : Event := ⟨mode, signaled, []⟩

def describe (event : Event) : String :=
  Text.record "Event" [("mode", event.mode.label), ("signaled", toString event.signaled)]

end Event

end Turnstile
