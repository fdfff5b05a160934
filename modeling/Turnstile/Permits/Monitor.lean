import Turnstile.Machine
import Turnstile.Permits.Basic

/-!
# A permit counter under a monitor

The count is only touched inside the monitor, so looking at it and taking from
it, or looking at it and joining the line of waiting callers, is one action. A
release adds inside the monitor, where a sum that leaves the range breaks the
call off before anything changed, and then notifies: the caller waiting
longest, or everybody. A notified caller enters the monitor again and, if
others were faster, joins the end of the line.
-/

namespace Turnstile.Permits

set_option autoImplicit false

structure Monitor where
  count : UInt64
  /-- The waiting callers, the one waiting longest first. -/
  line : List ThreadId
  deriving DecidableEq, Repr

namespace Monitor

inductive Point where
  | add (permits : UInt64) (wake : Wake)
  | notify (wake : Wake)
  | enter (timed : Bool)
  | waiting (timed : Bool)
  /-- One look at the count, without a wait. -/
  | last
  | done (answer : Answer)
  deriving DecidableEq, Repr

/-- Inside the monitor: takes a permit, or joins the line. -/
def takeOrJoin (me : ThreadId) (timed : Bool) (state : Monitor) : Point × Monitor :=
  if state.count = 0 then (.waiting timed, { state with line := state.line ++ [me] })
  else (.done .taken, { state with count := state.count - 1 })

def act (me : ThreadId) (point : Point) (state : Monitor) : Option (Point × Monitor) :=
  match point with
  | .add permits wake =>
    if state.count.toNat + permits.toNat < UInt64.size then
      some (.notify wake, { state with count := state.count + permits })
    else some (.done (.fault .sumOverflow), state)
  | .notify .one => some (.done .released, { state with line := state.line.tail })
  | .notify .all => some (.done .released, { state with line := [] })
  | .enter timed => some (takeOrJoin me timed state)
  | .waiting timed => if me ∈ state.line then none else some (takeOrJoin me timed state)
  | .last =>
    if state.count = 0 then some (.done .refused, state)
    else some (.done .taken, { state with count := state.count - 1 })
  | .done _ => none

def expire (me : ThreadId) (point : Point) (state : Monitor) : Option (Point × Monitor) :=
  match point with
  | .waiting true =>
    if me ∈ state.line then some (.last, { state with line := state.line.erase me }) else none
  | _ => none

def answer? : Point → Option Answer
  | .done answer => some answer
  | _ => none

def machine : Machine Monitor Point Answer := ⟨act, expire, answer?⟩

def start : Request → Point
  | .release permits wake => .add permits wake
  | .acquire timed => .enter timed
  | .tryAcquire => .last

def ofPermits (permits : UInt64) : Monitor := ⟨permits, []⟩

end Monitor

end Turnstile.Permits
