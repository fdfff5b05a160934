import Turnstile.Semaphore
import Turnstile.Text.Record

/-!
# Counting semaphores with a signed count

The count is a signed word. As long as it is positive, waiting lowers it and
that is all; below one, it says how many callers have been promised a wake-up
on the inner semaphore, which is touched only then. A post that finds the count
negative owes one of those callers a permit of the inner semaphore.
-/

namespace Turnstile

set_option autoImplicit false

structure Counting where
  count : Int64
  asleep : Semaphore
  deriving DecidableEq, Repr

namespace Counting

inductive Answer where
  | posted
  | taken
  | refused
  deriving DecidableEq, Repr

inductive Point where
  | raise
  | wake
  | lower
  | sleep
  | read
  | exchange (seen : Int64)
  | done (answer : Answer)
  deriving DecidableEq, Repr

/-- What an attempt does when the count was seen to be `seen`. -/
def afterLook (seen : Int64) : Point :=
  if 0 < seen then .exchange seen else .done .refused

def act (me : ThreadId) (point : Point) (state : Counting) : Option (Point × Counting) :=
  match point with
  | .raise =>
    some (if state.count < 0 then .wake else .done .posted,
      { state with count := state.count + 1 })
  | .wake => some (.done .posted, { state with asleep := state.asleep.post })
  | .lower =>
    some (if state.count < 1 then .sleep else .done .taken,
      { state with count := state.count - 1 })
  | .sleep =>
    match state.asleep.wait me with
    | .taken asleep => some (.done .taken, { state with asleep })
    | .joined asleep => some (.sleep, { state with asleep })
    | .asleep => none
  | .read => some (afterLook state.count, state)
  | .exchange seen =>
    if state.count = seen then some (.done .taken, { state with count := seen - 1 })
    else some (afterLook state.count, state)
  | .done _ => none

def answer? : Point → Option Answer
  | .done answer => some answer
  | _ => none

def machine : Machine Counting Point Answer := ⟨act, fun _ _ _ => none, answer?⟩

inductive Call where
  | post
  | wait
  | tryWait
  deriving DecidableEq, Repr

def start : Call → Point
  | .post => .raise
  | .wait => .lower
  | .tryWait => .read

def ofCount (count : UInt32) : Counting := ⟨Int64.ofNat count.toNat, .empty⟩

def describe (state : Counting) : String :=
  Text.record "FastSemaphore" [("count", toString state.count)]

end Counting

end Turnstile
