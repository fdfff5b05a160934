import Turnstile.Lock.Basic
import Turnstile.Semaphore
import Turnstile.Text.Record

/-!
# A lock of one word

The word is free, held, or contended: held while callers may be parked. Entering
writes `held` over whatever is there and is inside if the lock was free.
Otherwise the caller writes `contended` and parks on the semaphore, again and
again, until it finds the word free in that exchange. The first write of a
newcomer may hide that others are parked; it comes back with `contended` before
it parks itself.

Leaving writes `free`, and posts one permit if the word was contended. That
permit may find nobody in the line and stay on the semaphore; a later caller
then takes it, looks at the word in vain and parks after all.
-/

namespace Turnstile.Lock

set_option autoImplicit false

inductive Word where
  | free
  | held
  | contended
  deriving DecidableEq, Repr

structure Exclusive where
  word : Word
  parked : Semaphore
  deriving DecidableEq, Repr

namespace Exclusive

inductive Point where
  | enter
  | contend
  | sleep
  | tryEnter
  | leave
  | wake
  | done (answer : Answer)
  deriving DecidableEq, Repr

def act (me : ThreadId) (point : Point) (lock : Exclusive) : Option (Point × Exclusive) :=
  match point with
  | .enter =>
    some (if lock.word = .free then .done .entered else .contend, { lock with word := .held })
  | .contend =>
    some (if lock.word = .free then .done .entered else .sleep, { lock with word := .contended })
  | .sleep =>
    match lock.parked.wait me with
    | .taken parked => some (.contend, { lock with parked })
    | .joined parked => some (.sleep, { lock with parked })
    | .asleep => none
  | .tryEnter =>
    if lock.word = .free then some (.done .entered, { lock with word := .held })
    else some (.done .refused, lock)
  | .leave =>
    match lock.word with
    | .free => some (.done (.fault .lockNotHeld), lock)
    | .held => some (.done .left, { lock with word := .free })
    | .contended => some (.wake, { lock with word := .free })
  | .wake => some (.done .left, { lock with parked := lock.parked.post })
  | .done _ => none

def answer? : Point → Option Answer
  | .done answer => some answer
  | _ => none

def machine : Machine Exclusive Point Answer := ⟨act, fun _ _ _ => none, answer?⟩

def free : Exclusive := ⟨.free, .empty⟩

def isHeld (lock : Exclusive) : Bool := lock.word ≠ .free

def describe (lock : Exclusive) : String :=
  Text.record "FastMutex" [("locked", toString lock.isHeld)]

abbrev kind : Kind where
  Shared := Exclusive
  Point := Point
  machine := machine
  free := free
  enter _ := .enter
  tryEnter _ := .tryEnter
  leave _ := .leave
  isHeld := isHeld
  admits _ lock := !lock.isHeld

end Exclusive

end Turnstile.Lock
