import Turnstile.Lock.Basic
import Turnstile.Text.Record

/-!
# A lock that is waited for by looking at it

The flag says whether the lock is held. Entering sets it and is inside if it was
clear; otherwise the caller watches the flag until it sees it clear and tries
again. Watching a flag that stays set changes nothing, so a watcher moves only
when the flag is clear.
-/

namespace Turnstile.Lock

set_option autoImplicit false

structure Spinning where
  held : Bool
  deriving DecidableEq, Repr

namespace Spinning

/-- A watcher looks this often before it lets others have the processor. -/
def looksBeforeYielding : Nat := 64

inductive Point where
  | enter
  | watch
  | tryEnter
  | leave
  | done (answer : Answer)
  deriving DecidableEq, Repr

def act (point : Point) (lock : Spinning) : Option (Point × Spinning) :=
  match point with
  | .enter => some (if lock.held then .watch else .done .entered, ⟨true⟩)
  | .watch => if lock.held then none else some (.enter, lock)
  | .tryEnter => some (.done (if lock.held then .refused else .entered), ⟨true⟩)
  | .leave =>
    some (.done (if lock.held then .left else .fault .spinLockNotHeld), ⟨false⟩)
  | .done _ => none

def answer? : Point → Option Answer
  | .done answer => some answer
  | _ => none

def machine : Machine Spinning Point Answer :=
  ⟨fun _ point lock => act point lock, fun _ _ _ => none, answer?⟩

def free : Spinning := ⟨false⟩

def describe (lock : Spinning) : String :=
  Text.record "SpinMutex" [("locked", toString lock.held)]

def kind : Kind where
  Shared := Spinning
  Point := Point
  machine := machine
  free := free
  enter _ := .enter
  tryEnter _ := .tryEnter
  leave _ := .leave
  isHeld := held
  admits _ lock := !lock.held

end Spinning

end Turnstile.Lock
