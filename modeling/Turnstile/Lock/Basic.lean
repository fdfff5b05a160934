import Turnstile.Fault
import Turnstile.Machine

/-!
# Locks

What the locks of this library have in common: they are entered and left in a
mode, at once or after a wait, and `Kind` packs the machine of a lock with the
points at which those calls begin.
-/

namespace Turnstile.Lock

set_option autoImplicit false

/-- Alone, or together with others. -/
inductive Mode where
  | exclusive
  | shared
  deriving DecidableEq, Repr

inductive Answer where
  | entered
  | refused
  | left
  | fault (fault : Fault)
  deriving DecidableEq, Repr

structure Kind where
  Shared : Type
  Point : Type
  machine : Machine Shared Point Answer
  free : Shared
  enter : Mode → Point
  tryEnter : Mode → Point
  leave : Mode → Point
  isHeld : Shared → Bool
  /-- Whether an attempt to enter would succeed. -/
  admits : Mode → Shared → Bool

end Turnstile.Lock
