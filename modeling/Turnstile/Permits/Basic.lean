import Turnstile.Fault

/-!
# Permits

A permit counter is asked to *release* permits, waking one waiting caller or
all of them, and to *acquire* one, at once or after a wait. This module holds
the requests and answers that every way of keeping such a counter has in common.
-/

namespace Turnstile.Permits

set_option autoImplicit false

/-- How many waiting callers a release wakes. -/
inductive Wake where
  | one
  | all
  deriving DecidableEq, Repr

inductive Request where
  | release (permits : UInt64) (wake : Wake)
  /-- Waits for a permit; a `timed` wait may end without one. -/
  | acquire (timed : Bool)
  | tryAcquire
  deriving DecidableEq, Repr

inductive Answer where
  | released
  /-- The call took one permit. -/
  | taken
  /-- The call took none. -/
  | refused
  | fault (fault : Fault)
  deriving DecidableEq, Repr

end Turnstile.Permits
