/-!
# Diagnoses

A failure that a caller can act on comes with a message, a code by which it can
be looked up, and, where there is something to do about it, advice.
-/

namespace Turnstile

set_option autoImplicit false

structure Diagnosis where
  message : String
  code : String
  advice : Option String
  deriving DecidableEq, Repr

end Turnstile
