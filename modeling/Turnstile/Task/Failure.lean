import Turnstile.Diagnosis
import Turnstile.Text.Quoted

/-!
# Failures of a task

Why there is no value to hand to the holder of a handle, and what a task that
panics throws.
-/

namespace Turnstile.Task

set_option autoImplicit false

inductive Payload where
  | text (text : String)
  /-- Something that is not a text. -/
  | other
  /-- Something that is not a text, and panics once more when it is discarded. -/
  | explosive
  deriving DecidableEq, Repr

namespace Payload

def message : Payload → String
  | .text shown => shown
  | .other | .explosive => "non-string panic payload"

end Payload

inductive Failure where
  | panicked (message : String)
  /-- The task was discarded and will never run, or its result is collected. -/
  | abandoned
  /-- The asker did not want to wait longer. -/
  | timeout
  deriving DecidableEq, Repr

namespace Failure

def label : Failure → String
  | panicked _ => "Panicked"
  | abandoned => "Abandoned"
  | timeout => "Timeout"

def describe : Failure → String
  | panicked message => s!"Panicked({Text.quoted message})"
  | failure => failure.label

def diagnosis : Failure → Diagnosis
  | panicked message =>
    { message := "task panicked: " ++ message
      code := "task::panicked"
      advice := "The task body panicked. The worker recovered and kept running." }
  | abandoned =>
    { message := "task was dropped before it ran"
      code := "task::abandoned"
      advice := "The task never executed, so no result will ever arrive." }
  | timeout =>
    { message := "task did not finish in time"
      code := "task::timeout"
      advice := none }

end Failure

end Turnstile.Task
