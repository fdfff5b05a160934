import Turnstile.Diagnosis
import Turnstile.Text.Quoted

/-!
# Failures of a pool

Why a pool does not take work, or was not set up.
-/

namespace Turnstile.Pool

set_option autoImplicit false

inductive Failure where
  /-- The pool is shutting down. -/
  | shutDown
  /-- The settings cannot work. -/
  | invalidConfig (reason : String)
  /-- A worker thread was not to be had. -/
  | spawnFailed (reason : String)
  deriving DecidableEq, Repr

namespace Failure

def label : Failure → String
  | shutDown => "ShutDown"
  | invalidConfig _ => "InvalidConfig"
  | spawnFailed _ => "SpawnFailed"

def describe : Failure → String
  | shutDown => "ShutDown"
  | invalidConfig reason => s!"InvalidConfig({Text.quoted reason})"
  | spawnFailed reason => s!"SpawnFailed({Text.quoted reason})"

def diagnosis : Failure → Diagnosis
  | shutDown =>
    { message := "thread pool is shutting down"
      code := "pool::shut_down"
      advice := "Work can no longer be submitted once shutdown has started." }
  | invalidConfig reason =>
    { message := "invalid pool configuration: " ++ reason
      code := "pool::invalid_config"
      advice := "Workers, queue capacity and steal factor must all be greater than zero." }
  | spawnFailed reason =>
    { message := "failed to spawn worker thread: " ++ reason
      code := "pool::spawn_failed"
      advice := "The OS refused to create a thread. Check process thread limits." }

end Failure

end Turnstile.Pool
