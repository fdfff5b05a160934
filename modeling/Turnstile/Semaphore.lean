import Turnstile.Machine

/-!
# Semaphores, one call at a time

The locks and queues of this library sleep on semaphores whose calls are taken
as single actions: a post adds a permit and takes the caller parked longest out
of the line; a wait takes a permit or joins the end of the line. A caller that
was taken out of the line has no permit yet. It waits again, so a newcomer may
be faster, and then it parks behind the last of the line.

The permits are a 64-bit word that wraps around.
-/

namespace Turnstile

set_option autoImplicit false

structure Semaphore where
  permits : UInt64
  /-- The parked callers, the one parked longest first. -/
  line : List ThreadId
  deriving DecidableEq, Repr

namespace Semaphore

def ofPermits (permits : UInt64) : Semaphore := ⟨permits, []⟩

def empty : Semaphore := ofPermits 0

def post (semaphore : Semaphore) : Semaphore :=
  ⟨semaphore.permits + 1, semaphore.line.tail⟩

/-- Adds permits and wakes everybody; posting none does nothing at all. -/
def postMany (permits : UInt64) (semaphore : Semaphore) : Semaphore :=
  if permits = 0 then semaphore else ⟨semaphore.permits + permits, []⟩

def take? (semaphore : Semaphore) : Option Semaphore :=
  if semaphore.permits = 0 then none
  else some { semaphore with permits := semaphore.permits - 1 }

inductive Wait where
  | taken (semaphore : Semaphore)
  | joined (semaphore : Semaphore)
  /-- The caller is still in the line. -/
  | asleep

/-- One attempt of thread `me` to get a permit. -/
def wait (me : ThreadId) (semaphore : Semaphore) : Wait :=
  if me ∈ semaphore.line then .asleep
  else
    match semaphore.take? with
    | some taken => .taken taken
    | none => .joined { semaphore with line := semaphore.line ++ [me] }

/-- Thread `me` stops waiting in the line, `none` if it is not there. -/
def withdraw? (me : ThreadId) (semaphore : Semaphore) : Option Semaphore :=
  if me ∈ semaphore.line then some { semaphore with line := semaphore.line.erase me } else none

theorem take_none_iff (semaphore : Semaphore) :
    semaphore.take? = none ↔ semaphore.permits = 0 := by
  unfold take?
  split <;> simp_all

theorem post_many_zero (semaphore : Semaphore) : semaphore.postMany 0 = semaphore := by
  simp [postMany]

end Semaphore

end Turnstile
