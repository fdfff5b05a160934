import Turnstile.Text.Slice

/-!
# Faults

A call that breaks off ends in a `Fault`: checked arithmetic that leaves its
range, or an assertion about how a primitive is used or about its own
bookkeeping. `Fault.message` gives the one wording of each.
-/

namespace Turnstile

set_option autoImplicit false

inductive Fault where
  /-- A checked sum left its range. -/
  | sumOverflow
  /-- A checked difference left its range. -/
  | differenceOverflow
  /-- A lock that nobody holds was released. -/
  | lockNotHeld
  /-- A spinning lock that nobody holds was released. -/
  | spinLockNotHeld
  /-- Shared access was given up where no reader is counted. -/
  | noReader
  /-- Exclusive access was given up where no writer is counted. -/
  | noWriter
  /-- A queue without any slot was asked for. -/
  | emptyCapacity
  /-- More room was asked for than there can be. -/
  | capacityTooLarge
  /-- An item was put into a ring without a free slot. -/
  | ringFull
  /-- The slot for the next item holds one already. -/
  | slotTaken
  /-- The slot of the oldest item is empty. -/
  | slotVacant
  /-- A permit for an item came without the item, in an open queue. -/
  | permitWithoutItem
  /-- Work was aimed at a worker that does not exist. -/
  | noSuchWorker
  /-- A thread name with a zero byte, which stands at `position` of `bytes`. -/
  | zeroInThreadName (position : Nat) (bytes : List UInt8)
  /-- A text was cut inside a character. -/
  | cutInside (split : Text.Split)
  deriving DecidableEq, Repr

namespace Fault

/-- An assertion that two numbers differ, with the number that both turned out
to be. -/
def unequal (claim number : String) : String :=
  s!"assertion `left != right` failed: {claim}\n  left: {number}\n right: {number}"

def message : Fault → String
  | sumOverflow => "attempt to add with overflow"
  | differenceOverflow => "attempt to subtract with overflow"
  | lockNotHeld => unequal "unlock of an unlocked FastMutex" "0"
  | spinLockNotHeld => "unlock of an unlocked SpinMutex"
  | noReader => unequal "unlock_shared without a reader" "9223372036854775807"
  | noWriter => "unlock of a FastSharedMutex without a writer"
  | emptyCapacity => "BoundedQueue capacity must be > 0"
  | capacityTooLarge => "capacity overflow"
  | ringFull => "put into a full slot arena"
  | slotTaken => "push index points at a live slot"
  | slotVacant => "pop index points at an empty slot"
  | permitWithoutItem => "full-slot permit without an item"
  | noSuchWorker => "worker index out of range"
  | zeroInThreadName position bytes =>
      let listed := ", ".intercalate (bytes.map toString)
      s!"thread name may not contain interior null bytes: NulError({position}, [{listed}])"
  | cutInside split => split.message

end Fault

end Turnstile
