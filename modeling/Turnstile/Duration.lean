/-!
# Lengths of time

A length of time in whole nanoseconds, less than `2 ^ 64` seconds.
-/

namespace Turnstile

set_option autoImplicit false

def nanosPerSecond : Nat := 1000000000

structure Duration where
  total : Nat
  fits : total < UInt64.size * nanosPerSecond := by decide
  deriving DecidableEq, Repr

namespace Duration

/-- The length of some seconds and some nanoseconds, of which there may be more
than a second's; `none` if that is too long. -/
def ofParts? (seconds nanos : Nat) : Option Duration :=
  let total := seconds * nanosPerSecond + nanos
  if fits : total < UInt64.size * nanosPerSecond then some ⟨total, fits⟩ else none

def seconds (length : Duration) : Nat := length.total / nanosPerSecond

/-- The nanoseconds beyond the whole seconds. -/
def nanos (length : Duration) : Nat := length.total % nanosPerSecond

/-- The whole microseconds, modulo `2 ^ 64`. -/
def micros (length : Duration) : UInt64 := UInt64.ofNat (length.total / 1000)

def isZero (length : Duration) : Bool := length.total = 0

theorem ofParts_seconds_nanos (length : Duration) :
    ofParts? length.seconds length.nanos = some length := by
  have parts : length.seconds * nanosPerSecond + length.nanos = length.total :=
    Nat.div_add_mod' length.total nanosPerSecond
  simp only [ofParts?, parts]
  exact dif_pos length.fits

/-- `whole.part unit`, where `part` counts fractions of which `10 ^ places` make
one; zeros at the end are left out, and the point with them. -/
def withFraction (whole part places : Nat) (unit : String) : String :=
  let digits := Nat.toDigits 10 part
  let padded := List.replicate (places - digits.length) '0' ++ digits
  let kept := (padded.reverse.dropWhile (· = '0')).reverse
  let fraction := if kept.isEmpty then "" else "." ++ String.ofList kept
  toString whole ++ fraction ++ unit

/-- A length of time is shown in the largest unit of which it has at least
one. -/
def describe (length : Duration) : String :=
  if 0 < length.seconds then withFraction length.seconds length.nanos 9 "s"
  else if 1000000 ≤ length.nanos then
    withFraction (length.nanos / 1000000) (length.nanos % 1000000) 6 "ms"
  else if 1000 ≤ length.nanos then
    withFraction (length.nanos / 1000) (length.nanos % 1000) 3 "µs"
  else withFraction length.nanos 0 0 "ns"

end Duration

end Turnstile
