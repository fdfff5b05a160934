import Turnstile.Text.Json.Content
import Turnstile.Text.Json.Writer
import Turnstile.Text.Record

/-!
# Counting what a pool does

`Counters` count up, and wrap around at the end of 64 bits. `Stats` is what they
show at one moment, beside the number of workers and of waiting jobs.
-/

namespace Turnstile.Pool

set_option autoImplicit false

structure Counters where
  /-- Submissions that were accepted. -/
  submitted : UInt64 := 0
  /-- Jobs that have run, those that panicked among them. -/
  executed : UInt64 := 0
  /-- Jobs that a worker took from another worker's queue. -/
  stolen : UInt64 := 0
  /-- Jobs that panicked. -/
  panicked : UInt64 := 0
  /-- Submissions that found every queue full. -/
  fallbacks : UInt64 := 0
  deriving DecidableEq, Repr

namespace Counters

def countSubmitted (counters : Counters) : Counters :=
  { counters with submitted := counters.submitted + 1 }

def countExecuted (counters : Counters) : Counters :=
  { counters with executed := counters.executed + 1 }

def countStolen (counters : Counters) : Counters :=
  { counters with stolen := counters.stolen + 1 }

def countPanicked (counters : Counters) : Counters :=
  { counters with panicked := counters.panicked + 1 }

def countFallback (counters : Counters) : Counters :=
  { counters with fallbacks := counters.fallbacks + 1 }

end Counters

structure Stats where
  workers : Nat := 0
  queued : Nat := 0
  counters : Counters := {}
  deriving DecidableEq, Repr

namespace Stats

/-- The numbers by their names, in the order in which they are shown. -/
def numbers (stats : Stats) : List (String × Nat) :=
  [("workers", stats.workers), ("queued", stats.queued),
    ("submitted", stats.counters.submitted.toNat), ("executed", stats.counters.executed.toNat),
    ("stolen", stats.counters.stolen.toNat), ("panicked", stats.counters.panicked.toNat),
    ("blocking_fallbacks", stats.counters.fallbacks.toNat)]

def fields (stats : Stats) : List (String × String) :=
  stats.numbers.map fun (name, number) => (name, toString number)

def describe (stats : Stats) : String := Text.record "PoolStats" stats.fields

def toText (stats : Stats) : String := Text.Json.writeRecord stats.fields

def isInitial (stats : Stats) : Bool := stats = {}

open Turnstile.Text.Json

/-- The numbers read so far, by their names. -/
abbrev Known : Type := List (String × Nat)

def field (name : String) (width : Width) : FieldRule Known where
  name := name
  isKnown known := (known.lookup name).isSome
  read value known := do .ok ((name, ← value.natural width) :: known)

def ofKnown (known : Known) : Except Problem Stats := do
  let number (name : String) : Except Problem Nat := required name (known.lookup name)
  let workers ← number "workers"
  let queued ← number "queued"
  let submitted ← number "submitted"
  let executed ← number "executed"
  let stolen ← number "stolen"
  let panicked ← number "panicked"
  let fallbacks ← number "blocking_fallbacks"
  .ok
    { workers, queued
      counters :=
        { submitted := UInt64.ofNat submitted
          executed := UInt64.ofNat executed
          stolen := UInt64.ofNat stolen
          panicked := UInt64.ofNat panicked
          fallbacks := UInt64.ofNat fallbacks } }

/-- All numbers must be given. -/
def shape : Shape Known Stats where
  name := "struct PoolStats"
  fields :=
    [field "workers" .size, field "queued" .size, field "submitted" .long, field "executed" .long,
      field "stolen" .long, field "panicked" .long, field "blocking_fallbacks" .long]
  unknown := none
  ofRecord := ofKnown
  ofList count known :=
    if count < 7 then tooShort count "struct PoolStats with 7 elements" else ofKnown known

def ofText (text : String) : Except Problem Stats := content (shape.read []) text

end Stats

end Turnstile.Pool
