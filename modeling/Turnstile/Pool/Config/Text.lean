import Turnstile.Pool.Config
import Turnstile.Text.Json.Content
import Turnstile.Text.Json.Writer

/-!
# Settings as text

Settings are written as a JSON record, and read from one in which any of them
may be left out and names that mean nothing are skipped.
-/

namespace Turnstile.Pool.Config

set_option autoImplicit false

open Turnstile.Text.Json

/-- What is known of a length of time while it is read. -/
structure Parts where
  seconds : Option Nat
  nanos : Option Nat

/-- A length of time is read from its seconds and nanoseconds, both of them. -/
def durationShape : Shape Parts Duration where
  name := "struct Duration"
  fields :=
    [ { name := "secs"
        isKnown := fun parts => parts.seconds.isSome
        read := fun value parts => do .ok { parts with seconds := ← value.natural .long } },
      { name := "nanos"
        isKnown := fun parts => parts.nanos.isSome
        read := fun value parts => do .ok { parts with nanos := ← value.natural .short } }]
  unknown := some fun name =>
    let known := alternatives ["secs", "nanos"]
    .unfit s!"unknown field `{name}`, expected {known}"
  ofRecord := whole
  ofList := fun count parts =>
    if count < 2 then tooShort count "struct Duration" else whole parts
where
  whole (parts : Parts) : Except Problem Duration := do
    let seconds ← required "secs" parts.seconds
    let nanos ← required "nanos" parts.nanos
    match Duration.ofParts? seconds nanos with
    | some length => .ok length
    | none => .error (.unfit "overflow deserializing Duration")

def shape : Shape Draft Draft where
  name := "struct PoolConfig"
  fields :=
    [ { name := "workers"
        isKnown := fun draft => draft.workers.isSome
        read := fun value draft => do .ok { draft with workers := ← value.natural .size } },
      { name := "queue_capacity"
        isKnown := fun draft => draft.queueCapacity.isSome
        read := fun value draft => do .ok { draft with queueCapacity := ← value.natural .size } },
      { name := "steal_factor"
        isKnown := fun draft => draft.stealFactor.isSome
        read := fun value draft => do .ok { draft with stealFactor := ← value.natural .size } },
      { name := "thread_name"
        isKnown := fun draft => draft.threadName.isSome
        read := fun value draft => do .ok { draft with threadName := ← value.string "a string" } },
      { name := "idle_park"
        isKnown := fun draft => draft.idlePark.isSome
        read := fun value draft => do
          .ok { draft with idlePark := ← durationShape.read ⟨none, none⟩ value } }]
  unknown := none
  ofRecord := .ok
  ofList := fun _ draft => .ok draft

def Draft.ofText (text : String) : Except Problem Draft := content (shape.read {}) text

def toText (config : Config) : String :=
  writeRecord
    [("workers", toString config.workers), ("queue_capacity", toString config.queueCapacity),
      ("steal_factor", toString config.stealFactor), ("thread_name", writeText config.threadName),
      ("idle_park", writeRecord
        [("secs", toString config.idlePark.seconds), ("nanos", toString config.idlePark.nanos)])]

end Turnstile.Pool.Config
