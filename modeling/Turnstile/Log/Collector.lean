import Turnstile.Log.Filter
import Turnstile.Text.Json.Writer

/-!
# Collecting log records

A collector keeps the records that its filter lets through and writes each as one
line. There is at most one in a program: the first that is installed stays, and
it opens with a record of its own.
-/

namespace Turnstile.Log

set_option autoImplicit false

/-- A record and the name of the thread that it comes from. -/
structure Entry where
  thread : String
  record : Record
  deriving DecidableEq, Repr

inductive Layout where
  | line
  | json
  deriving DecidableEq, Repr

def Value.toJson : Value → String
  | .text shown => Text.Json.writeText shown
  | .number count => toString count
  | .flag isSet => toString isSet

/-- How an entry is written: in one line with single spaces, or as a JSON
record. -/
def Layout.write (entry : Entry) : Layout → String
  | .line =>
    Text.singleSpaced
      s!"{entry.record.level.label} {entry.thread} {entry.record.target}: {entry.record.content}"
  | .json =>
    let fields := entry.record.fields.map fun (name, value) => (name, value.toJson)
    Text.Json.writeRecord
      [("level", Text.Json.writeText entry.record.level.label),
        ("fields", Text.Json.writeRecord
          (("message", Text.Json.writeText entry.record.message) :: fields)),
        ("target", Text.Json.writeText entry.record.target),
        ("threadName", Text.Json.writeText entry.thread)]

structure Collector where
  filter : Filter
  layout : Layout
  deriving DecidableEq, Repr

namespace Collector

/-- The filter that a text of the environment asks for, or the standard one. -/
def chosenFilter (text : Option String) : Except Fault Filter :=
  match text.map Filter.ofText with
  | some (.ok filter) => .ok filter
  | some (.error (.fault fault)) => .error fault
  | some (.error .malformed) | none => .ok .standard

/-- The collector that two texts of the environment ask for: one is the filter,
the other says whether JSON is wanted. -/
def ofEnvironment (filter json : Option String) : Except Fault Collector := do
  let layout := if json = some "1" ∨ json = some "true" then .json else .line
  .ok ⟨← chosenFilter filter, layout⟩

/-- Installs a collector if there is none yet, and says whether it did. -/
def install (installed : Option Collector) (collector : Collector) : Option Collector × Bool :=
  match installed with
  | none => (some collector, true)
  | some first => (some first, false)

def greeting (collector : Collector) : Record where
  level := .info
  target := "fastsync::monitoring::tracer"
  message := "structured tracing initialized"
  fields := [("json", .flag (collector.layout = .json))]

def lines (collector : Collector) (entries : List Entry) : List String :=
  (entries.filter fun entry => collector.filter.keeps entry.record).map collector.layout.write

end Collector

end Turnstile.Log
