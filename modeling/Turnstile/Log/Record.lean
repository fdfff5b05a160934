/-!
# Log records

What a record says, and from how urgent a level on it is of interest.
-/

namespace Turnstile.Log

set_option autoImplicit false

inductive Level where
  | error
  | warn
  | info
  | debug
  | trace
  deriving DecidableEq, Repr

namespace Level

def label : Level → String
  | error => "ERROR"
  | warn => "WARN"
  | info => "INFO"
  | debug => "DEBUG"
  | trace => "TRACE"

/-- How much is told by whoever tells everything up to this level. -/
def verbosity : Level → Nat
  | error => 1
  | warn => 2
  | info => 3
  | debug => 4
  | trace => 5

end Level

inductive Value where
  | text (text : String)
  | number (number : Nat)
  | flag (flag : Bool)
  deriving DecidableEq, Repr

def Value.describe : Value → String
  | .text shown => shown
  | .number count => toString count
  | .flag isSet => toString isSet

structure Record where
  level : Level
  /-- The part of the program that speaks. -/
  target : String
  message : String
  fields : List (String × Value)
  deriving DecidableEq, Repr

namespace Record

def content (record : Record) : String :=
  " ".intercalate (record.message :: record.fields.map fun (name, value) =>
    name ++ "=" ++ value.describe)

def describe (record : Record) : String := record.level.label ++ " " ++ record.content

end Record

end Turnstile.Log
