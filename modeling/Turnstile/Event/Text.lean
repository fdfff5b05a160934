import Turnstile.Event
import Turnstile.Text.Json.Content
import Turnstile.Text.Json.Writer

/-!
# Event modes as text

A mode is written as its name in lower case.
-/

namespace Turnstile.EventMode

set_option autoImplicit false

open Turnstile.Text.Json

def name : EventMode → String
  | manual => "manual"
  | auto => "auto"

def ofText (text : String) : Except Problem EventMode :=
  content (·.choice ([manual, auto].map fun mode => (mode.name, mode))) text

def toText (mode : EventMode) : String := writeText mode.name

end Turnstile.EventMode
