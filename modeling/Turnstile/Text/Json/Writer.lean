import Turnstile.Text.Quoted

/-!
# Writing JSON

The compact form: no blanks, the members of a record in the order in which they
are given, and in texts only what must be escaped.
-/

namespace Turnstile.Text.Json

set_option autoImplicit false

/-- The escape of a character: the common controls by a letter, every other
control by four digits. -/
def written (c : Char) : String :=
  match c with
  | '\"' => "\\\""
  | '\\' => "\\\\"
  | '\x08' => "\\b"
  | '\x0c' => "\\f"
  | '\n' => "\\n"
  | '\r' => "\\r"
  | '\t' => "\\t"
  | c =>
    if c.toNat < 0x10 then "\\u000" ++ hex c.toNat
    else if c.toNat < 0x20 then "\\u00" ++ hex c.toNat
    else c.toString

def writeText (text : String) : String := "\"" ++ String.join (text.toList.map written) ++ "\""

def writeRecord (members : List (String × String)) : String :=
  let lines := members.map fun (key, value) => writeText key ++ ":" ++ value
  "\x7b" ++ ",".intercalate lines ++ "\x7d"

end Turnstile.Text.Json
