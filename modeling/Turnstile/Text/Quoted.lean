import Turnstile.Text.Hexadecimal
import Turnstile.Text.Unprintable

/-!
# Texts in quotes

`quoted` shows a text for inspection: between double quotes, with the quote, the
backslash and the common controls escaped by a letter, and every other character
without a visible form of its own by its number.
-/

namespace Turnstile.Text

set_option autoImplicit false

/-- Whether a character stands for itself. -/
def isPrintable (c : Char) : Bool :=
  if c.toNat < 0x80 then 0x20 ≤ c.toNat && c.toNat < 0x7f else !Unprintable.covers c.toNat

def escaped (c : Char) : String :=
  match c with
  | '\x00' => "\\0"
  | '\t' => "\\t"
  | '\r' => "\\r"
  | '\n' => "\\n"
  | '\"' => "\\\""
  | '\\' => "\\\\"
  | c => if isPrintable c then c.toString else "\\u\x7b" ++ hex c.toNat ++ "\x7d"

def quoted (text : String) : String :=
  "\"" ++ String.join (text.toList.map escaped) ++ "\""

end Turnstile.Text
