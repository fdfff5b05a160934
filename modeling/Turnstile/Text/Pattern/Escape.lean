import Turnstile.Text.Hexadecimal
import Turnstile.Text.Pattern.Mode

/-!
# Escapes in a pattern

What a backslash may stand before. Families of characters are known for ASCII
only, so they are refused where all characters are meant, and so are their
complements, which reach beyond ASCII. Boundaries of words are refused there too.
-/

namespace Turnstile.Text.Pattern

set_option autoImplicit false

inductive Escape where
  | character (c : Char)
  /-- A family of characters, such as the digits. -/
  | family
  /-- A place between characters. -/
  | place
  deriving DecidableEq, Repr

def character? (mode : Mode) (c : Char) : Option Escape :=
  if mode.takesCharacters then some (.character c) else none

/-- A number of `count` digits, `number` being what is read of it. -/
def hexDigits? (mode : Mode) : (count : Nat) → (number : Nat) → List Char → Option (Nat × List Char)
  | 0, number, text => some (number, text)
  | count + 1, number, text =>
    match mode.next text with
    | [] => none
    | c :: rest => do hexDigits? mode count (16 * number + (← hexDigit? c)) rest

/-- A character by its number. Where the pattern is about bytes, two digits mean
a byte, and one outside ASCII is part of a character only. -/
def numbered? (mode : Mode) (count : Nat) (text : List Char) : Option (Escape × List Char) := do
  let (number, rest) ← hexDigits? mode count 0 text
  if !mode.unicode && count = 2 && 0x80 ≤ number then none
  else if number.isValidChar then
    some (← character? mode (Char.ofNat number), rest)
  else none

/-- Letters that stand for a control character. -/
def controls : List (Char × Char) :=
  [('a', '\x07'), ('f', '\x0c'), ('t', '\t'), ('n', '\n'), ('r', '\r'), ('v', '\x0b')]

def escape? (mode : Mode) : List Char → Option (Escape × List Char)
  | [] => none
  | c :: rest =>
    match c with
    | 'x' => numbered? mode 2 rest
    | 'u' => numbered? mode 4 rest
    | 'U' => numbered? mode 8 rest
    | 'd' | 's' | 'w' => if mode.unicode then none else some (.family, rest)
    | 'A' | 'z' => some (.place, rest)
    | 'b' | 'B' | '<' | '>' => if mode.unicode then none else some (.place, rest)
    | c =>
      match controls.lookup c with
      | some control => do some (← character? mode control, rest)
      | none =>
        if c.toNat < 0x80 && !c.isAlphanum then do some (← character? mode c, rest) else none

end Turnstile.Text.Pattern
