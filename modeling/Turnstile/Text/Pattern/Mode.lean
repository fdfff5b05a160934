import Turnstile.Text.Blank

/-!
# How a pattern is read

Flags inside a pattern change how the rest of it is read: whether the case of
letters counts, whether the pattern is about characters or bytes, and whether
blanks and comments stand in it for themselves. Other flags only change what it
matches.
-/

namespace Turnstile.Text.Pattern

set_option autoImplicit false

structure Mode where
  /-- The case of letters does not count. -/
  caseless : Bool := false
  /-- The pattern is about characters, not bytes. -/
  unicode : Bool := true
  /-- Blanks and comments are passed over. -/
  spaced : Bool := false
  deriving DecidableEq, Repr

/-- A text without the blanks and comments that it begins with. A comment goes
from a number sign to the end of the line. -/
def withoutComments : (inComment : Bool) → List Char → List Char
  | _, [] => []
  | true, c :: rest => withoutComments (c ≠ '\n') rest
  | false, c :: rest =>
    if isBlank c then withoutComments false rest
    else if c = '#' then withoutComments true rest
    else c :: rest

def Mode.next (mode : Mode) (text : List Char) : List Char :=
  if mode.spaced then withoutComments false text else text

/-- The character that decides what a dash in front of the text means: the first
that is no blank, with one number sign passed over that does not open a comment
here. -/
def Mode.glance (mode : Mode) (text : List Char) : Option Char :=
  if mode.spaced then
    let visible := match text.dropWhile isBlank with
      | '#' :: rest => rest.dropWhile isBlank
      | rest => rest
    visible.head?.or text.head?
  else text.head?

/-- Whether a character may stand for itself. Without regard to case none may
where all characters are meant, since nothing is known about the case of those
outside ASCII. -/
def Mode.takesCharacters (mode : Mode) : Bool := !(mode.caseless && mode.unicode)

/-! ## Flags -/

/-- A mode with a flag set or cleared; `none` for a letter that is no flag. -/
def Mode.withFlag? (mode : Mode) (flag : Char) (value : Bool) : Option Mode :=
  match flag with
  | 'i' => some { mode with caseless := value }
  | 'u' => some { mode with unicode := value }
  | 'x' => some { mode with spaced := value }
  | 'm' | 's' | 'U' | 'R' => some mode
  | _ => none

/-- Flags up to a colon or a closing bracket, each once at most; those after a
dash are cleared, and a dash has at least one flag after it. `seen` holds what
was read so far, backwards. Returned are the mode, the character at the end and
what follows it; brackets with nothing in them are refused. -/
def Mode.withFlags? (mode : Mode) (seen : List Char) :
    List Char → Option (Mode × Char × List Char)
  | [] => none
  | c :: rest =>
    if c = ':' || c = ')' then
      if seen.head? = some '-' || c = ')' && seen.isEmpty then none else some (mode, c, rest)
    else if seen.contains c then none
    else if c = '-' then mode.withFlags? (c :: seen) rest
    else do (← mode.withFlag? c (!seen.contains '-')).withFlags? (c :: seen) rest

end Turnstile.Text.Pattern
