import Turnstile.Text.Quoted

/-!
# Parts of a text by bytes

Positions in a text are counted in the bytes of its UTF-8 form. A part can begin
and end between characters only.
-/

namespace Turnstile.Text

set_option autoImplicit false

inductive Edge where
  | start
  | stop
  deriving DecidableEq, Repr

/-- A position inside a character, whose first byte is at `first`. -/
structure Split where
  edge : Edge
  position : Nat
  character : Char
  first : Nat
  deriving DecidableEq, Repr

namespace Split

def label : Edge → String
  | .start => "start"
  | .stop => "end"

def message (split : Split) : String :=
  let last := split.first + split.character.utf8Size
  s!"{label split.edge} byte index {split.position} is not a char boundary; "
    ++ s!"it is inside '{escaped split.character}' (bytes {split.first}..{last} of string)"

end Split

def byteCount (text : List Char) : Nat := text.foldr (fun c rest => c.utf8Size + rest) 0

/-- A text in two parts, the second from `position` on; its first byte is at
`first`. -/
def cut (edge : Edge) (position : Nat) : (first : Nat) → List Char →
    Except Split (List Char × List Char)
  | _, [] => .ok ([], [])
  | first, c :: rest =>
    let next := first + c.utf8Size
    if position ≤ first then .ok ([], c :: rest)
    else if next ≤ position then do
      let (before, after) ← cut edge position next rest
      .ok (c :: before, after)
    else .error ⟨edge, position, c, first⟩

def slice (text : List Char) (start stop : Nat) : Except Split (List Char) := do
  let (_, rest) ← cut .start start 0 text
  let (part, _) ← cut .stop stop start rest
  .ok part

end Turnstile.Text
