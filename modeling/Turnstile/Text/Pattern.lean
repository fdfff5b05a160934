import Turnstile.Text.Alphanumeric
import Turnstile.Text.Numeral
import Turnstile.Text.Pattern.Class

/-!
# Patterns

Which texts are patterns: regular expressions in which no curly brace is closed,
so that an opening one has no meaning. A pattern is read from left to right.
Every group keeps a level of its own, with the mode to go back to at its end;
flags without a group hold up to the end of the group that they stand in.

Nothing is matched here. What is told apart is a text that can be matched
against and one that cannot.
-/

namespace Turnstile.Text.Pattern

set_option autoImplicit false

/-- A pattern or group that is being read. -/
structure Level where
  /-- The alternatives before the last bar. -/
  branches : Siblings := {}
  /-- The pieces after it. -/
  pieces : Siblings := {}
  /-- The depth of the last piece, if that may be repeated. -/
  repeatable : Option Nat := none
  deriving DecidableEq, Repr

def Level.add (level : Level) (depth : Nat) : Level :=
  { level with pieces := level.pieces.add depth, repeatable := some depth }

/-- Flags are a piece that cannot be repeated. -/
def Level.addFlags (level : Level) : Level :=
  { level with pieces := level.pieces.add 0, repeatable := none }

/-- The last piece repeated, which makes it one deeper. -/
def Level.repeated? (level : Level) : Option Level := do
  let depth := (← level.repeatable) + 1
  some { level with
    pieces := { level.pieces with deepest := max level.pieces.deepest depth }
    repeatable := some depth }

def Level.bar (level : Level) : Level := { branches := level.branches.add level.pieces.depth }

def Level.depth (level : Level) : Nat := level.bar.branches.depth

structure Reading where
  mode : Mode := {}
  level : Level := {}
  /-- The groups around it, innermost first, with their modes. -/
  outer : List (Mode × Level) := []
  /-- The names of groups. -/
  names : List (List Char) := []
  deriving DecidableEq, Repr

def Reading.add (reading : Reading) (depth : Nat) : Reading :=
  { reading with level := reading.level.add depth }

def Reading.enter (reading : Reading) (mode : Mode) : Reading :=
  { reading with mode, level := {}, outer := (reading.mode, reading.level) :: reading.outer }

/-! ## Groups -/

def beginsName (c : Char) : Bool :=
  c = '_' || Alphanumeric.covers c.toNat && !Numeral.covers c.toNat

def continuesName (c : Char) : Bool :=
  c = '_' || c = '.' || c = '[' || c = ']' || Alphanumeric.covers c.toNat

def Reading.enterNamed? (reading : Reading) (text : List Char) : Option (Reading × List Char) :=
  let name := text.takeWhile (· ≠ '>')
  match name, text.drop name.length with
  | first :: others, _ :: rest =>
    if beginsName first && others.all continuesName && !reading.names.contains name then
      some ({ reading with names := name :: reading.names }.enter reading.mode, rest)
    else none
  | _, _ => none

/-- What an opening bracket begins. Nothing looks ahead or behind. -/
def Reading.bracket? (reading : Reading) (text : List Char) : Option (Reading × List Char) :=
  match reading.mode.next text with
  | '?' :: '=' :: _ | '?' :: '!' :: _ | '?' :: '<' :: '=' :: _ | '?' :: '<' :: '!' :: _ => none
  | '?' :: 'P' :: '<' :: rest | '?' :: '<' :: rest => reading.enterNamed? rest
  | '?' :: rest => do
    let (mode, last, rest) ← reading.mode.withFlags? [] rest
    if last = ':' then some (reading.enter mode, rest)
    else some ({ reading with mode, level := reading.level.addFlags }, rest)
  | rest => some (reading.enter reading.mode, rest)

/-! ## Whole patterns -/

/-- A piece that is no group, no class and no operator. -/
def piece? (mode : Mode) (c : Char) (rest : List Char) : Option (List Char) :=
  match c with
  | '\\' => (escape? mode rest).map (·.2)
  | '.' => if mode.unicode then some rest else none
  | '^' | '$' => some rest
  | c => (character? mode c).map fun _ => rest

def Reading.step? (reading : Reading) (c : Char) (rest : List Char) :
    Option (Reading × List Char) :=
  match c with
  | '(' => reading.bracket? rest
  | ')' =>
    match reading.outer with
    | [] => none
    | (mode, level) :: outer =>
      some ({ reading with mode, level := level.add (reading.level.depth + 1), outer }, rest)
  | '|' => some ({ reading with level := reading.level.bar }, rest)
  | '[' => do
    let (depth, rest) ← class? reading.mode rest
    some (reading.add depth, rest)
  | '\x7b' => none
  | '?' | '*' | '+' => do
    let level ← reading.level.repeated?
    some ({ reading with level }, if rest.head? = some '?' then rest.tail else rest)
  | c => do some (reading.add 0, ← piece? reading.mode c rest)

/-- The rest of a pattern; `fuel` bounds the number of steps. -/
def Reading.finish? (reading : Reading) : (fuel : Nat) → List Char → Option Reading
  | 0, _ => none
  | fuel + 1, text =>
    match reading.mode.next text with
    | [] => some reading
    | c :: rest => do
      let (reading, rest) ← reading.step? c rest
      reading.finish? fuel rest

end Turnstile.Text.Pattern

namespace Turnstile.Text

set_option autoImplicit false

def isPattern (text : List Char) : Bool :=
  (Pattern.Reading.finish? {} (text.length + 1) text).any fun reading =>
    reading.outer.isEmpty && reading.level.depth ≤ Pattern.deepestAllowed

end Turnstile.Text
