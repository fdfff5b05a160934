import Turnstile.Text.Pattern.Depth
import Turnstile.Text.Pattern.Escape

/-!
# Classes of characters in a pattern

A class stands between square brackets: characters, ranges, families, named
families and classes inside it, with operators between groups of them. Where the
pattern is about bytes a class holds ASCII only, so that nothing is the
complement of another class.
-/

namespace Turnstile.Text.Pattern

set_option autoImplicit false

structure Class where
  /-- The depth of what stands before the last operator. -/
  operand : Option Nat := none
  /-- What stands after it. -/
  members : Siblings := {}
  /-- Nothing was read of the class but dashes, which stand for themselves there. -/
  fresh : Bool := true
  deriving DecidableEq, Repr

def Class.add (current : Class) (depth : Nat) : Class :=
  { current with members := current.members.add depth, fresh := false }

/-- The depth of what is read, without the brackets. -/
def Class.inner (current : Class) : Nat :=
  match current.operand with
  | none => current.members.depth
  | some operand => max operand current.members.depth + 1

def Class.depth (current : Class) : Nat := current.inner + 1

def Class.operator (current : Class) : Class := ⟨some current.inner, {}, false⟩

/-! ## Members -/

def familyNames : List String :=
  ["alnum", "alpha", "ascii", "blank", "cntrl", "digit", "graph", "lower", "print", "punct",
   "space", "upper", "word", "xdigit"]

/-- A named family, from what follows its opening bracket: whether it is a
complement, and what follows it. -/
def named? : List Char → Option (Bool × List Char)
  | ':' :: text =>
    let (complement, text) := match text with
      | '^' :: rest => (true, rest)
      | text => (false, text)
    match text.dropWhile (· ≠ ':') with
    | ':' :: ']' :: rest =>
      if familyNames.contains (String.ofList (text.takeWhile (· ≠ ':'))) then
        some (complement, rest)
      else none
    | _ => none
  | _ => none

/-- Whether a named family may be a member. -/
def Mode.takesNamed (mode : Mode) (complement : Bool) : Bool :=
  mode.takesCharacters && (mode.unicode || !complement)

def member? (mode : Mode) (text : List Char) : Option (Option Char × List Char) := do
  let (escape, rest) ← match text with
    | [] => none
    | '\\' :: rest => escape? mode rest
    | c :: rest => (character? mode c).map (·, rest)
  match escape with
  | .character c => if mode.unicode || c.toNat < 0x80 then some (some c, rest) else none
  | .family => some (none, rest)
  | .place => none

/-- A member or a range, and what follows it. A dash before the closing bracket
or another dash makes no range. -/
def range? (mode : Mode) (text : List Char) : Option (List Char) := do
  let (first, rest) ← member? mode text
  match mode.next rest with
  | '-' :: after =>
    let decisive := mode.glance after
    if decisive = some ']' || decisive = some '-' then some ('-' :: after)
    else
      match first, ← member? mode (mode.next after) with
      | some low, (some high, rest) => if low ≤ high then some rest else none
      | _, _ => none
  | rest => some rest

/-! ## Whole classes -/

/-- A class that was just opened, and what is to be read of it. -/
def opened? (mode : Mode) (text : List Char) : Option (Class × List Char) :=
  match mode.next text with
  | '^' :: rest => if mode.unicode then some ({}, rest) else none
  | text => some ({}, text)

/-- The rest of a class and of the classes around it, innermost first; `fuel`
bounds the number of pieces. -/
def classRest? (mode : Mode) :
    (fuel : Nat) → Class → List Class → List Char → Option (Nat × List Char)
  | 0, _, _, _ => none
  | fuel + 1, current, outer, text =>
    match mode.next text with
    | [] => none
    | '[' :: rest =>
      match named? rest with
      | some (complement, rest) =>
        if mode.takesNamed complement then classRest? mode fuel (current.add 0) outer rest else none
      | none => do
        let (inner, rest) ← opened? mode rest
        classRest? mode fuel inner ({ current with fresh := false } :: outer) rest
    | c :: rest =>
      if current.fresh && (c = '-' || c = ']' && current.members.count = 0) then
        if mode.takesCharacters then
          classRest? mode fuel { current.add 0 with fresh := c = '-' } outer rest
        else none
      else if c = ']' then
        match outer with
        | [] => some (current.depth, rest)
        | parent :: outer => classRest? mode fuel (parent.add current.depth) outer rest
      else if (c = '&' || c = '-' || c = '~') && rest.head? = some c then
        classRest? mode fuel current.operator outer rest.tail
      else do
        classRest? mode fuel (current.add 0) outer (← range? mode (c :: rest))

/-- A class, from what follows its opening bracket: its depth, and what follows
it. -/
def class? (mode : Mode) (text : List Char) : Option (Nat × List Char) := do
  let (current, rest) ← opened? mode text
  classRest? mode (rest.length + 1) current [] rest

end Turnstile.Text.Pattern
