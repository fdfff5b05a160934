import Turnstile.Text.Hexadecimal

/-!
# JSON texts, piece by piece

The tokens of a text in order, up to the first piece that is none. A token is
read no further than its own end, and what is wrong with it is part of it:
whether that matters is for the reader of the tokens to say, since some of them
are never looked at, and the first problem met decides.

A piece of text between quotes is read in two ways. Whoever wants the text needs
its surrogate escapes in pairs; whoever skips it does not.
-/

namespace Turnstile.Text.Json

set_option autoImplicit false

/-- Why a value cannot be read. -/
inductive Problem where
  /-- The text ends too early. -/
  | ended
  /-- The text is no JSON. -/
  | malformed
  /-- The text is JSON, but does not say what was asked for. -/
  | unfit (message : String)
  deriving DecidableEq, Repr

structure Numeral where
  negative : Bool
  whole : List Char
  fraction : Option (List Char)
  /-- The sign and the digits of an exponent. -/
  power : Option (Bool × List Char)
  deriving DecidableEq, Repr

/-- A part of a text between quotes: a character, or an escaped UTF-16 unit. -/
inductive Piece where
  | char (char : Char)
  | unit (unit : Nat)
  deriving DecidableEq, Repr

inductive Token where
  | openList
  | closeList
  | openRecord
  | closeRecord
  | comma
  | colon
  | null
  | bool (value : Bool)
  /-- A number, or what is wrong with it for whoever wants its value. -/
  | number (numeral : Except Problem Numeral)
  /-- The pieces of a text, and what keeps it from being complete. -/
  | text (pieces : List Piece) (stop : Option Problem)
  /-- The beginning of something that is no token. -/
  | broken (problem : Problem)

def isBlank (c : Char) : Bool := c = ' ' || c = '\n' || c = '\t' || c = '\r'

/-! ## Words -/

def afterWord : List Char → List Char → Except Problem (List Char)
  | [], rest => .ok rest
  | _ :: _, [] => .error .ended
  | expected :: word, c :: rest => if c = expected then afterWord word rest else .error .malformed

/-! ## Numbers -/

def digits (text : List Char) : Except Problem (List Char × List Char) :=
  match text with
  | [] => .error .ended
  | c :: _ =>
    if c.isDigit then .ok (text.takeWhile Char.isDigit, text.dropWhile Char.isDigit)
    else .error .malformed

/-- The digits before the point: a zero stands alone. -/
def wholeDigits (text : List Char) : Except Problem (List Char × List Char) :=
  match text with
  | '0' :: rest =>
    if (rest.head?.map Char.isDigit).getD false then .error .malformed else .ok (['0'], rest)
  | text => digits text

def fractionDigits (text : List Char) : Except Problem (Option (List Char) × List Char) :=
  match text with
  | '.' :: rest => (digits rest).map fun (read, rest) => (some read, rest)
  | text => .ok (none, text)

def powerDigits (text : List Char) : Except Problem (Option (Bool × List Char) × List Char) :=
  match text with
  | c :: rest =>
    if c = 'e' || c = 'E' then
      let (negative, rest) :=
        match rest with
        | '-' :: rest => (true, rest)
        | '+' :: rest => (false, rest)
        | rest => (false, rest)
      (digits rest).map fun (read, rest) => (some (negative, read), rest)
    else .ok (none, text)
  | [] => .ok (none, [])

def numeral (negative : Bool) (text : List Char) : Except Problem (Numeral × List Char) := do
  let (whole, rest) ← wholeDigits text
  let (fraction, rest) ← fractionDigits rest
  let (power, rest) ← powerDigits rest
  .ok (⟨negative, whole, fraction, power⟩, rest)

/-! ## Texts -/

/-- The UTF-16 unit that four hexadecimal digits stand for. -/
def unit? (a b c d : Char) : Option Nat := do
  let high := 16 * (← hexDigit? a) + (← hexDigit? b)
  let low := 16 * (← hexDigit? c) + (← hexDigit? d)
  some (256 * high + low)

/-- What is wrong with an escaped unit without four characters after it: fewer
than four bytes are a text that ends too early. -/
def shortUnit (rest : List Char) : Problem :=
  if 4 ≤ (String.ofList rest).utf8ByteSize then .malformed else .ended

def letter? : Char → Option Char
  | '\"' => some '\"'
  | '\\' => some '\\'
  | '/' => some '/'
  | 'b' => some '\x08'
  | 'f' => some '\x0c'
  | 'n' => some '\n'
  | 'r' => some '\r'
  | 't' => some '\t'
  | _ => none

/-- The pieces before the closing quote and what comes after it, or the pieces
before a problem. -/
def pieces : List Char → List Piece × Except Problem (List Char)
  | [] => ([], .error .ended)
  | '\"' :: rest => ([], .ok rest)
  | '\\' :: 'u' :: a :: b :: c :: d :: rest =>
    match unit? a b c d with
    | some unit => let (more, after) := pieces rest; (.unit unit :: more, after)
    | none => ([], .error .malformed)
  | '\\' :: 'u' :: rest => ([], .error (shortUnit rest))
  | '\\' :: c :: rest =>
    match letter? c with
    | some char => let (more, after) := pieces rest; (.char char :: more, after)
    | none => ([], .error .malformed)
  | ['\\'] => ([], .error .ended)
  | c :: rest =>
    if c.toNat < 0x20 then ([], .error .malformed)
    else let (more, after) := pieces rest; (.char c :: more, after)

def isHighSurrogate (unit : Nat) : Bool := 0xd800 ≤ unit && unit < 0xdc00
def isLowSurrogate (unit : Nat) : Bool := 0xdc00 ≤ unit && unit < 0xe000

/-- The characters of a text, in which a high surrogate is followed at once by a
low one. -/
def characters (stop : Option Problem) : List Piece → Except Problem (List Char)
  | [] => stop.elim (.ok []) .error
  | .char char :: rest => (characters stop rest).map (char :: ·)
  | [.unit unit] =>
    if isHighSurrogate unit then .error (stop.getD .malformed)
    else if isLowSurrogate unit then .error .malformed
    else stop.elim (.ok [Char.ofNat unit]) .error
  | .unit high :: .unit low :: rest =>
    if isHighSurrogate high then
      if isLowSurrogate low then
        let point := 0x10000 + (high - 0xd800) * 0x400 + (low - 0xdc00)
        (characters stop rest).map (Char.ofNat point :: ·)
      else .error .malformed
    else if isLowSurrogate high then .error .malformed
    else (characters stop (.unit low :: rest)).map (Char.ofNat high :: ·)
  | .unit unit :: .char char :: rest =>
    if isHighSurrogate unit || isLowSurrogate unit then .error .malformed
    else (characters stop rest).map (Char.ofNat unit :: char :: ·)

/-! ## All tokens -/

/-- A word of which the first letter is read. -/
def wordToken (word rest : List Char) (token : Token) : Token × List Char :=
  match afterWord word rest with
  | .ok rest => (token, rest)
  | .error problem => (.broken problem, [])

def numberToken (negative : Bool) (text : List Char) : Token × List Char :=
  match numeral negative text with
  | .ok (numeral, rest) => (.number (.ok numeral), rest)
  | .error problem => (.number (.error problem), [])

def textToken (text : List Char) : Token × List Char :=
  match pieces text with
  | (pieces, .ok rest) => (.text pieces none, rest)
  | (pieces, .error problem) => (.text pieces (some problem), [])

/-- The token that begins with `c`, and what comes after it: nothing, if it does
not end well. -/
def token (c : Char) (rest : List Char) : Token × List Char :=
  match c with
  | '[' => (.openList, rest)
  | ']' => (.closeList, rest)
  | '\x7b' => (.openRecord, rest)
  | '\x7d' => (.closeRecord, rest)
  | ',' => (.comma, rest)
  | ':' => (.colon, rest)
  | 'n' => wordToken ['u', 'l', 'l'] rest .null
  | 't' => wordToken ['r', 'u', 'e'] rest (.bool true)
  | 'f' => wordToken ['a', 'l', 's', 'e'] rest (.bool false)
  | '\"' => textToken rest
  | '-' => numberToken true rest
  | c => if c.isDigit then numberToken false (c :: rest) else (.broken .malformed, [])

/-- The tokens of a text of at most `length` characters. -/
def tokensWithin : Nat → List Char → List Token
  | 0, _ => []
  | _ + 1, [] => []
  | length + 1, c :: rest =>
    if isBlank c then tokensWithin length rest
    else
      let (token, rest) := token c rest
      token :: tokensWithin length rest

/-- Every token takes at least one character, so the length of the text bounds
their number. -/
def tokens (text : String) : List Token := tokensWithin text.length text.toList

end Turnstile.Text.Json
