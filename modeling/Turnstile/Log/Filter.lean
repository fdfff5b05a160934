import Turnstile.Fault
import Turnstile.Log.Operand
import Turnstile.Log.Record
import Turnstile.Text.Alphanumeric
import Turnstile.Text.Blank

/-!
# Which records are kept

A filter is written as directives with commas between them: a level, a target,
or `target=level`. The target of a directive stands for all targets that begin
with it. Of the directives that apply to a record the most specific decides, the
one with the longest target; where none applies, nothing is kept.

A directive may also name the span it is meant for, and fields that a record
must have: `target[span{field}]=level`. Records outside all spans are kept by no
directive that names a span or the value of a field.
-/

namespace Turnstile.Log

set_option autoImplicit false

/-- How much is kept: everything up to this verbosity, nothing at all for 0. -/
abbrev Threshold := Nat

structure Directive where
  target : Option String
  /-- Fields that a record must have. -/
  fields : List String
  threshold : Threshold
  /-- The directive is meant for what happens in certain spans only. -/
  spansOnly : Bool
  deriving DecidableEq, Repr

abbrev Filter := List Directive

/-! ## Reading -/

inductive Unread where
  | malformed
  | fault (fault : Fault)
  deriving DecidableEq, Repr

/-- The number in a text of decimal digits, with or without a plus sign. -/
def decimal? (text : List Char) : Option Nat :=
  let digits := match text with
    | '+' :: rest => rest
    | text => text
  if digits.isEmpty || !digits.all Char.isDigit then none
  else some (digits.foldl (fun number c => number * 10 + (c.toNat - '0'.toNat)) 0)

/-- A threshold is a number up to 5, or the name of a level or `off` in any
case. -/
def threshold? (text : List Char) : Option Threshold :=
  match decimal? text with
  | some number => if number ≤ 5 then some number else none
  | none =>
    let levels : List (String × Threshold) :=
      [("off", 0), ("error", 1), ("warn", 2), ("info", 3), ("debug", 4), ("trace", 5)]
    levels.lookup (String.ofList (text.map Char.toLower))

/-- Everything is kept unless a directive says otherwise. -/
def everything : Threshold := Level.trace.verbosity

def part (whole : List Char) (start stop : Nat) : Except Unread (List Char) :=
  (Text.slice whole start stop).mapError fun split => .fault (.cutInside split)

def orMalformed {α : Type} (found : Option α) : Except Unread α :=
  match found with
  | some value => .ok value
  | none => .error .malformed

/-- What stands after the equals sign, from position `start` on. -/
def thresholdFrom (whole : List Char) (start : Nat) : Except Unread Threshold := do
  let text ← part whole start (Text.byteCount whole)
  if text.isEmpty then .ok everything else orMalformed (threshold? text)

/-- The end of a directive, from position `start` on: nothing, or an equals sign
and a threshold. -/
def ending (whole seen : List Char) (start : Nat) : Except Unread Threshold :=
  match seen with
  | [] => .ok everything
  | '=' :: _ => thresholdFrom whole (start + 1)
  | _ :: _ => .error .malformed

/-- The fields between braces, one at most since a comma ends the directive:
its name, and whether a value is asked for. That stands between the first equals
sign and the second. -/
def field? (text : List Char) : Option (String × Bool) :=
  let name := text.takeWhile (· ≠ '=')
  match text.drop name.length with
  | [] => if name.isEmpty then none else some (String.ofList name, false)
  | _ :: rest =>
    if isOperand (rest.takeWhile (· ≠ '=')) then some (String.ofList name, true) else none

/-- A part in square brackets, from position `start` on, and what follows it. -/
def scope (whole seen : List Char) (start : Nat) (target : Option String) :
    Except Unread Directive := do
  let inner := seen.takeWhile fun c => c ≠ ']' && c ≠ '\x7b'
  let stop := start + Text.byteCount inner
  match seen.drop inner.length with
  | ']' :: rest =>
    let _ ← part whole start stop
    .ok ⟨target, [], ← ending whole rest (stop + 1), true⟩
  | '\x7b' :: rest =>
    let span ← part whole start stop
    let inner := rest.takeWhile (· ≠ '\x7d')
    let last := stop + 1 + Text.byteCount inner
    match rest.drop inner.length with
    | '\x7d' :: rest =>
      let (field, hasValue) ← orMalformed (field? (← part whole (stop + 1) last))
      match rest with
      | ']' :: rest =>
        .ok ⟨target, [field], ← ending whole rest (last + 2), !span.isEmpty || hasValue⟩
      | _ => .error .malformed
    | _ => .error .malformed
  | _ => .error .malformed

def beginsTarget (c : Char) : Bool :=
  c = '-' || c = ':' || c = '_' || Text.Alphanumeric.covers c.toNat

/-- A directive. Blanks at its ends are passed over when its form is looked at,
but the positions found there are those of parts of the text with the blanks. -/
def Directive.ofText (whole : List Char) : Except Unread Directive := do
  let seen := Text.trimmed whole
  match seen with
  | [] => .error .malformed
  | '[' :: rest => scope whole rest 1 none
  | c :: _ =>
    if beginsTarget c then
      let word := seen.takeWhile fun c => c ≠ '=' && c ≠ '['
      let stop := Text.byteCount word
      match seen.drop word.length with
      | [] =>
        match threshold? whole with
        | some threshold => .ok ⟨none, [], threshold, false⟩
        | none => .ok ⟨some (String.ofList whole), [], everything, false⟩
      | '=' :: _ =>
        let target := String.ofList (← part whole 0 stop)
        .ok ⟨some target, [], ← thresholdFrom whole (stop + 1), false⟩
      | _ :: rest => scope whole rest (stop + 1) (some (String.ofList (← part whole 0 stop)))
    else .error .malformed

/-- A filter. Where nothing stands before, between or after the commas there is
no directive; a text without any keeps nothing. -/
def Filter.ofText (text : String) : Except Unread Filter :=
  ((text.splitOn ",").filter fun piece => !piece.isEmpty).mapM fun piece =>
    Directive.ofText piece.toList

/-! ## Deciding -/

/-- The level that is kept where no filter is given, or none that can be read. -/
def Filter.standard : Filter := [⟨none, [], Level.info.verbosity, false⟩]

def Directive.applies (directive : Directive) (record : Record) : Bool :=
  !directive.spansOnly
    && (directive.target.all fun target => target.isPrefixOf record.target)
    && directive.fields.all fun field => ("message" :: record.fields.map (·.1)).contains field

/-- A directive is more specific the longer its target is, none being shorter than
any, and then the more fields it names; between others the names decide, and the
later one of two for the same records. -/
def Directive.outranks (later earlier : Directive) : Bool :=
  let length (directive : Directive) : Nat :=
    directive.target.elim 0 fun target => target.utf8ByteSize + 1
  if length later ≠ length earlier then length earlier < length later
  else if later.fields.length ≠ earlier.fields.length then
    earlier.fields.length < later.fields.length
  else List.le earlier.fields later.fields

/-- The directive that decides about a record. -/
def Filter.decisive? (filter : Filter) (record : Record) : Option Directive :=
  (filter.filter (·.applies record)).foldl (fun best directive =>
    match best with
    | none => some directive
    | some other => some (if directive.outranks other then directive else other)) none

def Filter.keeps (filter : Filter) (record : Record) : Bool :=
  (filter.decisive? record).any fun directive => record.level.verbosity ≤ directive.threshold

end Turnstile.Log
