import Turnstile.Text.Json.Number
import Turnstile.Text.Json.Value
import Turnstile.Text.Quoted

/-!
# What a JSON text says

Reading a value as content of an expected kind. Parts are looked at from left to
right, and the first problem met is the answer, be it one of form or of content:
a value of the wrong kind is refused at its first token, and a part whose
content does not matter is only checked for its form.
-/

namespace Turnstile.Text.Json

set_option autoImplicit false

/-! ## Form alone -/

mutual

/-- The first problem in a value that is skipped. -/
def Value.flaw? : Value → Option Problem
  | .missing => some .ended
  | .broken problem => some problem
  | .number (.error _) => some .malformed
  | .text _ stop => stop
  | .list items => items.flaw?
  | .record members => members.flaw?
  | .null | .bool _ | .number (.ok _) => none

def Items.flaw? : Items → Option Problem
  | .done ending => ending
  | .next item rest => item.flaw?.or rest.flaw?

def Members.flaw? : Members → Option Problem
  | .done ending => ending
  | .next key value rest =>
    let inKey :=
      match key with
      | .text _ stop => stop
      | .missing => some .ended
      | _ => some .malformed
    inKey.or (value.flaw?.or rest.flaw?)

end

/-! ## Single values -/

/-- The refusal of a value that is not of the expected kind. -/
def Value.unfit (expected : String) (value : Value) : Problem :=
  let mismatch (found : String) := Problem.unfit s!"invalid type: {found}, expected {expected}"
  match value with
  | .missing => .ended
  | .broken problem => problem
  | .null => mismatch "null"
  | .bool value => mismatch s!"boolean `{value}`"
  | .number numeral =>
    match numeral.bind Numeral.value with
    | .ok found => mismatch found.describe
    | .error problem => problem
  | .text pieces stop =>
    match characters stop pieces with
    | .ok found => mismatch s!"string {quoted (String.ofList found)}"
    | .error problem => problem
  | .list _ => mismatch "sequence"
  | .record _ => mismatch "map"

/-- A kind of natural numbers: its name and the greatest of them. -/
structure Width where
  name : String
  greatest : Nat

def Width.size : Width := ⟨"usize", UInt64.size - 1⟩
def Width.long : Width := ⟨"u64", UInt64.size - 1⟩
def Width.short : Width := ⟨"u32", UInt32.size - 1⟩

def Value.natural (width : Width) (value : Value) : Except Problem Nat :=
  let outOfRange (number : Number) :=
    Problem.unfit s!"invalid value: {number.describe}, expected {width.name}"
  match value with
  | .number (.ok numeral) => do
    match ← numeral.value with
    | .natural found =>
      if found.toNat ≤ width.greatest then .ok found.toNat
      else .error (outOfRange (.natural found))
    | .negative found => .error (outOfRange (.negative found))
    | .real _ => .error (value.unfit width.name)
  | value => .error (value.unfit width.name)

/-- The text of a value; `expected` says what it is wanted for. -/
def Value.string (expected : String) : Value → Except Problem String
  | .text pieces stop => (characters stop pieces).map String.ofList
  | value => .error (value.unfit expected)

def Value.unit : Value → Except Problem Unit
  | .null => .ok ()
  | value => .error (value.unfit "unit")

/-! ## Records -/

/-- How a field is read: what is known so far may already say it. -/
structure FieldRule (σ : Type) where
  name : String
  isKnown : σ → Bool
  read : Value → σ → Except Problem σ

/-- How a record of known fields is read. It may be written as a record, or as a
list of the fields in order. -/
structure Shape (σ α : Type) where
  name : String
  fields : List (FieldRule σ)
  /-- The refusal of a field that is not known; without one it is skipped. -/
  unknown : Option (String → Problem)
  ofRecord : σ → Except Problem α
  /-- From a list, with the number of items that were read. -/
  ofList : Nat → σ → Except Problem α

def alternatives (names : List String) : String :=
  " or ".intercalate (names.map fun name => s!"`{name}`")

/-- Fields from a list, their number, and what is wrong after the last of them. -/
def Items.fill {σ : Type} (known : σ) (count : Nat) :
    List (FieldRule σ) → Items → Except Problem (σ × Nat × Option Problem)
  | [], .next _ _ => .ok (known, count, some .malformed)
  | [], .done ending => .ok (known, count, ending)
  | field :: fields, .next item rest => do rest.fill (← field.read item known) (count + 1) fields
  | _ :: _, .done none => .ok (known, count, none)
  | _ :: _, .done (some problem) => .error problem

def Value.key : Value → Except Problem String
  | .text pieces stop => (characters stop pieces).map String.ofList
  | .missing => .error .ended
  | _ => .error .malformed

def Members.fill {σ α : Type} (shape : Shape σ α) (known : σ) : Members → Except Problem σ
  | .done ending => ending.elim (.ok known) .error
  | .next key value rest => do
    let name ← key.key
    match shape.fields.find? (·.name = name) with
    | some field =>
      if field.isKnown known then .error (.unfit s!"duplicate field `{name}`")
      else rest.fill shape (← field.read value known)
    | none =>
      match shape.unknown with
      | some refusal => .error (refusal name)
      | none => value.flaw?.elim (rest.fill shape known) .error

def Shape.read {σ α : Type} (shape : Shape σ α) (nothing : σ) : Value → Except Problem α
  | .list items => do
    let (known, count, after) ← items.fill nothing 0 shape.fields
    let content ← shape.ofList count known
    after.elim (.ok content) .error
  | .record members => do shape.ofRecord (← members.fill shape nothing)
  | value => .error (value.unfit shape.name)

/-- A field that a record cannot do without. -/
def required {α : Type} (name : String) : Option α → Except Problem α
  | some content => .ok content
  | none => .error (.unfit s!"missing field `{name}`")

/-- A list with too few items. -/
def tooShort {α : Type} (count : Nat) (expected : String) : Except Problem α :=
  .error (.unfit s!"invalid length {count}, expected {expected}")

/-! ## Choices -/

/-- The choice that a value names. It is written as the name, or as a record with
the name as its only key and nothing as its value. -/
def Value.choice {α : Type} (choices : List (String × α)) (value : Value) : Except Problem α :=
  let named (name : String) : Except Problem α :=
    match choices.lookup name with
    | some choice => .ok choice
    | none =>
      .error (.unfit s!"unknown variant `{name}`, expected {alternatives (choices.map (·.1))}")
  match value with
  | .text pieces stop => do named (String.ofList (← characters stop pieces))
  | .record (.next key value rest) => do
    let choice ← named (← key.key)
    value.unit
    match rest with
    | .done ending => ending.elim (.ok choice) .error
    | .next _ _ _ => .error .malformed
  | .record (.done (some problem)) => .error problem
  | .missing => .error .ended
  | _ => .error .malformed

/-! ## Whole texts -/

/-- The content of a text that holds one value and nothing else. -/
def content {α : Type} (decode : Value → Except Problem α) (text : String) : Except Problem α := do
  let (value, more) := read text
  let found ← decode value
  if more then .error .malformed else .ok found

end Turnstile.Text.Json
