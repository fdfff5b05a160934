import Turnstile.Decimal.Shortest
import Turnstile.Text.Json.Token

/-!
# The value of a number

A number without point and exponent is an integer if it fits into 64 bits. Any
other number is a float: as many digits as fit into 64 bits are taken as an
integer, which is scaled by a power of ten in floating point. A float beyond the
greatest one is no value.
-/

namespace Turnstile.Text.Json

set_option autoImplicit false

inductive Number where
  | natural (value : UInt64)
  /-- A negative integer, not below `-2 ^ 63`. -/
  | negative (value : Int)
  | real (value : Float)

namespace Number

def describe : Number → String
  | natural value => s!"integer `{value}`"
  | negative value => s!"integer `{value}`"
  | real value => "floating point `" ++ Decimal.describe value ++ "`"

end Number

def digitValue (c : Char) : Nat := c.toNat - '0'.toNat

/-- Digits that still fit into 64 bits are appended to the number `value`; what
comes back is the number and how many digits did not fit. -/
def appendDigits : Nat → List Char → Nat × Nat
  | value, [] => (value, 0)
  | value, c :: rest =>
    let longer := value * 10 + digitValue c
    if longer < UInt64.size then appendDigits longer rest else (value, (c :: rest).length)

/-- `number * 10 ^ power` in floating point: one multiplication or division, but
divisions by the greatest power of ten come first as long as the power is below
all of them. -/
def scale : Nat → Float → Int → Except Problem Float
  | steps, number, power =>
    if power.natAbs ≤ 308 then
      let factor := Float.ofScientific 1 false power.natAbs
      if power < 0 then .ok (number / factor)
      else if (number * factor).isInf then .error .malformed
      else .ok (number * factor)
    else if number == 0 then .ok number
    else if 0 ≤ power then .error .malformed
    else
      match steps with
      | 0 => .ok 0
      | steps + 1 => scale steps (number / Float.ofScientific 1 false 308) (power + 308)

def greatestPower : Nat := UInt32.size / 2 - 1

/-- Three divisions by the greatest power of ten leave nothing of any integer. -/
def scaleSteps : Nat := 3

/-- The float of a number's parts: the digits that fit into 64 bits count, and of
the digits after the point none does after the first that does not fit. -/
def Numeral.real (numeral : Numeral) : Except Problem Float := do
  let (whole, left) := appendDigits 0 numeral.whole
  let fraction := numeral.fraction.getD []
  let (significand, ignored) := appendDigits whole fraction
  let shift := Int.ofNat left - Int.ofNat (fraction.length - ignored)
  let size ← match numeral.power with
    | none => scale scaleSteps (UInt64.ofNat significand).toFloat shift
    | some (negative, digits) =>
      let power := digits.foldl (fun power c => power * 10 + digitValue c) 0
      if greatestPower < power then
        if significand ≠ 0 ∧ ¬ negative then .error .malformed else .ok 0
      else
        scale scaleSteps (UInt64.ofNat significand).toFloat
          (if negative then shift - Int.ofNat power else shift + Int.ofNat power)
  .ok (if numeral.negative then -size else size)

def Numeral.value (numeral : Numeral) : Except Problem Number :=
  let (whole, left) := appendDigits 0 numeral.whole
  if numeral.fraction.isSome ∨ numeral.power.isSome ∨ left ≠ 0 then numeral.real.map .real
  else if ¬ numeral.negative then .ok (.natural (UInt64.ofNat whole))
  else if 0 < whole ∧ whole ≤ UInt64.size / 2 then .ok (.negative (-Int.ofNat whole))
  else numeral.real.map .real

end Turnstile.Text.Json
