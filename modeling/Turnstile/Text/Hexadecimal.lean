/-!
# Hexadecimal digits
-/

namespace Turnstile.Text

set_option autoImplicit false

/-- Lower-case hexadecimal digits, no more than are needed. -/
def hex (number : Nat) : String := String.ofList (Nat.toDigits 16 number)

/-- The number that a digit of either case stands for. -/
def hexDigit? (c : Char) : Option Nat :=
  if '0' ≤ c ∧ c ≤ '9' then some (c.toNat - '0'.toNat)
  else if 'a' ≤ c ∧ c ≤ 'f' then some (c.toNat - 'a'.toNat + 10)
  else if 'A' ≤ c ∧ c ≤ 'F' then some (c.toNat - 'A'.toNat + 10)
  else none

end Turnstile.Text
