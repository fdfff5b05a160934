import Turnstile.Text.Pattern

/-!
# What a field is compared with

A truth value, a number or a pattern. The only ones of these that are no patterns
are numbers with a plus sign.
-/

namespace Turnstile.Log

set_option autoImplicit false

/-- The power of ten at the end of a number, which may be missing. -/
def isPower : List Char → Bool
  | [] => true
  | mark :: rest =>
    let digits := match rest with
      | '+' :: digits | '-' :: digits => digits
      | digits => digits
    (mark = 'e' || mark = 'E') && !digits.isEmpty && digits.all Char.isDigit

/-- A number in decimal notation, with a digit on one side of the point at least,
or a word for what is no finite number, in any case. -/
def isNumber (text : List Char) : Bool :=
  let whole := text.takeWhile Char.isDigit
  let (fraction, rest) := match text.drop whole.length with
    | '.' :: rest => (rest.takeWhile Char.isDigit, rest.dropWhile Char.isDigit)
    | rest => ([], rest)
  ["inf", "infinity", "nan"].contains (String.ofList (text.map Char.toLower))
    || !(whole.isEmpty && fraction.isEmpty) && isPower rest

/-- Whether a field can be compared with what a text stands for. -/
def isOperand (text : List Char) : Bool :=
  match text with
  | '+' :: rest => isNumber rest
  | text => Text.isPattern text

end Turnstile.Log
