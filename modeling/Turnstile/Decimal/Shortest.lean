/-!
# The shortest decimal of a float

A float stands for all reals that round to it. Among the decimals in that
interval there are some with the fewest digits, and of these the nearest to the
float is its shortest decimal. It is found on the decimal grids of one, two, …
seventeen digits, coarsest first: if a point of a grid lies in the interval, so
does one of the two neighbours of the float on that grid.
-/

namespace Turnstile.Decimal

set_option autoImplicit false

/-- A positive float `mantissa * 2 ^ exponent`. -/
structure Binary where
  mantissa : Nat
  exponent : Int
  deriving DecidableEq, Repr

def leastExponent : Int := -1074

/-- The first bit of a mantissa of full length, which is not among the bits of the float. -/
def hidden : Nat := 1 <<< 52

/-- The size of a finite float, by the fields of its bits. -/
def Binary.ofBits (bits : UInt64) : Binary :=
  let fraction := bits.toNat % hidden
  let biased := bits.toNat / hidden % 2048
  if biased = 0 then ⟨fraction, leastExponent⟩
  else ⟨fraction + hidden, Int.ofNat biased - 1 + leastExponent⟩

/-- A positive decimal `digits * 10 ^ exponent`. -/
structure Point where
  digits : Nat
  exponent : Int
  deriving DecidableEq, Repr

/-- Numbers are compared as fractions over the common denominator
`4 * 2 ^ (-exponent)`, or 4 if the exponent is not negative. -/
def denominator (x : Binary) : Nat := 4 <<< (-x.exponent).toNat

/-- A multiple of a quarter of the float's last place, over the denominator. -/
def quarters (x : Binary) (count : Nat) : Nat := count <<< x.exponent.toNat

def value (x : Binary) : Nat := quarters x (4 * x.mantissa)

/-- The ends of the interval that rounds to the float: half a place away, and
below a power of two a quarter, since the floats are closer there. -/
def low (x : Binary) : Nat :=
  let gap := if x.mantissa = hidden ∧ leastExponent < x.exponent then 1 else 2
  quarters x (4 * x.mantissa - gap)

def high (x : Binary) : Nat := quarters x (4 * x.mantissa + 2)

/-- The ends belong to the interval of a float with an even mantissa. -/
def inside (x : Binary) (numerator scale : Nat) : Bool :=
  if x.mantissa % 2 = 0 then low x * scale ≤ numerator && numerator ≤ high x * scale
  else low x * scale < numerator && numerator < high x * scale

/-- The exponent of the first digit: the greatest `e` with `10 ^ e` not above the
float, searched downwards from the greatest of all floats. -/
def leading (x : Binary) : Int :=
  let fits (e : Int) : Bool :=
    Nat.pow 10 e.toNat * denominator x ≤ value x * Nat.pow 10 (-e).toNat
  let steps := (List.range 633).find? fun step => fits (308 - Int.ofNat step)
  308 - Int.ofNat (steps.getD 632)

/-- The neighbours of the float on the grid of multiples of `10 ^ e`, if they lie
in its interval: the nearer one, and of two equally near the even one. -/
def onGrid (x : Binary) (e : Int) : Option Point :=
  let up := Nat.pow 10 e.toNat
  let down := Nat.pow 10 (-e).toNat
  -- A point `k` of the grid is `k * up * denominator` over `denominator * down`.
  let step := up * denominator x
  let target := value x * down
  let below := target / step
  let hits := [below, below + 1].filter fun k => 0 < k && inside x (k * step) down
  match hits with
  | [] => none
  | [k] => some ⟨k, e⟩
  | k :: _ =>
    let rest := target - k * step
    if 2 * rest < step ∨ (2 * rest = step ∧ k % 2 = 0) then some ⟨k, e⟩ else some ⟨k + 1, e⟩

/-- The shortest decimal of a positive float. -/
def shortest (x : Binary) : Point :=
  let first := leading x
  let found := (List.range 17).findSome? fun more => onGrid x (first - Int.ofNat more)
  found.getD ⟨value x, 0⟩

/-- The digits without zeros at the end, and the exponent of the first digit. -/
def normalized (point : Point) : List Char × Int :=
  let digits := Nat.toDigits 10 point.digits
  ((digits.reverse.dropWhile (· = '0')).reverse,
    point.exponent + Int.ofNat digits.length - 1)

/-- A decimal is written with a point and at least one digit after it while its
first digit stands for `10 ^ -5` to `10 ^ 15`, and otherwise as a number below
ten with a signed exponent. -/
def write (digits : List Char) (exponent : Int) : String :=
  let count := Int.ofNat digits.length
  if -5 ≤ exponent ∧ exponent < 0 then
    "0." ++ String.ofList (List.replicate (-exponent - 1).toNat '0' ++ digits)
  else if 0 ≤ exponent ∧ exponent ≤ 15 then
    let whole := digits.take (exponent + 1).toNat
    let zeros := List.replicate (exponent + 1 - count).toNat '0'
    let part := digits.drop (exponent + 1).toNat
    String.ofList (whole ++ zeros) ++ "." ++ (if part.isEmpty then "0" else String.ofList part)
  else
    let part := digits.drop 1
    String.ofList (digits.take 1) ++ (if part.isEmpty then "" else "." ++ String.ofList part)
      ++ (if exponent < 0 then "e-" else "e+") ++ toString exponent.natAbs

def describe (x : Float) : String :=
  let bits := x.toBits
  let sign := if bits.toNat / (UInt64.size / 2) = 1 then "-" else ""
  let size := Binary.ofBits (UInt64.ofNat (bits.toNat % (UInt64.size / 2)))
  if size.mantissa = 0 then sign ++ "0.0"
  else
    let (digits, exponent) := normalized (shortest size)
    sign ++ write digits exponent

end Turnstile.Decimal
