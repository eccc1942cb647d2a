import FormLogic.Double.Basic
/-!
# The shortest decimal of a double

Many decimals read back as the same double.  `shortestDecimal` takes, of those with the fewest digits, the one
nearest to the double.  It looks for it on one decimal grid after the other, from one digit to seventeen, and on each
grid tests only the two grid points around the exact value: if any point of the grid reads back, one of these does.

A decimal here is a string of digits with the power of ten of its first digit, `d₁.d₂d₃… · 10 ^ exponent`; how it is
laid out as text is the business of `FormLogic.Decimal.Layout`.
-/
namespace FormLogic

/-- **A positive decimal** `d₁.d₂…dₖ · 10 ^ exponent`, its digits written as characters. -/
structure Decimal where
  digits : List Char
  exponent : Int
  deriving DecidableEq, Repr

/-- Which of two equally near decimals is taken. -/
inductive Tie where
  | up
  | even
  deriving DecidableEq

namespace Decimal

def dropZeros (digits : List Char) : List Char := (digits.reverse.dropWhile (· = '0')).reverse

/-- **The decimal with the value `coefficient · 10 ^ power`**, without zeros at its end. -/
def ofCoefficient (coefficient : Nat) (power : Int) : Decimal :=
  let digits := Nat.toDigits 10 coefficient
  ⟨dropZeros digits, power + (digits.length : Int) - 1⟩

end Decimal

/-- The quotient `numerator / denominator` that `coefficient · 10 ^ power` is, measured in units. -/
def decimalQuotient (coefficient : Nat) (power : Int) : Nat × Nat :=
  if 0 ≤ power then (coefficient * Nat.pow 10 power.toNat * oneInUnits, 1)
  else (coefficient * oneInUnits, Nat.pow 10 (-power).toNat)

/-- Whether `coefficient · 10 ^ power` reads back as the double of magnitude `n`. -/
def readsBack (n coefficient : Nat) (power : Int) : Bool :=
  let quotient := decimalQuotient coefficient power
  roundQuotient quotient.1 quotient.2 = n

/-- The power of ten of the first digit of a magnitude.  The least double is near `5 · 10 ^ -324`, so scaling by
`10 ^ 330` leaves a whole number with enough digits to count. -/
def leadingPower (n : Nat) : Int := ((Nat.toDigits 10 (n * Nat.pow 10 330 / oneInUnits)).length : Int) - 331

/-- **The two grid points around a magnitude**: its quotient by `10 ^ power`, as a whole part, a remainder and the
divisor. -/
def gridPoint (n : Nat) (power : Int) : Nat × Nat × Nat :=
  if 0 ≤ power then
    let divisor := oneInUnits * Nat.pow 10 power.toNat
    (n / divisor, n % divisor, divisor)
  else
    let scaled := n * Nat.pow 10 (-power).toNat
    (scaled / oneInUnits, scaled % oneInUnits, oneInUnits)

/-- Whether the upper of the two grid points is the nearer one. -/
def upperIsNearer (tie : Tie) (point : Nat × Nat × Nat) : Bool :=
  let (lower, remainder, divisor) := point
  divisor < 2 * remainder || (2 * remainder = divisor && (tie = .up || lower % 2 = 1))

/-- The coefficient that reads back of `lower` and the next one, the nearer one where both do. -/
def nearestReadBack (upperNearer : Bool) (lower : Nat) : Bool → Bool → Option Nat
  | true, true => some (if upperNearer then lower + 1 else lower)
  | true, false => some lower
  | false, true => some (lower + 1)
  | false, false => none

/-- **The nearest decimal of a given number of digits that reads back**, if one does. -/
def shortestWith (tie : Tie) (n digits : Nat) : Option Decimal :=
  let power := leadingPower n - (digits : Int) + 1
  let point := gridPoint n power
  let lower := point.1
  (nearestReadBack (upperIsNearer tie point) lower (readsBack n lower power) (readsBack n (lower + 1) power)).map
    fun coefficient => Decimal.ofCoefficient coefficient power

/-- **The shortest decimal of a magnitude.**  Seventeen digits always suffice; the last branch keeps the definition
total. -/
def shortestDecimal (tie : Tie) (n : Nat) : Decimal :=
  ((List.range 17).findSome? fun k => shortestWith tie n (k + 1)).getD
    (Decimal.ofCoefficient (gridPoint n (leadingPower n - 16)).1 (leadingPower n - 16))

end FormLogic
