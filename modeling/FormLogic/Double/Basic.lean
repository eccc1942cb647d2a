/-!
# Double — binary64 numbers, held exactly

Every finite binary64 number is a whole multiple of `2 ^ -1074`, the least positive one.  A finite double is therefore
kept as a sign and a natural number of such units, and every operation on doubles computes in `Nat` or `Int` first and
rounds once at the end.  Nothing here is approximate, so that each later statement about numbers (order, exact sums,
shortest texts) is a statement about natural numbers.

The one rounding rule is `roundQuotient`: the multiple of the local `spacing` nearest to an exact quotient, a tie going
to the even multiple.
-/
namespace FormLogic

/-- **One, in units**: the number of least positive doubles that make up the number one. -/
def oneInUnits : Nat := Nat.pow 2 1074

/-- **The gap between neighbouring doubles** at a magnitude of `n` units: a double has 53 significant bits, so the gap
doubles with each further bit, and below `2 ^ 53` units it is one unit. -/
def spacing (n : Nat) : Nat := Nat.pow 2 (n.log2 - 52)

/-- **A magnitude some finite double has**: a multiple of the local gap, below `2 ^ 1024`. -/
def Representable (n : Nat) : Prop := n < Nat.pow 2 2098 ∧ n % spacing n = 0

instance (n : Nat) : Decidable (Representable n) := inferInstanceAs (Decidable (_ ∧ _))

/-- **The exact quotient `numerator / denominator`, in units, rounded to the local gap**: to the nearest multiple, a tie
to the even one. -/
def roundQuotient (numerator denominator : Nat) : Nat :=
  let gap := spacing (numerator / denominator)
  let quotient := numerator / (denominator * gap)
  let remainder := numerator % (denominator * gap)
  if 2 * remainder < denominator * gap ∨ (2 * remainder = denominator * gap ∧ quotient % 2 = 0) then quotient * gap
  else (quotient + 1) * gap

/-- **A finite binary64 number**: a sign and a magnitude in units of `2 ^ -1074`.  The two zeros are different. -/
structure FiniteDouble where
  negative : Bool
  units : Nat
  representable : Representable units
  deriving DecidableEq

/-- **A binary64 number**, with the infinities and the undefined result that arithmetic may pass through. -/
inductive Double where
  | finite (x : FiniteDouble)
  | infinite (negative : Bool)
  | undefined
  deriving DecidableEq

namespace FiniteDouble

/-- The number with its sign, in units; both zeros are 0. -/
def signedUnits (x : FiniteDouble) : Int := if x.negative then -(x.units : Int) else x.units

def isWhole (x : FiniteDouble) : Bool := x.units % oneInUnits = 0

def truncate (x : FiniteDouble) : Int :=
  if x.negative then -((x.units / oneInUnits : Nat) : Int) else ((x.units / oneInUnits : Nat) : Int)

/-- Equality of numbers, under which the two zeros are equal. -/
def same (x y : FiniteDouble) : Bool := x.signedUnits = y.signedUnits

end FiniteDouble

namespace Double

/-- **The double of a given sign and magnitude in units**; a magnitude beyond the largest double is infinite. -/
def ofUnits (negative : Bool) (n : Nat) : Double :=
  if h : Representable n then .finite ⟨negative, n, h⟩ else .infinite negative

/-- **The double nearest to a quotient of units.** -/
def ofQuotient (negative : Bool) (numerator denominator : Nat) : Double :=
  ofUnits negative (roundQuotient numerator denominator)

def ofInt (i : Int) : Double := ofQuotient (i < 0) (i.natAbs * oneInUnits) 1

/-- **The double nearest to `digits · 10 ^ exponent`**, or infinite.  The first three branches only keep the powers of
ten small: such a number lies far outside, or far below, the range of finite doubles. -/
def ofDecimal (negative : Bool) (digits : Nat) (exponent : Int) : Double :=
  if digits = 0 then ofUnits negative 0
  else if 400 < exponent then .infinite negative
  else if exponent + (digits.log2 : Int) < -1400 then ofUnits negative 0
  else if 0 ≤ exponent then ofQuotient negative (digits * Nat.pow 10 exponent.toNat * oneInUnits) 1
  else ofQuotient negative (digits * oneInUnits) (Nat.pow 10 (-exponent).toNat)

def zero : Double := ofUnits false 0

/-- **The order of doubles**: the undefined one is below, above and equal to nothing. -/
def lt : Double → Double → Bool
  | .finite x, .finite y => x.signedUnits < y.signedUnits
  | .finite _, .infinite negative => !negative
  | .infinite negative, .finite _ => negative
  | .infinite n, .infinite m => n && !m
  | _, _ => false

/-- **Equality of doubles as numbers**: the two zeros are equal, and the undefined one equals nothing. -/
def same : Double → Double → Bool
  | .finite x, .finite y => x.same y
  | .infinite n, .infinite m => n == m
  | _, _ => false

def le (x y : Double) : Bool := x.lt y || x.same y

/-- **The integer that a whole number is.** -/
def toInt? : Double → Option Int
  | .finite x => if x.isWhole then some x.truncate else none
  | _ => none

end Double

end FormLogic
