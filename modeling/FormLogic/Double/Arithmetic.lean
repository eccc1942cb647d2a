import FormLogic.Double.Basic
/-!
# Arithmetic of doubles

Sum, product, quotient and rounding to a whole number.  Each computes exactly on units and rounds once, so a result that
is itself a double is exact.  The infinities and the undefined result follow the usual rules; finite operands lead to
them only where a result is too large or a divisor is zero.
-/
namespace FormLogic
namespace Double

def neg : Double → Double
  | .finite x => .finite ⟨!x.negative, x.units, x.representable⟩
  | .infinite negative => .infinite !negative
  | .undefined => .undefined

/-- **The rounded sum.**  An exact zero is negative only when both terms are. -/
def add : Double → Double → Double
  | .finite x, .finite y =>
    let sum := x.signedUnits + y.signedUnits
    if sum = 0 then ofUnits (x.negative && y.negative) 0 else ofQuotient (sum < 0) sum.natAbs 1
  | .infinite n, .infinite m => if n = m then .infinite n else .undefined
  | .infinite n, .finite _ => .infinite n
  | .finite _, .infinite m => .infinite m
  | _, _ => .undefined

def sub (x y : Double) : Double := x.add y.neg

/-- The product of a finite number with an infinite one: undefined for zero, else infinite. -/
private def scaleInfinite (x : FiniteDouble) (negative : Bool) : Double :=
  if x.units = 0 then .undefined else .infinite (x.negative != negative)

def mul : Double → Double → Double
  | .finite x, .finite y => ofQuotient (x.negative != y.negative) (x.units * y.units) oneInUnits
  | .infinite n, .infinite m => .infinite (n != m)
  | .infinite n, .finite y => scaleInfinite y n
  | .finite x, .infinite m => scaleInfinite x m
  | _, _ => .undefined

/-- **The rounded quotient.**  Zero divided by zero is undefined, any other number divided by zero is infinite. -/
def div : Double → Double → Double
  | .finite x, .finite y =>
    if y.units = 0 then
      if x.units = 0 then .undefined else .infinite (x.negative != y.negative)
    else ofQuotient (x.negative != y.negative) (x.units * oneInUnits) y.units
  | .infinite n, .finite y => .infinite (n != y.negative)
  | .finite x, .infinite m => ofUnits (x.negative != m) 0
  | _, _ => .undefined

/-- **The nearest whole number**, halves going away from zero.  It keeps the sign of its argument. -/
def roundWhole : Double → Double
  | .finite x => ofUnits x.negative ((2 * x.units + oneInUnits) / (2 * oneInUnits) * oneInUnits)
  | x => x

def sum (xs : List Double) : Double := xs.foldl add zero

def product (xs : List Double) : Double := xs.foldl mul (ofInt 1)

end Double
end FormLogic
