import FormLogic.Double.Arithmetic
import FormLogic.Decimal.Layout
/-!
# Numbers as data

A number in data is an integer or a finite double, and which of the two it is belongs to the value: `1` and `1.0` are
different data.  Arithmetic happens on doubles; `Number.ofDouble?` folds a whole result back into an integer while that
is certain to be exact.
-/
namespace FormLogic

inductive Number where
  | int (i : Int)
  | float (x : FiniteDouble)
  deriving DecidableEq

namespace Number

def toDouble : Number → Double
  | .int i => .ofInt i
  | .float x => .finite x

/-- **Equality of data**: an integer never equals a float, and the two zeros among the floats are equal. -/
def same : Number → Number → Bool
  | .int i, .int j => i == j
  | .float x, .float y => x.same y
  | _, _ => false

def float? : Double → Option Number
  | .finite x => some (.float x)
  | _ => none

/-- **The number that a double is**: a whole one of magnitude below `2 ^ 53` as an integer, any other finite one as a
float.  The infinities and the undefined result are no numbers. -/
def ofDouble? : Double → Option Number
  | .finite x =>
    if x.isWhole ∧ x.units < Nat.pow 2 53 * oneInUnits then some (.int x.truncate) else some (.float x)
  | _ => none

def write (layout : Layout) : Number → String
  | .int i => toString i
  | .float x => layout.writeFinite x

/-- **The text an expression makes of a number.** -/
def text (n : Number) : String := n.write Layout.plain

end Number
end FormLogic
