import FormLogic.Operator.Access
/-!
# Slices in 64-bit words

The ends of a slice are words: the number of characters is one, the start is cut to one with a sign and the length to
one without.  A sum that is too great for a word is the greatest there is, and one that is too small the least.  A
change between words with and without a sign keeps the bits, so that it wraps where a number has no place among the
others.
-/
namespace FormLogic

namespace Double

/-- Whether a double has a fraction.  The doubles that are not finite count as having one. -/
def hasFraction (x : Double) : Bool := x.toInt?.isNone

/-- **The signed word that a double is cut to**, towards zero and into the range of such words. -/
def toInt64 : Double → Int64
  | .finite x => .ofIntClamp x.truncate
  | .infinite negative => if negative then .minValue else .maxValue
  | .undefined => 0

/-- **The word that a double is cut to**, towards zero and into the range of words. -/
def toUInt64 : Double → UInt64
  | .finite x => .ofNatClamp x.truncate.toNat
  | .infinite negative => if negative then 0 else .ofNatClamp UInt64.size
  | .undefined => 0

/-- The lesser of two doubles; the undefined one gives way. -/
def lesser : Double → Double → Double
  | .undefined, y => y
  | x, y => if y.lt x then y else x

end Double

namespace Word64

/-- The sum of two words, or the greatest word. -/
def add (a b : UInt64) : UInt64 := .ofNatClamp (a.toNat + b.toNat)

/-- The sum of two signed words, or the signed word nearest to it. -/
def addSigned (a b : Int64) : Int64 := .ofIntClamp (a.toInt + b.toInt)

/-- The position at which a slice of a text of `total` characters starts, as a signed word; a negative start counts from
the end. -/
def signedStart (total : UInt64) (start : Double) : Int64 :=
  if start.toInt64 < 0 then max (addSigned total.toInt64 start.toInt64) 0 else min start.toInt64 total.toInt64

def sliceStart (total : UInt64) (start : Double) : UInt64 := (signedStart total start).toUInt64

/-- The position before which it ends. -/
def sliceEnd (total first : UInt64) : Option Double → UInt64
  | none => total
  | some length => min (add first (length.lesser (.ofInt total.toNat)).toUInt64) total

/-- **The characters of a text from a position on**, by the two ends of their range. -/
def slice (s : String) (start : Double) (length : Option Double) : Except Fault String := do
  let total := UInt64.ofNat s.toList.length
  let first := sliceStart total start
  let last := sliceEnd total first length
  return String.ofList (← Access.range s.toList first.toNat last.toNat)

/-- **A slice of the first argument**, by its start and its length. -/
def stringSlice (args : List Value) : Guarded Value :=
  match Arguments.text? args 0 with
  | none => return .null
  | some s =>
    let start := (Arguments.number? args 1).getD .zero
    let length := Arguments.number? args 2
    if start.hasFraction || length.any fun x => x.lt .zero || x.hasFraction then
      throw (.invalidArgument "stringSlice" "start must be a whole number and length a non-negative whole number")
    else do return .string (← slice s start length)

end Word64
end FormLogic
