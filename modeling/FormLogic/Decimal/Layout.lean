import FormLogic.Decimal.Shortest
/-!
# Layouts of number texts

The same shortest digits are written in three ways: in data, in text that an expression makes of a number, and inside
messages.  The three differ only in a few decisions, collected in one record, `Layout`; the layout itself is one
function, `Layout.write`.
-/
namespace FormLogic

/-- **The decisions of a number text**: between which powers of the first digit it is written without an exponent,
whether a whole number keeps a fraction `.0`, whether zero keeps its sign, and which of two equally near shortest
decimals is taken. -/
structure Layout where
  lowest : Int
  highest : Int
  wholeFraction : Bool
  signedZero : Bool
  tie : Tie
  deriving DecidableEq

namespace Layout

/-- **Numbers in data**: positional from `0.00001` to below `10 ^ 16`, always with a fraction. -/
def data : Layout := ⟨-5, 15, true, true, .even⟩

/-- **Numbers as text**: positional from `0.000001` to below `10 ^ 21`, a whole number without a fraction. -/
def plain : Layout := ⟨-6, 20, false, false, .up⟩

/-- **Numbers in messages**: never with an exponent; no double has more than 324 places before or after the point. -/
def message : Layout := ⟨-400, 400, false, true, .up⟩

def zeros (count : Nat) : List Char := List.replicate count '0'

/-- A decimal written without an exponent.  `exponent + 1` digits stand before the point. -/
def writePositional (layout : Layout) (d : Decimal) : List Char :=
  let places := d.exponent + 1
  if (d.digits.length : Int) ≤ places then
    d.digits ++ zeros (places.toNat - d.digits.length) ++ (if layout.wholeFraction then ['.', '0'] else [])
  else if 0 < places then d.digits.take places.toNat ++ '.' :: d.digits.drop places.toNat
  else '0' :: '.' :: zeros (-places).toNat ++ d.digits

/-- A decimal written with an exponent: one digit before the point, and the sign of the exponent always. -/
def writeScientific (d : Decimal) : List Char :=
  let fraction := d.digits.drop 1
  d.digits.take 1 ++ (if fraction.isEmpty then [] else '.' :: fraction) ++
    'e' :: (if d.exponent < 0 then '-' else '+') :: Nat.toDigits 10 d.exponent.natAbs

def write (layout : Layout) (d : Decimal) : List Char :=
  if layout.lowest ≤ d.exponent ∧ d.exponent ≤ layout.highest then layout.writePositional d else writeScientific d

def writeFinite (layout : Layout) (x : FiniteDouble) : String :=
  let body := if x.units = 0 then (if layout.wholeFraction then ['0', '.', '0'] else ['0'])
    else layout.write (shortestDecimal layout.tie x.units)
  let signed := x.negative && (x.units != 0 || layout.signedZero)
  String.ofList (if signed then '-' :: body else body)

def writeDouble (layout : Layout) : Double → String
  | .finite x => layout.writeFinite x
  | .infinite negative => if negative then "-inf" else "inf"
  | .undefined => "NaN"

end Layout
end FormLogic
