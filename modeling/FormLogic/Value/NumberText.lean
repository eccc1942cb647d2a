import FormLogic.Text.Digits
import FormLogic.Value.Basic
/-!
# Numbers in texts

Where a string is taken as a number, only one plain form counts: digits, perhaps a minus sign before them, perhaps a
point and more digits after them.  `NumberText.parse?` splits such a text and `NumberText.write` puts it together
again; `NumberText.value` is the number it stands for.
-/
namespace FormLogic

structure NumberText where
  negative : Bool
  whole : List Char
  fraction : Option (List Char)
  deriving DecidableEq

namespace NumberText

/-- **The parts of a number text**; nothing for a text of any other form. -/
def parse? (s : String) : Option NumberText :=
  let (negative, body) := match s.toList with
    | '-' :: rest => (true, rest)
    | cs => (false, cs)
  let whole := body.takeWhile (· ≠ '.')
  if !Text.isDigits whole then none
  else match body.dropWhile (· ≠ '.') with
    | [] => some ⟨negative, whole, none⟩
    | _ :: fraction => if Text.isDigits fraction then some ⟨negative, whole, some fraction⟩ else none

def write (t : NumberText) : String :=
  String.ofList ((if t.negative then ['-'] else []) ++ t.whole ++
    match t.fraction with
    | none => []
    | some fraction => '.' :: fraction)

def digits (t : NumberText) : List Char := t.whole ++ t.fraction.getD []

/-- **The double nearest to the number.** -/
def toDouble (t : NumberText) : Double :=
  .ofDecimal t.negative (Text.natOfDigits t.digits) (-((t.fraction.getD []).length : Int))

def toInt (t : NumberText) : Int := if t.negative then -(Text.natOfDigits t.whole : Int) else Text.natOfDigits t.whole

/-- **The value of a number text.**  Without a fraction, and in the range of signed 64-bit integers, it is that
integer; otherwise the value of the nearest double, which is null when that is infinite. -/
def value (t : NumberText) : Value :=
  if t.fraction.isNone ∧ -(Nat.pow 2 63 : Int) ≤ t.toInt ∧ t.toInt < Nat.pow 2 63 then .ofInt t.toInt
  else .ofDouble t.toDouble

end NumberText

/-- **The value of a string taken as a number**, if it has the form of one. -/
def Value.ofNumberText? (s : String) : Option Value := (NumberText.parse? s).map NumberText.value

end FormLogic
