/-!
# Digits

Texts made of the digits 0 to 9, and the numbers they write.
-/
namespace FormLogic
namespace Text

/-- Whether a text is made of digits, at least one. -/
def isDigits (cs : List Char) : Bool := !cs.isEmpty && cs.all Char.isDigit

def natOfDigits (digits : List Char) : Nat := digits.foldl (fun n c => 10 * n + (c.toNat - '0'.toNat)) 0

end Text
end FormLogic
