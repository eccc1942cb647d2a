/-!
# Blank space

The blank characters (Unicode's `White_Space`, 25 of them) and the trimming of a text.
-/
namespace FormLogic
namespace Text

/-- **Blank characters**, as ranges of code points. -/
def blankRows : List (Nat × Nat) :=
  [(0x9, 0xd), (0x20, 0x20), (0x85, 0x85), (0xa0, 0xa0), (0x1680, 0x1680), (0x2000, 0x200a), (0x2028, 0x2029),
   (0x202f, 0x202f), (0x205f, 0x205f), (0x3000, 0x3000)]

def isBlank (c : Char) : Bool := blankRows.any fun row => row.1 ≤ c.toNat && c.toNat ≤ row.2

/-- **A text without the blanks at its two ends.** -/
def trim (cs : List Char) : List Char := ((cs.dropWhile isBlank).reverse.dropWhile isBlank).reverse

end Text
end FormLogic
