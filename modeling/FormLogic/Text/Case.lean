import FormLogic.Text.CaseTables
/-!
# Letter case

Upper and lower case of characters and of texts, with the full mappings: a character may become several (`ß` becomes
`SS`), and a capital sigma at the end of a word becomes `ς`.  The last rule looks at neighbours, so it belongs to the
lower case of a text and not to that of a character.

Comparisons that ignore case are a different matter: they concern ASCII letters alone (`sameIgnoringCase`).
-/
namespace FormLogic
namespace Text

/-- Whether a row of a mapping table covers a code point. -/
def rowCovers (code : Nat) (row : Nat × Nat × Nat × Int) : Bool :=
  row.1 ≤ code && code ≤ row.2.1 && (code - row.1) % row.2.2.1 == 0

/-- The character a mapping table gives, or the character itself. -/
def mapChar (rows : List (Nat × Nat × Nat × Int)) (c : Char) : Char :=
  match rows.find? (rowCovers c.toNat) with
  | some row => Char.ofNat ((c.toNat : Int) + row.2.2.2).toNat
  | none => c

/-- Whether a class table holds a character. -/
def inRows (rows : List (Nat × Nat)) (c : Char) : Bool :=
  rows.any fun row => row.1 ≤ c.toNat && c.toNat ≤ row.2

/-- **The lower case of a character.**  Only the capital dotted `İ` becomes two characters. -/
def lowerChar (c : Char) : List Char :=
  if c = 'İ' then ['i', '\u0307'] else [mapChar lowerRows c]

def upperChar (c : Char) : List Char :=
  match upperSequences.find? (fun row => row.1 == c.toNat) with
  | some row => row.2.map Char.ofNat
  | none => [mapChar upperRows c]

/-- Whether the first character that is not passed over has a letter case. -/
def nextIsCased (cs : List Char) : Bool :=
  match cs.dropWhile (inRows caseIgnorableRows) with
  | c :: _ => inRows casedRows c
  | [] => false

/-- The lower case of a text, given what stands before it, nearest character first. -/
def lowerAfter : List Char → List Char → List Char
  | _, [] => []
  | before, c :: rest =>
    let lowered := if c = 'Σ' then [if nextIsCased before && !nextIsCased rest then 'ς' else 'σ'] else lowerChar c
    lowered ++ lowerAfter (c :: before) rest

/-- **The lower case of a text**: a capital sigma that ends a word becomes `ς`. -/
def lower (s : String) : String := String.ofList (lowerAfter [] s.toList)

def upper (s : String) : String := String.ofList (s.toList.flatMap upperChar)

/-- **A text with its first character mapped**, on its own and without regard to the rest. -/
def mapFirst (f : Char → List Char) (s : String) : String :=
  match s.toList with
  | [] => ""
  | c :: rest => String.ofList (f c ++ rest)

/-- **Equality up to the case of ASCII letters.** -/
def sameIgnoringCase (s t : String) : Bool := s.toList.map Char.toLower = t.toList.map Char.toLower

end Text
end FormLogic
