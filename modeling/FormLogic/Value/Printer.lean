import FormLogic.Value.Basic
/-!
# The text of values

Values as JSON text: compact for messages, indented for people.  Numbers follow `Layout.data`, so that an integer and a
float stay distinguishable and a float reads back as the same double.
-/
namespace FormLogic
namespace Value

/-- A control character as four hexadecimal digits. -/
def escapedCode (c : Char) : String :=
  let digit (k : Nat) : Char := Nat.digitChar (c.toNat / Nat.pow 16 k % 16)
  String.ofList ['\\', 'u', digit 3, digit 2, digit 1, digit 0]

/-- **A character inside quotes**: quotes, backslashes and control characters are escaped, all others stand as they
are. -/
def escaped (c : Char) : String :=
  if c = '"' then "\\\""
  else if c = '\\' then "\\\\"
  else if c = '\x08' then "\\b"
  else if c = '\x0c' then "\\f"
  else if c = '\n' then "\\n"
  else if c = '\r' then "\\r"
  else if c = '\t' then "\\t"
  else if c.toNat < 0x20 then escapedCode c
  else c.toString

def quoted (s : String) : String := "\"" ++ s.toList.foldl (fun text c => text ++ escaped c) "" ++ "\""

mutual
/-- **The text of a value, without blanks.** -/
def compact : Value → String
  | .null => "null"
  | .bool b => if b then "true" else "false"
  | .number n => n.write Layout.data
  | .string s => quoted s
  | .array items => "[" ++ compactItems items ++ "]"
  | .object members => "\x7b" ++ compactMembers members ++ "\x7d"
def compactItems : List Value → String
  | [] => ""
  | [v] => compact v
  | v :: rest => compact v ++ "," ++ compactItems rest
def compactMembers : List (String × Value) → String
  | [] => ""
  | [(k, v)] => quoted k ++ ":" ++ compact v
  | (k, v) :: rest => quoted k ++ ":" ++ compact v ++ "," ++ compactMembers rest
end

/-- A line break and the indentation of a nesting level, two blanks each. -/
def lineBreak (level : Nat) : String := "\n" ++ String.ofList (List.replicate (2 * level) ' ')

mutual
/-- The text of a value at a nesting level, one item or member a line. -/
def indentedAt (level : Nat) : Value → String
  | .array [] => "[]"
  | .array items => "[" ++ indentedItems (level + 1) items ++ lineBreak level ++ "]"
  | .object [] => "\x7b\x7d"
  | .object members => "\x7b" ++ indentedMembers (level + 1) members ++ lineBreak level ++ "\x7d"
  | .null => "null"
  | .bool b => if b then "true" else "false"
  | .number n => n.write Layout.data
  | .string s => quoted s
def indentedItems (level : Nat) : List Value → String
  | [] => ""
  | [v] => lineBreak level ++ indentedAt level v
  | v :: rest => lineBreak level ++ indentedAt level v ++ "," ++ indentedItems level rest
def indentedMembers (level : Nat) : List (String × Value) → String
  | [] => ""
  | [(k, v)] => lineBreak level ++ quoted k ++ ": " ++ indentedAt level v
  | (k, v) :: rest => lineBreak level ++ quoted k ++ ": " ++ indentedAt level v ++ "," ++ indentedMembers level rest
end

/-- **The text of a value for people**: indented by two blanks a level, empty arrays and objects on one line. -/
def indented (v : Value) : String := indentedAt 0 v

end Value
end FormLogic
