import FormLogic.Text.Digits
import FormLogic.Value.Basic
/-!
# Reading values

`Value.read` reads one JSON text.  A number without fraction and exponent is an integer when it lies in the range of
64-bit integers, signed or unsigned; every other number is the nearest double, and `-0` is the float zero with its
sign.  Of members with the same key the last one counts.

Arrays and objects may be nested to a given number of levels.  The recursion is bounded by the length of the text,
which the public function supplies.  Each reader returns what it read and the text after it.
-/
namespace FormLogic

/-- **Why a text is not a value.** -/
inductive ReadError where
  | unexpectedEnd
  | unexpected (c : Char)
  | controlCharacter
  | escape
  | numberRange
  | nesting
  | trailing
  deriving DecidableEq

namespace ReadError

def message : ReadError → String
  | .unexpectedEnd => "the text ends too early"
  | .unexpected c => "unexpected character " ++ c.toString
  | .controlCharacter => "control character in a string"
  | .escape => "invalid escape in a string"
  | .numberRange => "number out of range"
  | .nesting => "nested too deeply"
  | .trailing => "characters after the value"

/-- The error of a text that goes on, or ends, in the wrong place. -/
def atStart : List Char → ReadError
  | [] => .unexpectedEnd
  | c :: _ => .unexpected c

end ReadError

namespace Reader

def skipBlanks (cs : List Char) : List Char := cs.dropWhile fun c => c = ' ' || c = '\n' || c = '\t' || c = '\r'

def hexDigit? (c : Char) : Option Nat :=
  if '0' ≤ c ∧ c ≤ '9' then some (c.toNat - '0'.toNat)
  else if 'a' ≤ c ∧ c ≤ 'f' then some (c.toNat - 'a'.toNat + 10)
  else if 'A' ≤ c ∧ c ≤ 'F' then some (c.toNat - 'A'.toNat + 10)
  else none

def hexCode? (a b c d : Char) : Option Nat := do
  return (((← hexDigit? a) * 16 + (← hexDigit? b)) * 16 + (← hexDigit? c)) * 16 + (← hexDigit? d)

/-- The character that a letter after a backslash stands for. -/
def escape? : Char → Option Char
  | '"' => some '"'
  | '\\' => some '\\'
  | '/' => some '/'
  | 'b' => some '\x08'
  | 'f' => some '\x0c'
  | 'n' => some '\n'
  | 'r' => some '\r'
  | 't' => some '\t'
  | _ => none

/-- **The rest of a string**, after its opening quote.  Codes of the surrogate range count only as a pair. -/
def string : List Char → Except ReadError (List Char × List Char)
  | '"' :: rest => .ok ([], rest)
  | '\\' :: 'u' :: a :: b :: c :: d :: rest =>
    match hexCode? a b c d with
    | none => .error .escape
    | some code =>
      if code < 0xd800 ∨ 0xdfff < code then do
        let (tail, rest) ← string rest
        return (Char.ofNat code :: tail, rest)
      else match rest with
        | '\\' :: 'u' :: e :: f :: g :: h :: rest =>
          match hexCode? e f g h with
          | none => .error .escape
          | some low =>
            if code < 0xdc00 ∧ 0xdc00 ≤ low ∧ low ≤ 0xdfff then do
              let (tail, rest) ← string rest
              return (Char.ofNat (0x10000 + (code - 0xd800) * 0x400 + (low - 0xdc00)) :: tail, rest)
            else .error .escape
        | _ => .error .escape
  | '\\' :: c :: rest =>
    match escape? c with
    | none => .error .escape
    | some e => do
      let (tail, rest) ← string rest
      return (e :: tail, rest)
  | c :: rest =>
    if c.toNat < 0x20 then .error .controlCharacter
    else do
      let (tail, rest) ← string rest
      return (c :: tail, rest)
  | [] => .error .unexpectedEnd

def digits (cs : List Char) : Except ReadError (List Char × List Char) :=
  match cs.takeWhile Char.isDigit with
  | [] => .error (.atStart cs)
  | found => .ok (found, cs.dropWhile Char.isDigit)

/-- The part of a number before the point: a zero stands alone. -/
def wholePart : List Char → Except ReadError (List Char × List Char)
  | '0' :: rest => .ok (['0'], rest)
  | cs => digits cs

/-- The exponent of a number, with its sign. -/
def exponent : List Char → Except ReadError (Int × List Char)
  | '-' :: rest => do
    let (found, rest) ← digits rest
    return (-(Text.natOfDigits found : Int), rest)
  | '+' :: rest => do
    let (found, rest) ← digits rest
    return ((Text.natOfDigits found : Int), rest)
  | cs => do
    let (found, rest) ← digits cs
    return ((Text.natOfDigits found : Int), rest)

/-- The number of an integer token: in the 64-bit ranges an integer, otherwise a float, as is zero with a sign. -/
def integer (negative : Bool) (n : Nat) : Option Number :=
  if negative then
    if 0 < n ∧ n ≤ Nat.pow 2 63 then some (.int (-(n : Int))) else Number.float? (.ofDecimal true n 0)
  else if n < Nat.pow 2 64 then some (.int n) else Number.float? (.ofDecimal false n 0)

/-- The digits after a point, if there is one. -/
def fraction : List Char → Except ReadError (Option (List Char) × List Char)
  | '.' :: rest => do
    let (found, rest) ← digits rest
    return (some found, rest)
  | cs => .ok (none, cs)

def scale : List Char → Except ReadError (Option Int × List Char)
  | 'e' :: rest | 'E' :: rest => do
    let (found, rest) ← exponent rest
    return (some found, rest)
  | cs => .ok (none, cs)

/-- **A number without its sign.** -/
def number (negative : Bool) (cs : List Char) : Except ReadError (Value × List Char) := do
  let (whole, rest) ← wholePart cs
  let (places, rest) ← fraction rest
  let (power, rest) ← scale rest
  let found :=
    if places.isNone ∧ power.isNone then integer negative (Text.natOfDigits whole)
    else Number.float? (.ofDecimal negative (Text.natOfDigits (whole ++ places.getD []))
      (power.getD 0 - ((places.getD []).length : Int)))
  match found with
  | some n => return (.number n, rest)
  | none => .error .numberRange

mutual
/-- **A value**, with `levels` levels of nesting left. -/
def value : (bound levels : Nat) → List Char → Except ReadError (Value × List Char)
  | 0, _, _ => .error .unexpectedEnd
  | bound + 1, levels, cs =>
    match skipBlanks cs with
    | 'n' :: 'u' :: 'l' :: 'l' :: rest => .ok (.null, rest)
    | 't' :: 'r' :: 'u' :: 'e' :: rest => .ok (.bool true, rest)
    | 'f' :: 'a' :: 'l' :: 's' :: 'e' :: rest => .ok (.bool false, rest)
    | '"' :: rest => do
      let (text, rest) ← string rest
      return (.string (String.ofList text), rest)
    | '[' :: rest =>
      if levels = 0 then .error .nesting
      else match skipBlanks rest with
        | ']' :: rest => .ok (.array [], rest)
        | rest => do
          let (found, rest) ← items bound (levels - 1) rest
          return (.array found, rest)
    | '\x7b' :: rest =>
      if levels = 0 then .error .nesting
      else match skipBlanks rest with
        | '\x7d' :: rest => .ok (.object [], rest)
        | rest => do
          let (found, rest) ← members bound (levels - 1) rest
          return (Value.ofMembers found, rest)
    | '-' :: rest => number true rest
    | cs => number false cs
/-- The items of an array, at least one, with its closing bracket. -/
def items : (bound levels : Nat) → List Char → Except ReadError (List Value × List Char)
  | 0, _, _ => .error .unexpectedEnd
  | bound + 1, levels, cs => do
    let (first, rest) ← value bound levels cs
    match skipBlanks rest with
    | ',' :: rest =>
      let (others, rest) ← items bound levels rest
      return (first :: others, rest)
    | ']' :: rest => return ([first], rest)
    | rest => .error (.atStart rest)
/-- The members of an object, at least one, with its closing brace. -/
def members : (bound levels : Nat) → List Char → Except ReadError (List (String × Value) × List Char)
  | 0, _, _ => .error .unexpectedEnd
  | bound + 1, levels, cs =>
    match skipBlanks cs with
    | '"' :: rest => do
      let (key, rest) ← string rest
      match skipBlanks rest with
      | ':' :: rest =>
        let (first, rest) ← value bound levels rest
        match skipBlanks rest with
        | ',' :: rest =>
          let (others, rest) ← members bound levels rest
          return ((String.ofList key, first) :: others, rest)
        | '\x7d' :: rest => return ([(String.ofList key, first)], rest)
        | rest => .error (.atStart rest)
      | rest => .error (.atStart rest)
    | rest => .error (.atStart rest)
end

end Reader

/-- **Reads a value**, nested to at most `levels` levels, that makes up the whole text.  Each step of the recursion
either consumes a character or is one of two such steps before the next character, whence the bound. -/
def Value.read (levels : Nat) (text : String) : Except ReadError Value := do
  let cs := text.toList
  let (v, rest) ← Reader.value (2 * cs.length + 2) levels cs
  if (Reader.skipBlanks rest).isEmpty then return v else throw .trailing

end FormLogic
