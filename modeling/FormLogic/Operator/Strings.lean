import FormLogic.Operator.Arguments
import FormLogic.Text.Blank
import FormLogic.Text.Case
import FormLogic.Text.Search
/-!
# Strings

Operators on strings count in characters.  An absent string makes a test false and every other result null, except for
the length, which is 0, and for `concat`, which passes over what is no string.
-/
namespace FormLogic
namespace Strings

/-- **All string arguments, one after the other.** -/
def concat (args : List Value) : Value := .string (String.join (args.filterMap Value.string?))

/-- The first argument, mapped. -/
def map (f : String → String) (args : List Value) : Value :=
  match Arguments.text? args 0 with
  | some s => .string (f s)
  | none => .null

def length (args : List Value) : Value := .ofNat ((Arguments.text? args 0).elim 0 String.length)

/-- A test of the first two arguments, by their characters. -/
def test (holds : List Char → List Char → Bool) (args : List Value) : Bool :=
  match Arguments.text? args 0, Arguments.text? args 1 with
  | some s, some t => holds s.toList t.toList
  | _, _ => false

def contains : List Value → Bool := test fun s t => Text.occursIn t s

def startsWith : List Value → Bool := test fun s t => t.isPrefixOf s

def endsWith : List Value → Bool := test fun s t => t.isSuffixOf s

/-- **Whether the second argument is one of the comma-separated entries of the first**, blanks around an entry
aside. -/
def commaContains : List Value → Bool := test fun s t => (Text.splitOn ',' s).any fun entry => Text.trim entry = t

/-- **The position of the second argument in the first**, or -1. -/
def indexOf (args : List Value) : Value :=
  match Arguments.text? args 0, Arguments.text? args 1 with
  | some s, some t =>
    match Text.indexOf? t.toList s.toList with
    | some position => .ofNat position
    | none => .ofInt (-1)
  | _, _ => .null

/-- The position at which a slice of a text of `total` characters starts; a negative one counts from the end. -/
def sliceStart (total : Nat) (start : Int) : Nat :=
  if 0 ≤ start then min start.toNat total else (total + start).toNat

/-- **The characters of a text from a position on**, all of them or at most a given number. -/
def slice (s : String) (start : Int) (length : Option Nat) : String :=
  let cs := s.toList
  let first := sliceStart cs.length start
  String.ofList (match length with
    | none => cs.drop first
    | some n => Text.slice first n cs)

/-- The length of a slice: absent, or a whole number that is not negative. -/
def sliceLength? : Option Double → Option (Option Nat)
  | none => some none
  | some x =>
    match x.toInt? with
    | some i => if 0 ≤ i then some (some i.toNat) else none
    | none => none

/-- **A slice of the first argument**, by its start and its length. -/
def stringSlice (args : List Value) : Except Cause Value :=
  match Arguments.text? args 0 with
  | none => .ok .null
  | some s =>
    match ((Arguments.number? args 1).getD .zero).toInt?, sliceLength? (Arguments.number? args 2) with
    | some start, some length => .ok (.string (slice s start length))
    | _, _ => .error (.invalidArgument "stringSlice"
        "start must be a whole number and length a non-negative whole number")

/-- **The first argument with every occurrence of the second replaced by the third.** -/
def stringReplace (args : List Value) : Value :=
  match Arguments.text? args 0 with
  | none => .null
  | some s =>
    let wanted := ((Arguments.text? args 1).getD "").toList
    let replacement := ((Arguments.text? args 2).getD "").toList
    .string (String.ofList (Text.replace wanted replacement s.toList))

end Strings
end FormLogic
