import FormLogic.Operator.Catalog
import FormLogic.Text.Bytes
/-!
# The standard operators with their accesses

Some operators reach into their arguments or into a text: for the argument at a position, for a range of characters, for
what stands before a position in bytes.  An access out of range is no answer of the operator but a fault, which ends the
program.  Here the accesses are made where the operators make them, and a fault shows (`Builtin.runGuarded`).
-/
namespace FormLogic

/-- **An access out of range**: what was asked for, and the length of what there is.  A negative number counts
nothing. -/
inductive Fault where
  | item (position length : Nat)
  | range (first last length : Nat)
  | split (byte length : Nat)
  | count (n : Int)
  deriving DecidableEq

namespace Access

/-- **The argument at a position**, which has to be there. -/
def item (args : List Value) (position : Nat) : Except Fault Value :=
  match args[position]? with
  | some v => .ok v
  | none => .error (.item position args.length)

/-- **The characters from `first` to before `last`**, both of which have to be positions in the text, in this order. -/
def range (text : List Char) (first last : Nat) : Except Fault (List Char) :=
  if first ≤ last ∧ last ≤ text.length then .ok (Text.slice first (last - first) text)
  else .error (.range first last text.length)

/-- **A text taken apart at a position in bytes**, which has to lie between characters. -/
def split (text : List Char) (byte : Nat) : Except Fault (List Char × List Char) :=
  match Text.splitAtByte? text byte with
  | some parts => .ok parts
  | none => .error (.split byte (Text.byteLength text))

/-- **A count that was computed with signs**, which has to come out as one. -/
def count (n : Int) : Except Fault Nat := if 0 ≤ n then .ok n.toNat else .error (.count n)

/-! ## Texts of numbers -/

/-- The text of a positive number in the plain layout: its digits with zeros after them, with the point between them,
with zeros before them, or with an exponent. -/
def plainBody (d : Decimal) : Except Fault (List Char) :=
  let length : Int := Text.byteLength d.digits
  let places := d.exponent + 1
  if length ≤ places ∧ places ≤ 21 then do
    let missing ← count (places - length)
    return d.digits ++ Layout.zeros missing
  else if 0 < places ∧ places ≤ 21 then do
    let (whole, fraction) ← split d.digits (← count places)
    return whole ++ '.' :: fraction
  else if -6 < places ∧ places ≤ 0 then return '0' :: '.' :: Layout.zeros places.natAbs ++ d.digits
  else do
    let (first, rest) ← split d.digits 1
    return first ++ (if rest.isEmpty then [] else '.' :: rest) ++
      'e' :: (if 0 < places then '+' else '-') :: Nat.toDigits 10 (places - 1).natAbs

def plainFinite (x : FiniteDouble) : Except Fault String :=
  if x.units = 0 then return "0"
  else do
    let body ← plainBody (shortestDecimal .up x.units)
    return String.ofList (if x.negative then '-' :: body else body)

def plainDouble : Double → Except Fault String
  | .finite x => plainFinite x
  | x => return Layout.plain.writeDouble x

def plainText : Value → Except Fault (Option String)
  | .number (.float x) => do return some (← plainFinite x)
  | v => return Lookup.plainText v

/-! ## Operators that answer -/

def equal (args : List Value) : Except Fault Bool := do
  return (← item args 0).same (← item args 1)

/-- **The position of the second argument in the first**: it is found in bytes, and what stands before it is counted in
characters. -/
def indexOf (args : List Value) : Except Fault Value :=
  match Arguments.text? args 0, Arguments.text? args 1 with
  | some s, some t =>
    match Text.byteIndexOf? t.toList s.toList with
    | some byte => do
      let (before, _) ← split s.toList byte
      return .ofNat before.length
    | none => return .ofInt (-1)
  | _, _ => return .null

/-- **The characters of a text from a position on**, by the two ends of their range. -/
def slice (s : String) (start : Int) (length : Option Nat) : Except Fault String := do
  let total := s.toList.length
  let first := Strings.sliceStart total start
  let last := length.elim total fun n => min (first + min n total) total
  return String.ofList (← range s.toList first last)

/-- The label of the first choice with a given plain text; the texts of later ones are not asked for. -/
def label? (sources : Sources) (list : ChoiceList) (wanted : String) : Except Fault (Option String) := do
  let found ← list.choices.findM? fun choice => do return (← plainText choice.value) = some wanted
  return found.map fun choice => Lookup.translate sources choice.label

def formatNumber (args : List Value) (scope : Scope) : Except Fault Value :=
  match Arguments.number? args 0 with
  | some x =>
    match scope.sources.formatNumber x with
    | some text => return .string text
    | none => do return .string (← plainDouble x)
  | none => return .null

end Access

/-- **A computation that may run into a fault**, and answers with a value or a cause otherwise. -/
abbrev Guarded : Type → Type := ExceptT Cause (Except Fault)

namespace Guarded

open Access

/-- A computation without accesses. -/
def answer {α : Type} (result : Except Cause α) : Guarded α := .mk (.ok result)

/-! ## Operators that may fail -/

/-- **The choice between two values**, by the number of arguments. -/
def choose (args : List Value) : Guarded Value := do
  let otherwise ←
    if args.length = 2 then pure .null
    else if args.length = 4 ∧ Arguments.text? args 2 = some "else" then liftM (item args 3)
    else throw (.invalidArgument "if"
      "expected [\"if\", condition, then] or [\"if\", condition, then, \"else\", otherwise]")
  if (← item args 0).isTrue then item args 1 else return otherwise

def stringSlice (args : List Value) : Guarded Value :=
  match Arguments.text? args 0 with
  | none => return .null
  | some s =>
    match ((Arguments.number? args 1).getD .zero).toInt?, Strings.sliceLength? (Arguments.number? args 2) with
    | some start, some length => do return .string (← slice s start length)
    | _, _ => throw (.invalidArgument "stringSlice"
        "start must be a whole number and length a non-negative whole number")

def displayValue (args : List Value) (scope : Scope) : Guarded Value := do
  let id ← answer (Arguments.key args "displayValue")
  let found ← answer (Lookup.component scope id)
  match ← plainText (Lookup.boundValue scope.sources found) with
  | none => return .null
  | some text =>
    match scope.sources.choiceList found.id with
    | none => return .string text
    | some list => return .string ((← label? scope.sources list text).getD text)

def optionLabel (args : List Value) (scope : Scope) : Guarded Value := do
  let id ← answer (Arguments.key args "optionLabel")
  let found ← answer (Lookup.component scope id)
  match ← plainText (Arguments.value args 1), scope.sources.choiceList found.id with
  | some wanted, some list =>
    if list.fetching then return .null
    else return ((← label? scope.sources list wanted).map Value.string).getD .null
  | _, _ => return .null

end Guarded

open Access in
/-- **What a standard operator computes, with its accesses.**  The other operators make none. -/
def Builtin.runGuarded (operator : Builtin) (args : List Value) (scope : Scope) : Guarded Value :=
  match operator with
  | .equals => do return .bool (← equal args)
  | .notEquals => do return .bool (!(← equal args))
  | .not => do return .bool (!(← item args 0).isTrue)
  | .choose => Guarded.choose args
  | .stringIndexOf => indexOf args
  | .stringSlice => Guarded.stringSlice args
  | .isEmpty => do return .bool (Presence.isEmpty [← item args 0])
  | .isNumber => do return .bool (Presence.isNumber [← item args 0])
  | .isString => do return .bool (← item args 0).string?.isSome
  | .displayValue => Guarded.displayValue args scope
  | .optionLabel => Guarded.optionLabel args scope
  | .formatNumber => Access.formatNumber args scope
  | other => Guarded.answer (other.run args scope)

end FormLogic
