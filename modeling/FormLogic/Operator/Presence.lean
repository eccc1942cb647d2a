import FormLogic.Operator.Arguments
import FormLogic.Value.NumberText
/-!
# Presence and form of values

Operators that ask whether values are there, and which form they have.
-/
namespace FormLogic
namespace Presence

def count (args : List Value) : Value := .ofNat (args.filter (! ·.isNull)).length

/-- **Whether the first argument is null or the empty string.** -/
def isEmpty (args : List Value) : Bool :=
  match Arguments.value args 0 with
  | .null => true
  | .string s => s.isEmpty
  | _ => false

/-- **Whether the first argument is a number or a string that stands for one.** -/
def isNumber (args : List Value) : Bool :=
  match Arguments.value args 0 with
  | .number _ => true
  | .string s => (NumberText.parse? s).isSome
  | _ => false

def isString (args : List Value) : Bool := (Arguments.text? args 0).isSome

end Presence
end FormLogic
