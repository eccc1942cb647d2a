import FormLogic.Operator.Arguments
/-!
# Comparison and logic

Equality is equality of data.  The order of numbers is that of the doubles nearest to them, and nothing stands in that
order to an absent number.  The logical operators count every value but true as false; `choose` picks one of two values
that are both computed already.
-/
namespace FormLogic
namespace Comparison

def equal (args : List Value) : Bool := (Arguments.value args 0).same (Arguments.value args 1)

/-- Whether the first two arguments are numbers in a given relation. -/
def compare (relation : Double → Double → Bool) (args : List Value) : Bool :=
  match Arguments.number? args 0, Arguments.number? args 1 with
  | some x, some y => relation x y
  | _, _ => false

end Comparison

namespace Logic

def all (args : List Value) : Bool := args.all Value.isTrue

def any (args : List Value) : Bool := args.any Value.isTrue

def not (args : List Value) : Bool := !(Arguments.value args 0).isTrue

/-- **The choice between two values**, the second of which may be left out together with the word before it. -/
def choose (args : List Value) : Except Cause Value :=
  match args with
  | [condition, value] => .ok (if condition.isTrue then value else .null)
  | [condition, value, .string "else", otherwise] => .ok (if condition.isTrue then value else otherwise)
  | _ => .error (.invalidArgument "if"
      "expected [\"if\", condition, then] or [\"if\", condition, then, \"else\", otherwise]")

end Logic
end FormLogic
