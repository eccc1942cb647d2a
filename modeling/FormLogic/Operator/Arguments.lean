import FormLogic.Expression.Failure
/-!
# Arguments of operators

Arguments arrive cast to the declared kinds, so each is null or of its kind.  An operator asks for the argument at a
position as a text, as a number or as it is; null, a value of another kind and a missing argument all count as absent.
-/
namespace FormLogic
namespace Arguments

/-- The argument at a position; null where there is none. -/
def value (args : List Value) (position : Nat) : Value := args.getD position .null

def text? (args : List Value) (position : Nat) : Option String := args[position]?.bind Value.string?

def number? (args : List Value) (position : Nat) : Option Double := args[position]?.bind Value.double?

/-- The text at the first position, which the operator `name` cannot do without. -/
def key (args : List Value) (name : String) : Except Cause String :=
  match text? args 0 with
  | some key => .ok key
  | none => .error (.invalidArgument name "expected a non-null string argument")

end Arguments
end FormLogic
