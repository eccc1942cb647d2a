import FormLogic.Operator.Arguments
/-!
# Arithmetic

Arithmetic on doubles.  An absent operand makes the result null, and so does a result that is no number.
-/
namespace FormLogic
namespace Arithmetic

/-- The result of an operation on all arguments. -/
def overAll (operation : List Double → Double) (args : List Value) : Value :=
  match args.mapM Value.double? with
  | some xs => .ofDouble (operation xs)
  | none => .null

def add : List Value → Value := overAll Double.sum

def multiply : List Value → Value := overAll Double.product

def subtract (args : List Value) : Value :=
  match Arguments.number? args 0, Arguments.number? args 1 with
  | some x, some y => .ofDouble (x.sub y)
  | _, _ => .null

/-- **The quotient of the first two arguments.**  Division by zero fails, whatever its sign. -/
def divide (args : List Value) : Except Cause Value :=
  match Arguments.number? args 0, Arguments.number? args 1 with
  | some x, some y => if y.same (.ofInt 0) then .error .divisionByZero else .ok (.ofDouble (x.div y))
  | _, _ => .ok .null

/-- The number of decimal places that a double stands for: a whole number from 0 to 15. -/
def places? (x : Double) : Option Nat :=
  match x.toInt? with
  | some i => if 0 ≤ i ∧ i ≤ 15 then some i.toNat else none
  | none => none

/-- **The first argument rounded to decimal places**, ties away from zero; without a second argument to a whole
number. -/
def round (args : List Value) : Except Cause Value :=
  match Arguments.number? args 0 with
  | none => .ok .null
  | some x =>
    let wanted := (Arguments.number? args 1).getD .zero
    match places? wanted with
    | none => .error (.invalidArgument "round"
        ("decimal places must be a whole number from 0 to 15, got " ++ Layout.message.writeDouble wanted))
    | some places =>
      let factor := Double.ofInt (Nat.pow 10 places)
      .ok (.ofDouble ((x.mul factor).roundWhole.div factor))

end Arithmetic
end FormLogic
