import FormLogic.Cast
import FormLogic.Expression.Run
import FormLogic.Operator.Registry
/-!
# Evaluation

An array is a call: its first item names an operator, the others are its arguments.  Every other value is a literal and
stands for itself.  The arguments of a call are evaluated and cast from left to right, each of them before the operator
runs and whatever the operator is, so nothing is skipped.

A failure is blamed on the innermost sub-expression it concerns: the cast of an argument on the argument, everything
else on the call.  The definition recurses on the expression, so every evaluation ends.
-/
namespace FormLogic

/-- **What an evaluation goes by**: the operators, the casts, and how long a path may grow. -/
structure Rules where
  operators : Registry
  casts : CastTable
  maxDepth : Nat

/-- What the implementations see of the rules. -/
def Rules.env (rules : Rules) : Env := ⟨rules.operators.map Operator.signature, rules.casts, rules.maxDepth⟩

/-- The cause of failure of an array that is headed by no string. -/
def badHead : List Value → Cause
  | [] => .unknownOperator ""
  | head :: _ => .unknownOperator head.compact

/-- **The operator that a call names**, looked up in a registry. -/
def Registry.resolve (operators : Registry) : List Value → Except Cause Operator
  | .string name :: _ =>
    match operators.get? name with
    | some operator => .ok operator
    | none => .error (.unknownOperator name)
  | items => .error (badHead items)

/-- **A call whose arguments are there**: the operator runs between the two observations, and its result is cast. -/
def invoke (rules : Rules) (frame : Frame) (name : String) (operator : Operator) (args : List Value) : Run Value := do
  Run.observe ⟨frame.path, name, args, none⟩
  let raw ← Run.step (operator.run args frame) frame.expression frame.path
  let result ← Run.step (rules.casts.cast raw operator.signature.returns) frame.expression frame.path
  Run.observe ⟨frame.path, name, args, some result⟩
  return result

mutual
/-- **Evaluates an expression** that stands at `path`. -/
def evaluate (rules : Rules) (scope : Scope) (path : Path) (expression : Value) : Run Value :=
  match expression with
  | .array items =>
    if rules.maxDepth < path.length then
      Run.failed (.of (.depthExceeded rules.maxDepth) (.array items) path)
    else
      match items with
      | .string name :: arguments =>
        match rules.operators.get? name with
        | none => Run.failed (.of (.unknownOperator name) (.array (.string name :: arguments)) path)
        | some operator => do
          Run.step (operator.signature.checkCount name arguments.length) (.array (.string name :: arguments)) path
          let values ← evaluateArguments rules scope path name operator.signature 0 arguments
          invoke rules ⟨.array (.string name :: arguments), path, scope, rules.env⟩ name operator values
      | items => Run.failed (.of (badHead items) (.array items) path)
  | literal => Run.done literal
/-- **Evaluates and casts the arguments** of a call, from the one at `index` on. -/
def evaluateArguments (rules : Rules) (scope : Scope) (path : Path) (name : String) (signature : Signature)
    (index : Nat) (arguments : List Value) : Run (List Value) :=
  match arguments with
  | [] => Run.done []
  | argument :: rest => do
    let place := path ++ [index + 1]
    let value ← evaluate rules scope place argument
    let kind ← Run.step (signature.kindAt name index) argument place
    let cast ← Run.step (rules.casts.cast value kind) argument place
    let others ← evaluateArguments rules scope path name signature (index + 1) rest
    return cast :: others
end

end FormLogic
