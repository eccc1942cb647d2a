import FormLogic.Expression.Check
import FormLogic.Operator.Catalog
/-!
# Dialects

A dialect is a set of operators and a table of casts.  `Dialect.evaluate` is the evaluation a host asks for: it adds to
the bare evaluation what the host decides for one request, which is the default value, the kind of the result, the
introduction of error messages, the positional arguments and the depth limit.

With a default value a request cannot fail.  A failure is then recovered: the default is returned, and what would have
been reported becomes a warning.
-/
namespace FormLogic

/-- How deeply calls may be nested when a request does not say. -/
def defaultMaxDepth : Nat := 64

/-- **What the host decides for one request.**  A default value of null is a default value. -/
structure Config where
  defaultValue : Option Value := none
  returnType : Option Kind := none
  errorIntroduction : Option String := none
  positionalArguments : Option (List Value) := none
  maxDepth : Option UInt64 := none
  deriving DecidableEq

def Config.depthLimit (config : Config) : Nat := (config.maxDepth.map UInt64.toNat).getD defaultMaxDepth

/-- The value, or the default where it is null and there is one. -/
def Config.orDefault (config : Config) (v : Value) : Value := if v.isNull then config.defaultValue.getD v else v

structure Warning where
  path : String
  operator : Option String
  message : String
  deriving DecidableEq

def Value.head? : Value → Option String
  | .array (.string name :: _) => some name
  | _ => none

def Report.warning (report : Report) : Warning := ⟨report.path.text, report.subexpression.head?, report.message⟩

/-- **The answer to a request**: a value or a report, the warnings given, and the calls made. -/
structure Answer where
  result : Except Report Value
  warnings : List Warning
  calls : List Call

/-- **The operators and casts of a form.** -/
structure Dialect where
  operators : Registry
  casts : CastTable

namespace Dialect

def standard : Dialect := ⟨.standard, .standard⟩

def rules (d : Dialect) (maxDepth : Nat) : Rules := ⟨d.operators, d.casts, maxDepth⟩

def declared? (d : Dialect) (expression : Value) : Option Kind := do
  return (← d.operators.get? (← expression.head?)).signature.returns

/-- **The evaluation of a whole expression.**  A literal is taken as it is.  The result of a call, unless it is null, is
cast to the kind asked for, where that is not the kind declared by its operator, which is looked up once more. -/
def evaluateRoot (d : Dialect) (expression : Value) (scope : Scope) (config : Config) : Run Value :=
  match expression with
  | .array items => do
    let value ← FormLogic.evaluate (d.rules config.depthLimit) scope [] expression
    if value.isNull then return config.orDefault value
    else
      match config.returnType with
      | none => return value
      | some kind =>
        let operator ← Run.step (d.operators.resolve items) expression []
        if operator.signature.returns = kind then return value
        else return config.orDefault (← Run.step (d.casts.cast value kind) expression [])
  | literal => return config.orDefault literal

/-- **Evaluates an expression for a host.** -/
def evaluate (d : Dialect) (expression : Value) (sources : Sources) (node : Node) (config : Config) : Answer :=
  let run := d.evaluateRoot expression ⟨sources, node, config.positionalArguments.getD []⟩ config
  match run.outcome with
  | .ok value => ⟨.ok value, [], run.calls⟩
  | .error failure =>
    let report := failure.report expression config.errorIntroduction
    match config.defaultValue with
    | some value => ⟨.ok value, [report.warning], run.calls⟩
    | none => ⟨.error report, [], run.calls⟩

def check (d : Dialect) (expression : Value) (maxDepth : Nat) : List Issue :=
  FormLogic.check (d.rules maxDepth) [] expression

end Dialect
end FormLogic
