import FormLogic.Kind
import FormLogic.Value.Printer
/-!
# Failures

A failure is a cause and, once a call has been blamed, the place: the innermost failing sub-expression and the path
that leads to it.  `Failure.blame` keeps the place that was found first, which is the innermost one.

A `Report` is what the host gets to see: a failure of a whole expression, with its text.
-/
namespace FormLogic

/-- **A place in an expression**: from the outside inwards, the position of each argument in its call, the first
argument having position 1. -/
abbrev Path : Type := List Nat

/-- A path as text: `[2][1]`, or `root`. -/
def Path.text (path : Path) : String :=
  if path.isEmpty then "root" else path.foldl (fun s step => s ++ "[" ++ toString step ++ "]") ""

inductive Cause where
  | unknownOperator (name : String)
  | unknownTarget (target : Kind)
  | unknownSource (found : String) (target : Kind)
  | unexpectedValue (target : Kind) (value : Value)
  | divisionByZero
  | componentNotFound (id : String)
  | argumentCount (operator : String) (least : Nat) (most : Option Nat) (actual : Nat)
  | undeclaredArgument (operator : String) (index : Nat)
  | invalidArgument (operator : String) (text : String)
  | positionalArgument (index available : Nat)
  | depthExceeded (limit : Nat)
  deriving DecidableEq

def countText (least : Nat) : Option Nat → String
  | none => "at least " ++ toString least ++ " argument(s)"
  | some most =>
    if most = least then toString least ++ " argument(s)"
    else toString least ++ " to " ++ toString most ++ " arguments"

def Cause.message : Cause → String
  | .unknownOperator name => "unknown function '" ++ name ++ "'"
  | .unknownTarget target => "no cast rule for target type '" ++ target.name ++ "'"
  | .unknownSource found target => "cannot cast a value of type '" ++ found ++ "' to '" ++ target.name ++ "'"
  | .unexpectedValue target value => "expected " ++ target.name ++ ", got value " ++ value.compact
  | .divisionByZero => "division by zero"
  | .componentNotFound id => "unable to find component '" ++ id ++ "' from the current context"
  | .argumentCount operator least most actual =>
    "'" ++ operator ++ "' expects " ++ countText least most ++ ", got " ++ toString actual
  | .undeclaredArgument operator index =>
    "'" ++ operator ++ "' declares no parameter type for argument " ++ toString index
  | .invalidArgument operator text => operator ++ ": " ++ text
  | .positionalArgument index available =>
    "positional argument " ++ toString index ++ " is out of range (" ++ toString available ++ " available)"
  | .depthExceeded limit => "expression nesting exceeds the limit of " ++ toString limit

structure Origin where
  expression : Value
  path : Path
  deriving DecidableEq

/-- **A failure on its way out of an evaluation.** -/
structure Failure where
  cause : Cause
  origin : Option Origin
  deriving DecidableEq

namespace Failure

/-- A cause that has not been placed yet. -/
def unplaced (cause : Cause) : Failure := ⟨cause, none⟩

/-- **Places a failure**, unless an inner call has done so. -/
def blame (failure : Failure) (expression : Value) (path : Path) : Failure :=
  ⟨failure.cause, failure.origin.or (some ⟨expression, path⟩)⟩

def of (cause : Cause) (expression : Value) (path : Path) : Failure := (unplaced cause).blame expression path

end Failure

/-- **The failure of a whole expression, as the host sees it.** -/
structure Report where
  cause : Cause
  path : Path
  subexpression : Value
  expression : Value
  message : String
  deriving DecidableEq

/-- **The report of a failure of `root`.**  A failure without a place is placed at the root; without an introduction
the message opens with a general one. -/
def Failure.report (failure : Failure) (root : Value) (introduction : Option String) : Report :=
  let origin := failure.origin.getD ⟨root, []⟩
  { cause := failure.cause
    path := origin.path
    subexpression := origin.expression
    expression := root
    message := introduction.getD "Evaluated expression" ++ ": " ++ failure.cause.message
      ++ "\n  at " ++ origin.path.text
      ++ "\n  in " ++ root.compact
      ++ "\n  failing " ++ origin.expression.compact }

end FormLogic
