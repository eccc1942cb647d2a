import FormLogic.Cast
import FormLogic.Host.Sources
import FormLogic.Operator.Signature
/-!
# Registries of operators

An operator is a signature and an implementation.  The implementation gets the arguments, cast to the declared kinds,
and the frame of its call; it answers with a value, still to be cast to the declared result kind, or with a cause of
failure.  A registry is a table of operators by name.

The frame shows the implementation what the whole evaluation goes by: the casts, how deep calls may be nested, and the
registry.  Of the registry it shows the names and the signatures, not the other implementations, which are functions of
frames themselves: an implementation evaluates nothing and calls no other one.  Those who observe the calls are not
shown either, since they only look on.
-/
namespace FormLogic

/-- **What an evaluation goes by, as its implementations see it**: which operators are registered, with which
signatures, the casts, and the depth limit. -/
structure Env where
  signatures : Table Signature
  casts : CastTable
  maxDepth : Nat

/-- **The frame of a call**: the call itself, its place, what the host provides, and what the evaluation goes by. -/
structure Frame where
  expression : Value
  path : Path
  scope : Scope
  env : Env

abbrev Implementation : Type := List Value → Frame → Except Cause Value

structure Operator where
  signature : Signature
  run : Implementation

abbrev Registry : Type := Table Operator

end FormLogic
