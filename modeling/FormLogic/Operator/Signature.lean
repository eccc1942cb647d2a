import FormLogic.Expression.Failure
/-!
# Signatures

A signature declares the kinds of an operator's parameters and of its result, and how many arguments a call may have.
A spreading signature takes any number of further arguments, all of the last declared kind.
-/
namespace FormLogic

structure Signature where
  parameters : List Kind
  least : Nat
  spreads : Bool
  returns : Kind
  deriving DecidableEq, Repr

namespace Signature

def fixed (parameters : List Kind) (returns : Kind) : Signature := ⟨parameters, parameters.length, false, returns⟩

/-- The signature whose last parameter may be repeated. -/
def spreading (s : Signature) : Signature := { s with spreads := true }

def withLeast (s : Signature) (least : Nat) : Signature := { s with least := least }

/-- **The greatest number of arguments**, if there is one. -/
def most (s : Signature) : Option Nat := if s.spreads then none else some s.parameters.length

/-- **Whether a call may have `count` arguments.** -/
def admits (s : Signature) (count : Nat) : Bool :=
  s.least ≤ count && (s.spreads || count ≤ s.parameters.length)

/-- **The test of the number of arguments** of a call to `name`. -/
def checkCount (s : Signature) (name : String) (count : Nat) : Except Cause Unit :=
  if s.admits count then .ok () else .error (.argumentCount name s.least s.most count)

/-- **The declared kind of the argument at an index**, counted from 0. -/
def kindAt (s : Signature) (name : String) (index : Nat) : Except Cause Kind :=
  match s.parameters[index]? with
  | some kind => .ok kind
  | none =>
    match s.parameters.getLast? with
    | some last => if s.spreads then .ok last else .error (.undeclaredArgument name index)
    | none => .error (.undeclaredArgument name index)

end Signature
end FormLogic
