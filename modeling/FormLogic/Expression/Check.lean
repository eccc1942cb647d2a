import FormLogic.Expression.Evaluate
/-!
# The static check

The check looks for what is wrong with an expression before any data is there: unknown operators, wrong numbers of
arguments, too deep nesting, and literals that cannot be cast to the kind of their position.  It reports all it finds,
in the order of the expression, and does not stop at the first.
-/
namespace FormLogic

structure Issue where
  code : String
  message : String
  path : Path
  operator : Option String
  deriving DecidableEq

namespace Issue

def text (issue : Issue) : String := issue.code ++ " at " ++ issue.path.text ++ ": " ++ issue.message

/-- A call of an operator that is not known, or of none. -/
def unknownOperator (cause : Cause) (path : Path) (operator : Option String) : Issue :=
  ⟨"FORMEXPR_E_UNKNOWN_OPERATOR", cause.message, path, operator⟩

def argumentCount (cause : Cause) (path : Path) (operator : String) : Issue :=
  ⟨"FORMEXPR_E_ARGUMENT_COUNT", cause.message, path, some operator⟩

def depth (limit : Nat) (path : Path) : Issue :=
  ⟨"FORMEXPR_E_DEPTH", (Cause.depthExceeded limit).message, path, none⟩

def literal (cause : Cause) (path : Path) (operator : String) : Issue :=
  ⟨"FORMEXPR_E_LITERAL", cause.message, path, some operator⟩

end Issue

/-- The issue of an argument that is a literal, where the operator of the call is known. -/
def literalIssues (rules : Rules) (call : Option (String × Signature)) (place : Path) (index : Nat) (argument : Value) :
    List Issue :=
  match call, argument with
  | none, _ => []
  | some _, .array _ => []
  | some (name, signature), literal =>
    match signature.kindAt name index with
    | .error _ => []
    | .ok kind =>
      match rules.casts.cast literal kind with
      | .ok _ => []
      | .error cause => [.literal cause place name]

mutual
/-- **The issues of an expression** that stands at `path`. -/
def check (rules : Rules) (path : Path) (expression : Value) : List Issue :=
  match expression with
  | .array items =>
    if rules.maxDepth < path.length then [.depth rules.maxDepth path]
    else
      match items with
      | .string name :: arguments =>
        match rules.operators.get? name with
        | none =>
          .unknownOperator (.unknownOperator name) path (some name) :: checkArguments rules path none 0 arguments
        | some operator =>
          (match operator.signature.checkCount name arguments.length with
            | .ok () => []
            | .error cause => [.argumentCount cause path name])
            ++ checkArguments rules path (some (name, operator.signature)) 0 arguments
      | items => [.unknownOperator (badHead items) path none]
  | _ => []
/-- **The issues of the arguments** of a call, from the one at `index` on.  Below an unknown operator only the calls
are looked at. -/
def checkArguments (rules : Rules) (path : Path) (call : Option (String × Signature)) (index : Nat)
    (arguments : List Value) : List Issue :=
  match arguments with
  | [] => []
  | argument :: rest =>
    let place := path ++ [index + 1]
    literalIssues rules call place index argument ++ check rules place argument
      ++ checkArguments rules path call (index + 1) rest
end

end FormLogic
