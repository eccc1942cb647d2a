import FormLogic.Host.Sources
import FormLogic.Kind
/-!
# Command lines

A command line asks to evaluate an expression or to check one.  `Command.parse` reads it from left to right.  The words
after `eval` are one expression and any number of flags, each with a value, in any order; a repeated flag counts as it
was given last, except that the node of the expression can be named only once.
-/
namespace FormLogic

/-- **The flags of an evaluation**, each of which takes a value. -/
inductive Flag where
  | data
  | node
  | page
  | default
  | returnType
  | args
  | intro
  deriving DecidableEq

namespace Flag

def all : List Flag := [.data, .node, .page, .default, .returnType, .args, .intro]

def name : Flag → String
  | .data => "--data"
  | .node => "--node"
  | .page => "--page"
  | .default => "--default"
  | .returnType => "--return-type"
  | .args => "--args"
  | .intro => "--intro"

def ofName? (word : String) : Option Flag := all.find? (·.name = word)

end Flag

structure EvalRequest where
  expression : String
  data : Option String := none
  node : Node := .detached
  defaultValue : Option String := none
  returnType : Option Kind := none
  arguments : Option String := none
  introduction : Option String := none
  deriving DecidableEq

inductive Command where
  | eval (request : EvalRequest)
  | check (expression : String)
  deriving DecidableEq

/-- **What is wrong with a command line.** -/
inductive UsageError where
  | help
  | unknownCommand (word : String)
  | unknownFlag (word : String)
  | missingValue (flag : String)
  | nodeRepeated
  | invalidReturnType (word : String)
  | expressionRepeated
  | expressionMissing (command : String)
  deriving DecidableEq

def helpText : String := String.intercalate "\n" [
  "formexpr CLI",
  "",
  "Commands:",
  "  formexpr eval EXPR [--data JSON_OR_PATH] [--node ID | --page ID] [--default JSON]",
  "                [--return-type boolean|string|number|any] [--args JSON_ARRAY]",
  "                [--intro TEXT]",
  "  formexpr check EXPR",
  "",
  "EXPR is inline JSON or a path to a JSON file. Set RUST_LOG=warn to see",
  "recovered failures when --default is given."]

def UsageError.message : UsageError → String
  | .help => helpText
  | .unknownCommand word => "unknown command: " ++ word ++ "\n\n" ++ helpText
  | .unknownFlag word => "unknown flag: " ++ word
  | .missingValue flag => flag ++ " requires a value"
  | .nodeRepeated => "--node and --page may only be given once"
  | .invalidReturnType word => "invalid return type: " ++ word
  | .expressionRepeated => "only one EXPR positional argument is allowed"
  | .expressionMissing command => command ++ " requires EXPR"

def looksLikeFlag (word : String) : Bool := ['-', '-'].isPrefixOf word.toList

namespace EvalRequest

def set (request : EvalRequest) (flag : Flag) (value : String) : Except UsageError EvalRequest :=
  match flag with
  | .data => .ok { request with data := some value }
  | .node => .ok { request with node := .component value }
  | .page => .ok { request with node := .page value }
  | .default => .ok { request with defaultValue := some value }
  | .returnType =>
    match Kind.parse? value with
    | some kind => .ok { request with returnType := some kind }
    | none => .error (.invalidReturnType value)
  | .args => .ok { request with arguments := some value }
  | .intro => .ok { request with introduction := some value }

/-- Whether a flag names the node although it is named already. -/
def repeatsNode (request : EvalRequest) (flag : Flag) : Bool :=
  (flag = .node || flag = .page) && request.node ≠ .detached

/-- **Reads the words after `eval`**, given the expression found so far and the request without it. -/
def parse (expression : Option String) (request : EvalRequest) : List String → Except UsageError EvalRequest
  | [] =>
    match expression with
    | some text => .ok { request with expression := text }
    | none => .error (.expressionMissing "eval")
  | word :: rest =>
    match Flag.ofName? word with
    | some flag =>
      if request.repeatsNode flag then .error .nodeRepeated
      else match rest with
        | [] => .error (.missingValue word)
        | value :: rest =>
          match request.set flag value with
          | .ok request => parse expression request rest
          | .error e => .error e
    | none =>
      if looksLikeFlag word then .error (.unknownFlag word)
      else if expression.isSome then .error .expressionRepeated
      else parse (some word) request rest

end EvalRequest

namespace Command

/-- **Reads the words after `check`**, given the expression found so far. -/
def parseCheck (expression : Option String) : List String → Except UsageError Command
  | [] =>
    match expression with
    | some text => .ok (.check text)
    | none => .error (.expressionMissing "check")
  | word :: rest =>
    if looksLikeFlag word then .error (.unknownFlag word)
    else if expression.isSome then .error .expressionRepeated
    else parseCheck (some word) rest

def parse : List String → Except UsageError Command
  | [] => .error .help
  | "eval" :: rest => (EvalRequest.parse none ⟨"", none, .detached, none, none, none, none⟩ rest).map .eval
  | "check" :: rest => parseCheck none rest
  | "help" :: _ | "--help" :: _ | "-h" :: _ => .error .help
  | word :: _ => .error (.unknownCommand word)

end Command
end FormLogic
