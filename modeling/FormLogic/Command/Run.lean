import FormLogic.Command.Arguments
import FormLogic.Expression.Dialect
import FormLogic.Value.Reader
import FormLogic.Wire.Data
/-!
# Running commands

A command reads its expression, and the host data if any, from the command line itself or from a file named there, and
answers with a text.  The files are given as a function from names to contents, so that running a command is a pure
function too.
-/
namespace FormLogic

/-- **The files a command can see**: the bytes under a name. -/
abbrev Files : Type := String → Option ByteArray

inductive CommandError where
  | usage (e : UsageError)
  | unreadableFile (name : String)
  | invalidFile (name : String) (e : ReadError)
  | invalidText (what : String) (e : ReadError)
  | invalidData
  | invalidArguments (e : Option ReadError)
  | expressionMissing
  | evaluation (report : Report)
  | issues (found : List Issue)
  deriving DecidableEq

def CommandError.message : CommandError → String
  | .usage e => e.message
  | .unreadableFile name => "failed to read " ++ name ++ ": the file is not UTF-8 text"
  | .invalidFile name e => "invalid JSON in " ++ name ++ ": " ++ e.message
  | .invalidText what e => "invalid " ++ what ++ " JSON: " ++ e.message
  | .invalidData => "invalid --data document: not the data of a host"
  | .invalidArguments e => "invalid --args JSON array: " ++ e.elim "not an array" ReadError.message
  | .expressionMissing => "no expression found (expected a top-level expression or an \"expr\" key)"
  | .evaluation report => report.message
  | .issues found =>
    toString found.length ++ " issue(s) found\n" ++ String.intercalate "\n" (found.map Issue.text)

/-- **How a command ends**: with a text or an error, and with the warnings given. -/
structure CommandAnswer where
  result : Except CommandError String
  warnings : List Warning

namespace Command

/-- How deeply values on the command line and in files may be nested. -/
def nestingLimit : Nat := 127

/-- **The value that a word stands for**: the contents of the file of that name, or the word itself. -/
def load (files : Files) (word what : String) : Except CommandError Value :=
  match files word with
  | some bytes =>
    match String.fromUTF8? bytes with
    | some text => (Value.read nestingLimit text).mapError (.invalidFile word)
    | none => .error (.unreadableFile word)
  | none => (Value.read nestingLimit word).mapError (.invalidText what)

/-- The expression of a document: the document itself, or its member `expr` if it is an object. -/
def expressionOf : Value → Except CommandError Value
  | .object members =>
    match findEntry "expr" members with
    | some v => .ok v
    | none => .error .expressionMissing
  | v => .ok v

def loadData (files : Files) : Option String → Except CommandError HostData
  | none => .ok {}
  | some word => do
    match HostData.ofValue? (← load files word "--data") with
    | some data => return data
    | none => throw .invalidData

def readArguments (word : String) : Except CommandError (List Value) :=
  match Value.read nestingLimit word with
  | .ok (.array items) => .ok items
  | .ok _ => .error (.invalidArguments none)
  | .error e => .error (.invalidArguments (some e))

def config (request : EvalRequest) : Except CommandError Config := do
  let defaultValue ← request.defaultValue.mapM fun word =>
    (Value.read nestingLimit word).mapError (CommandError.invalidText "--default")
  let positionalArguments ← request.arguments.mapM readArguments
  return { defaultValue := defaultValue
           returnType := request.returnType
           errorIntroduction := request.introduction
           positionalArguments := positionalArguments }

def runEval (files : Files) (request : EvalRequest) : CommandAnswer :=
  let inputs : Except CommandError (Value × HostData × Config) := do
    let expression ← expressionOf (← load files request.expression "EXPR")
    let data ← loadData files request.data
    return (expression, data, ← config request)
  match inputs with
  | .error e => ⟨.error e, []⟩
  | .ok (expression, data, config) =>
    let answer := Dialect.standard.evaluate expression data.sources request.node config
    match answer.result with
    | .ok value => ⟨.ok (value.indented ++ "\n"), answer.warnings⟩
    | .error report => ⟨.error (.evaluation report), answer.warnings⟩

def runCheck (files : Files) (word : String) : Except CommandError String := do
  let expression ← expressionOf (← load files word "EXPR")
  match Dialect.standard.check expression defaultMaxDepth with
  | [] => return "ok\n"
  | found => throw (.issues found)

def run (files : Files) : Command → CommandAnswer
  | .eval request => runEval files request
  | .check word => ⟨runCheck files word, []⟩

def runWords (files : Files) (words : List String) : CommandAnswer :=
  match parse words with
  | .ok command => command.run files
  | .error e => ⟨.error (.usage e), []⟩

/-- The words of a command that may name files. -/
def fileWords : Command → List String
  | .eval request => request.expression :: request.data.toList
  | .check word => [word]

end Command
end FormLogic
