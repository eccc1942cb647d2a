import FormLogic.Command.Run
/-!
# The program

Reads the files that the command line may name, runs the command, and prints its text or its error.
-/
open FormLogic

/-- The contents of a file, if there is one of that name that can be read. -/
def readFile? (name : String) : IO (Option ByteArray) := do
  try return some (← IO.FS.readBinFile name) catch _ => return none

def main (words : List String) : IO UInt32 := do
  let names := match Command.parse words with
    | .ok command => command.fileWords
    | .error _ => []
  let found ← names.mapM fun name => do return (name, ← readFile? name)
  let answer := Command.runWords (fun name => (found.find? (·.1 = name)).bind (·.2)) words
  for warning in answer.warnings do
    IO.eprintln ("warning: " ++ warning.message)
  match answer.result with
  | .ok text =>
    IO.print text
    return 0
  | .error e =>
    IO.eprintln ("error: " ++ e.message)
    return 1
