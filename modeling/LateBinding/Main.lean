import LateBinding.CommandLine.Outcome

/-!
# The program

Reads the file that a command line names, answers the command line and prints the answer.
-/
namespace LateBinding.Main

open CommandLine

/-- The contents of the configuration file of a command line, if there is one to read. -/
def loadConfiguration (words : List String) : IO (Option String) := do
  match Request.read words with
  | .ok request => match request.options.configuration with
    | some path => try some <$> IO.FS.readFile path catch _ => pure none
    | none => pure none
  | .error _ => pure none

/-- Print an outcome and give its code. -/
def report (outcome : Outcome) : IO UInt32 := do
  match outcome with
  | .printed text => IO.print text
  | .failed message => IO.eprintln (Outcome.errorText message)
  | .misused => IO.eprintln ("error: invalid command line\n\nUsage: " ++ Help.root.usage)
  pure outcome.code.toUInt32

end LateBinding.Main

/-- Answer the command line. -/
def main (words : List String) : IO UInt32 := do
  let content ← LateBinding.Main.loadConfiguration words
  match LateBinding.CommandLine.answer words fun _ => content with
  | some outcome => LateBinding.Main.report outcome
  | none =>
    IO.eprintln "error: members call one another too deep"
    pure 1
