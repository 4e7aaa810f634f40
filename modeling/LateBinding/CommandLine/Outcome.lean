import LateBinding.CommandLine.FileTree
import LateBinding.CommandLine.Request
import LateBinding.Probe.Sample

/-!
# Answering a command line

A command line runs against the sample registry, with the configuration of a file if it names
one. It ends in one of three ways, each with a code for the caller.
-/
namespace LateBinding.CommandLine

/-- How a command line ends. -/
inductive Outcome
  /-- With a text to print. -/
  | printed (text : String)
  /-- With an error. -/
  | failed (message : String)
  /-- The words were no command line. -/
  | misused
deriving DecidableEq, Repr

namespace Outcome

/-- The code for the caller. -/
def code : Outcome → Nat
  | .printed _ => 0
  | .failed _ => 1
  | .misused => 2

/-- An error as it is reported. -/
def errorText (message : String) : String :=
  "Error: " ++ message

/-- The first line of a text that is printed as whole lines. A line ends at a line feed, the
last one too, and a carriage return before the line feed belongs to the end. -/
def firstLine (text : String) : String :=
  let line := text.toList.takeWhile (· != '\n')
  String.ofList (if line.getLast? = some '\r' then line.dropLast else line)

end Outcome

namespace Request

/-- The configuration of a request, given the contents of files by their paths. -/
def configuration (request : Request) (contents : String → Option String) :
    Except Outcome Configuration :=
  match request.options.configuration with
  | none => .ok .default
  | some path => match (contents path).bind Configuration.read with
    | some configuration => .ok configuration
    | none => .error (.failed ("Failed to load config file: " ++ path))

/-- A report as it is printed. -/
def printed (request : Request) (report : Probe.Report) : String :=
  (if request.options.isJson then report.json.pretty else report.text) ++ "\n"

/-- Execute a request; none when members call one another too deep. -/
def execute (request : Request) (configuration : Configuration) : Option Outcome :=
  let execution := request.command.execute Probe.Sample.registry configuration
  (execution.run .empty).map fun (result, _) => match result with
    | .ok report => .printed (request.printed report)
    | .error failure => .failed failure.message

/-- Answer a request. -/
def answer (request : Request) (contents : String → Option String) : Option Outcome :=
  match request.configuration contents with
  | .ok configuration => request.execute configuration
  | .error outcome => some outcome

end Request

/-- Answer a command line, given the contents of files by their paths. -/
def answer (words : List String) (contents : String → Option String) : Option Outcome :=
  match Request.read words with
  | .ok request => request.answer contents
  | .error (.shown text) => some (.printed text)
  | .error .misused => some .misused

/-- Answer a command line that is given where the files of a tree are. -/
def answerIn (tree : FileTree) (words : List String) : Option Outcome :=
  answer words tree.read?

end LateBinding.CommandLine
