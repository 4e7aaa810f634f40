import LateBinding.CommandLine.Help
import LateBinding.Probe.Command

/-!
# Reading a command line

A command line has options, then a verb, then what the verb needs. The options are

| Option | Meaning |
|---|---|
| `-c PATH`, `--config PATH` | the configuration file; also `-cPATH`, `-c=PATH`, `--config=PATH` |
| `--json` | print JSON |
| `-v`, `--verbose` | accepted for its own sake |
| `-h`, `--help`, `-V`, `--version` | print help or the version, and nothing else |

Short options may share a dash. No option may be given twice, and the path may not be empty.
After the verb only help is an option; other words that start with a dash are refused there,
unless `--` stands before them. Words are read from left to right, and the first that asks
for a text or is misplaced decides. One thing is looked at late: a path in a word of its own
is checked only when the next option comes, or at the end.
-/
namespace LateBinding.CommandLine

/-- Why the reading of a command line ended before its end. -/
inductive Ending
  /-- A text was asked for. -/
  | shown (text : String)
  /-- The words are no command line. -/
  | misused
deriving DecidableEq, Repr

/-- What the options say. -/
structure Options where
  configuration : Option String := none
  isJson : Bool := false
  isVerbose : Bool := false
deriving DecidableEq, Repr

/-- What a command line asks for. -/
structure Request where
  options : Options
  command : Probe.Command
deriving DecidableEq, Repr

/-- The options so far, with what is still open. -/
structure Progress where
  options : Options := {}
  /-- A path that was given in a word of its own and is not checked yet. -/
  pending : Option String := none
  /-- Whether the next word has to be a path. -/
  awaitsPath : Bool := false

namespace Progress

/-- Set the path of the configuration file. -/
def setConfiguration (progress : Progress) (path : String) : Except Ending Progress :=
  if path.isEmpty ∨ progress.options.configuration.isSome then .error .misused
  else .ok { progress with options := { progress.options with configuration := some path } }

/-- Check what is still open. -/
def settle (progress : Progress) : Except Ending Progress :=
  if progress.awaitsPath then .error .misused
  else match progress.pending with
    | none => .ok progress
    | some path => { progress with pending := none }.setConfiguration path

/-- Ask for JSON. -/
def setJson (progress : Progress) : Except Ending Progress :=
  if progress.options.isJson then .error .misused
  else .ok { progress with options := { progress.options with isJson := true } }

/-- Ask for verbosity. -/
def setVerbose (progress : Progress) : Except Ending Progress :=
  if progress.options.isVerbose then .error .misused
  else .ok { progress with options := { progress.options with isVerbose := true } }

/-- Read short options that share a dash. -/
def readShort : (letters : List Char) → Progress → Except Ending Progress
  | [], progress => .ok progress
  | 'c' :: rest, progress => do
    let settled ← progress.settle
    match rest with
    | [] => pure { settled with awaitsPath := true }
    | '=' :: path => settled.setConfiguration (String.ofList path)
    | path => settled.setConfiguration (String.ofList path)
  | 'v' :: rest, progress => do
    let settled ← progress.settle
    let set ← settled.setVerbose
    readShort rest set
  | 'h' :: _, progress => do
    let _ ← progress.settle
    throw (.shown Help.root.text)
  | 'V' :: _, progress => do
    let _ ← progress.settle
    throw (.shown Help.version)
  | _ :: _, _ => .error .misused

/-- Read a long option, with the value after its equals sign if there is one. -/
def readLong (name : String) (value : Option String) (progress : Progress) :
    Except Ending Progress :=
  match name, value with
  | "config", some path => do
    let settled ← progress.settle
    settled.setConfiguration path
  | "config", none => do
    let settled ← progress.settle
    pure { settled with awaitsPath := true }
  | "json", none => do
    let settled ← progress.settle
    settled.setJson
  | "verbose", none => do
    let settled ← progress.settle
    settled.setVerbose
  | "help", none => do
    let _ ← progress.settle
    throw (.shown Help.root.text)
  | "version", none => do
    let _ ← progress.settle
    throw (.shown Help.version)
  | _, _ => .error .misused

end Progress

/-- A word of a long option, split at its first equals sign. -/
def splitLong (word : List Char) : String × Option String :=
  let name := String.ofList (word.takeWhile (· != '='))
  match word.dropWhile (· != '=') with
  | [] => (name, none)
  | _ :: value => (name, some (String.ofList value))

/-! ## After the verb -/

namespace Verb

/-- How many words a verb takes at most, if there is a limit. -/
def limit? : Verb → Option Nat
  | .config | .types => some 0
  | .members => some 1
  | .construct | .invoke => none

/-- The command of a verb and its words. -/
def command? : Verb → List String → Option Probe.Command
  | .config, [] => some .config
  | .types, [] => some .types
  | .members, [type] => some (.members type)
  | .construct, type :: arguments => some (.construct type arguments)
  | .invoke, type :: member :: arguments => some (.invoke type member arguments)
  | _, _ => none

/-- Whether a verb takes one more word than it has. -/
def admitsMore (verb : Verb) (words : List String) : Bool :=
  verb.limit?.all (words.length < ·)

/-- Gather the words of a verb. `isPlain` says that dashes mean nothing any more. -/
def gather (verb : Verb) : (isPlain : Bool) → (gathered : List String) → List String →
    Except Ending (List String)
  | _, gathered, [] => .ok gathered
  | isPlain, gathered, word :: rest =>
    let take : Except Ending (List String) :=
      if verb.admitsMore gathered then verb.gather isPlain (gathered ++ [word]) rest
      else .error .misused
    if isPlain then take
    else match word.toList with
      | ['-', '-'] => verb.gather true gathered rest
      | '-' :: 'h' :: _ => .error (.shown (Help.ofVerb verb).text)
      | '-' :: _ :: _ =>
        .error (if word = "--help" then .shown (Help.ofVerb verb).text else .misused)
      | _ => take

/-- Read what follows a verb. -/
def read (verb : Verb) (words : List String) : Except Ending Probe.Command := do
  let gathered ← verb.gather false [] words
  match verb.command? gathered with
  | some command => pure command
  | none => throw .misused

end Verb

/-- What the words after `help` ask for. -/
def helpOn : List String → Ending
  | [] => .shown Help.root.text
  | ["help"] => .shown Help.ofHelp.text
  | [word] => match Verb.ofName? word with
    | some verb => .shown (Help.ofVerb verb).text
    | none => .misused
  | _ => .misused

/-! ## The whole line -/

/-- Read a command line from some progress on. -/
def readFrom : (words : List String) → Progress → Except Ending Request
  | [], _ => .error .misused
  | word :: rest, progress =>
    let asOption : Except Ending Request := match word.toList with
      | ['-', '-'] => .error .misused
      | '-' :: '-' :: option => do
        let (name, value) := splitLong option
        let after ← progress.readLong name value
        readFrom rest after
      | '-' :: letter :: letters => do
        let after ← progress.readShort (letter :: letters)
        readFrom rest after
      | _ =>
        if progress.awaitsPath then
          readFrom rest { progress with pending := some word, awaitsPath := false }
        else .error .misused
    if progress.awaitsPath then asOption
    else if word = "help" then .error (helpOn rest)
    else match Verb.ofName? word with
      | none => asOption
      | some verb => do
        let command ← verb.read rest
        let settled ← progress.settle
        pure { options := settled.options, command }

/-- Read a command line. -/
def Request.read (words : List String) : Except Ending Request :=
  readFrom words {}

end LateBinding.CommandLine
