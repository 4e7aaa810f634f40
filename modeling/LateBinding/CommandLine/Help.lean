/-!
# Help texts

What the command line says of itself. A help text consists of what the program or the verb is
for, of a line that shows how to use it, and of sections whose entries stand in two columns.
-/
namespace LateBinding.CommandLine

/-- What the program can be told to do. -/
inductive Verb
  | config
  | types
  | members
  | construct
  | invoke
deriving DecidableEq, Repr

namespace Verb

/-- The word for a verb. -/
def name : Verb → String
  | .config => "config"
  | .types => "types"
  | .members => "members"
  | .construct => "construct"
  | .invoke => "invoke"

/-- Every verb, in the order of the help text. -/
def all : List Verb := [.config, .types, .members, .construct, .invoke]

/-- The verb of a word. -/
def ofName? (word : String) : Option Verb :=
  all.find? fun verb => verb.name = word

/-- What a verb is for. -/
def about : Verb → String
  | .config => "Print the effective configuration"
  | .types => "List the registered types"
  | .members => "List the members of a type, inherited ones included"
  | .construct => "Construct a type; generic arguments are inferred when omitted"
  | .invoke => "Invoke a method, read a field or property, or raise an event"

end Verb

/-- What a section says of one thing. -/
structure HelpEntry where
  label : String
  description : String := ""

/-- Entries under a title. -/
structure HelpSection where
  title : String
  entries : List HelpEntry

/-- A help text. -/
structure Help where
  about : String
  usage : String
  sections : List HelpSection

namespace Help

/-- The name of the program. -/
def program : String := "mirror-probe"

/-- The version of the program, as it is shown. -/
def version : String := program ++ " 0.2.0\n"

/-- A section as lines. Descriptions begin two spaces after the longest label. -/
def sectionLines (helpSection : HelpSection) : List String :=
  let width := helpSection.entries.foldl (fun widest entry => max widest entry.label.length) 0
  (helpSection.title ++ ":") :: helpSection.entries.map fun entry =>
    "  " ++ entry.label ++ "".pushn ' ' (width - entry.label.length + 2) ++ entry.description

/-- A help text as it is shown. -/
def text (help : Help) : String :=
  let blocks := [[help.about], ["Usage: " ++ help.usage]] ++ help.sections.map sectionLines
  "\n\n".intercalate (blocks.map "\n".intercalate) ++ "\n"

/-- The entry for asking for help. -/
def helpOption : HelpEntry := ⟨"-h, --help", "Print help"⟩

/-- What a verb is told besides its name. -/
def argumentsOf : Verb → List HelpEntry
  | .config | .types => []
  | .members => [⟨"<TY>", "Type name, e.g. \x60Box<i32>\x60"⟩]
  | .construct => [⟨"<TY>", ""⟩, ⟨"[ARGS]...", "Argument literals"⟩]
  | .invoke => [⟨"<TY>", ""⟩, ⟨"<MEMBER>", ""⟩, ⟨"[ARGS]...", "Argument literals"⟩]

/-- The help of a verb. -/
def ofVerb (verb : Verb) : Help :=
  let arguments := argumentsOf verb
  { about := verb.about
    usage := " ".intercalate ([program, verb.name] ++ arguments.map (·.label))
    sections :=
      (if arguments.isEmpty then [] else [⟨"Arguments", arguments⟩]) ++
        [⟨"Options", [helpOption]⟩] }

/-- What the verb that asks for help is for. -/
def aboutHelp : String := "Print this message or the help of the given subcommand(s)"

/-- The help on asking for help. -/
def ofHelp : Help :=
  { about := aboutHelp
    usage := program ++ " help [COMMAND]..."
    sections := [⟨"Arguments", [⟨"[COMMAND]...", "Print help for the subcommand(s)"⟩]⟩] }

/-- The help of the program. -/
def root : Help :=
  { about := "Resolve and invoke members of a sample type registry"
    usage := program ++ " [OPTIONS] <COMMAND>"
    sections :=
      [⟨"Commands", Verb.all.map (fun verb => ⟨verb.name, verb.about⟩) ++ [⟨"help", aboutHelp⟩]⟩,
       ⟨"Options",
        [⟨"-c, --config <CONFIG>", "Configuration file path (TOML)"⟩,
         ⟨"    --json", "Print reports as JSON"⟩,
         ⟨"-v, --verbose", "Verbose output"⟩,
         helpOption,
         ⟨"-V, --version", "Print version"⟩]⟩] }

end Help

end LateBinding.CommandLine
