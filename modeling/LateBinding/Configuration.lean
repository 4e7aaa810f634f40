import LateBinding.Member
import LateBinding.Toml.Document

/-!
# Configuration

What a configuration says is which members may be chosen. It is a TOML document with a table
`binding`:

```toml
[binding]
public = true
non_public = true
instance = true
static = true
```

Whatever is left out is admitted, and keys without meaning are passed over. The four settings
may also be given by position, as an array of up to four booleans.
-/
namespace LateBinding

/-- The settings of the engine. -/
structure Configuration where
  binding : BindingFlags := .all
deriving DecidableEq, Repr

namespace Configuration

/-- Every member may be chosen. -/
def default : Configuration := {}

/-- The boolean that a setting is given, or its default; any other value is refused. -/
def setting : Option Toml.Value → Option Bool
  | none => some true
  | some (.boolean b) => some b
  | some _ => none

/-- Flags of which each setting may be found and be a boolean. -/
def flagsFrom (publics nonPublics instances statics : Option Toml.Value) :
    Option BindingFlags := do
  pure
    { publics := ← setting publics
      nonPublics := ← setting nonPublics
      instances := ← setting instances
      statics := ← setting statics }

/-- The flags that a value of the key `binding` stands for. A date is read as a table without
any of the settings. -/
def flagsOfValue? : Toml.Value → Option BindingFlags
  | .table _ entries =>
    flagsFrom (entries.get? "public") (entries.get? "non_public") (entries.get? "instance")
      (entries.get? "static")
  | .array items => flagsFrom items[0]? items[1]? items[2]? items[3]?
  | .dateTime _ => some .all
  | _ => none

/-- The configuration of a document. -/
def ofDocument? (document : Toml.Table) : Option Configuration :=
  match document.get? "binding" with
  | none => some default
  | some value => (flagsOfValue? value).map fun binding => { binding }

/-- The configuration that a text holds, if it is a document of that form. -/
def read (text : String) : Option Configuration :=
  (Toml.read text).bind ofDocument?

/-- A setting in one line. -/
def settingLine (name : String) (isAdmitted : Bool) : String :=
  name ++ " = " ++ toString isAdmitted

/-- The lines of the document of a configuration, with every setting written out. -/
def lines (configuration : Configuration) : List String :=
  let flags := configuration.binding
  ["[binding]", settingLine "public" flags.publics,
   settingLine "non_public" flags.nonPublics, settingLine "instance" flags.instances,
   settingLine "static" flags.statics]

/-- The document of a configuration. Reading it gives the configuration back. -/
def document (configuration : Configuration) : String :=
  String.join (configuration.lines.map (· ++ "\n"))

end Configuration

end LateBinding
