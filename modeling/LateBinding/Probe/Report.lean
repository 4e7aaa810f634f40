import LateBinding.Configuration
import LateBinding.Json
import LateBinding.Registry.Enumeration
import LateBinding.Store

/-!
# Reports

What the probe answers: the configuration in effect, the types of a registry, the members of a
type, or a value. A report can be shown as text, for people, and as JSON, for programs; both
say the same.
-/
namespace LateBinding.Probe

/-- A type in a listing. -/
structure TypeReport where
  name : String
  kind : DefinitionKind
  base : Option String
  /-- How many members the type declares itself. -/
  members : Nat
deriving Repr

/-- A member in a listing. -/
structure MemberReport where
  kind : MemberKind
  signature : String
  /-- The type that declares the member, as seen from the listed type. -/
  declaredIn : String
deriving Repr

/-- The answer to a command. -/
inductive Report
  | configuration (settings : Configuration)
  | types (listed : List TypeReport)
  | members (type : String) (listed : List MemberReport)
  /-- A value with the name of its type, both as text. -/
  | value (type shown : String)
deriving Repr

namespace TypeReport

/-- What is reported of the definition at a place. -/
def ofDefinition (registry : Registry) (definition : Definition) (id : DefinitionId) :
    TypeReport :=
  { name := registry.typeName (registry.openType id)
    kind := definition.kind
    base := definition.base.map registry.typeName
    members := definition.declarations.length }

end TypeReport

namespace MemberReport

/-- What is reported of a member. -/
def ofMember (registry : Registry) (member : Member) : MemberReport :=
  { kind := member.kind
    signature := registry.signature member
    declaredIn := registry.typeName member.declaring }

end MemberReport

namespace Report

/-- The listing of a registry. -/
def ofRegistry (registry : Registry) : Report :=
  .types (registry.definitions.mapIdx fun index definition =>
    TypeReport.ofDefinition registry definition ⟨index⟩)

/-- The members that are listed for a type: its constructors, then all that it offers under
any name. -/
def listedMembers (registry : Registry) (flags : BindingFlags) (type : Ty) : List Member :=
  registry.constructors type flags ++
    (registry.memberNames type).flatMap fun name => registry.members type name flags

/-- The listing of a type. -/
def ofType (registry : Registry) (flags : BindingFlags) (type : Ty) : Report :=
  .members (registry.typeName type)
    ((listedMembers registry flags type).map (MemberReport.ofMember registry))

/-- A value as it is in a store. -/
def ofValue (registry : Registry) (store : Store) (value : Value) : Report :=
  .value (registry.typeNameOrNull value.type?) (store.display value)

/-! ## Text -/

/-- A text filled up with spaces to a number of characters. -/
def padded (width : Nat) (content : String) : String :=
  content ++ "".pushn ' ' (width - content.length)

/-- The width of the column of names: the greatest size of a name in bytes. -/
def nameWidth (types : List TypeReport) : Nat :=
  types.foldl (fun widest type => max widest type.name.utf8ByteSize) 0

/-- A type in one line. -/
def typeLine (width : Nat) (type : TypeReport) : String :=
  padded width type.name ++ "  " ++ padded 9 type.kind.name ++ "  " ++ toString type.members ++
    " member(s)" ++ (type.base.elim "" fun base => "  : " ++ base)

/-- A member in one line, with its origin when that is another type than the listed one. -/
def memberLine (listed : String) (member : MemberReport) : String :=
  "  " ++ padded 11 member.kind.name ++ "  " ++ member.signature ++
    (if member.declaredIn = listed then "" else "  (from " ++ member.declaredIn ++ ")")

/-- A report as lines of text. -/
def lines : Report → List String
  | .configuration settings => settings.lines
  | .types listed => listed.map (typeLine (nameWidth listed))
  | .members type listed => type :: listed.map (memberLine type)
  | .value type shown => [shown ++ ": " ++ type]

/-- A report as text. -/
def text (report : Report) : String :=
  "\n".intercalate report.lines

/-! ## JSON -/

/-- A configuration as JSON. -/
def configurationJson (configuration : Configuration) : Json :=
  let flags := configuration.binding
  .object [("binding", .object
    [("public", .boolean flags.publics), ("non_public", .boolean flags.nonPublics),
     ("instance", .boolean flags.instances), ("static", .boolean flags.statics)])]

/-- A type as JSON; the base is left out when there is none. -/
def typeJson (type : TypeReport) : Json :=
  .object ([("name", .text type.name), ("kind", .text type.kind.name)] ++
    (type.base.map fun base => ("base", Json.text base)).toList ++
    [("members", .number type.members)])

/-- A member as JSON. -/
def memberJson (member : MemberReport) : Json :=
  .object [("kind", .text member.kind.name), ("signature", .text member.signature),
    ("declared_in", .text member.declaredIn)]

/-- The fields of a report, the sort of report first. -/
def fields : Report → List (String × Json)
  | .configuration settings =>
    [("report", .text "config"), ("config", configurationJson settings)]
  | .types listed => [("report", .text "types"), ("types", .array (listed.map typeJson))]
  | .members type listed =>
    [("report", .text "members"), ("ty", .text type), ("members", .array (listed.map memberJson))]
  | .value type shown =>
    [("report", .text "value"), ("type", .text type), ("value", .text shown)]

/-- A report as JSON. -/
def json (report : Report) : Json :=
  .object report.fields

end Report

end LateBinding.Probe
