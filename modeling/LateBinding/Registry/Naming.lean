import LateBinding.Registry

/-!
# Names of types and members

How types, members and signatures are displayed. A named type shows its arguments between
angle brackets, a parameter the name under which it was declared. These names go into every
message, and `TypeName` reads them back.
-/
namespace LateBinding

/-- Join texts with a comma and a space. -/
def commaSeparated (texts : List String) : String :=
  ", ".intercalate texts

namespace Registry

/-- The declaration that a member identity stands for. -/
def declaration? (registry : Registry) (id : MemberId) : Option Declaration :=
  (registry.definition? id.definition).bind fun definition => definition.declarations[id.index]?

/-- The name under which a parameter was declared. -/
def parameterName (registry : Registry) (parameter : Parameter) : String :=
  let names := match parameter.owner with
    | .definition id => (registry.definition? id).elim [] (·.generics)
    | .member id => (registry.declaration? id).elim [] (·.generics)
  names.getD parameter.index ""

/-- The name of a definition. -/
def definitionName (registry : Registry) (id : DefinitionId) : String :=
  (registry.definition? id).elim "" (·.name)

mutual

/-- The display name of a type. -/
def typeName (registry : Registry) : Ty → String
  | .primitive primitive => primitive.name
  | .object => "object"
  | .delegate => "delegate"
  | .parameter parameter => registry.parameterName parameter
  | .named id arguments =>
    if arguments.isEmpty then registry.definitionName id
    else registry.definitionName id ++ "<" ++ commaSeparated (typeNames registry arguments) ++ ">"

/-- The display names of several types. -/
def typeNames (registry : Registry) : List Ty → List String
  | [] => []
  | type :: rest => typeName registry type :: typeNames registry rest

end

/-- Several types are named one by one. -/
theorem typeNames_eq (registry : Registry) (types : List Ty) :
    registry.typeNames types = types.map registry.typeName := by
  induction types with
  | nil => rfl
  | cons type rest inductionHypothesis => simp [typeNames, inductionHypothesis]

/-- The type name of an optional type, where none means null. -/
def typeNameOrNull (registry : Registry) : Option Ty → String
  | some type => registry.typeName type
  | none => "null"

/-- A member by its type and name, as messages and traces show it. -/
def memberPath (registry : Registry) (member : Member) : String :=
  registry.typeName member.declaring ++ "." ++ member.name

/-- The parameter types of a member, or its own parameters while it waits for them, between
angle brackets. -/
def genericsText (registry : Registry) (member : Member) : String :=
  if !member.methodArguments.isEmpty then
    "<" ++ commaSeparated (registry.typeNames member.methodArguments) ++ ">"
  else if !member.generics.isEmpty then "<" ++ commaSeparated member.generics ++ ">"
  else ""

/-- A member in one line. -/
def signature (registry : Registry) (member : Member) : String :=
  let parameters := commaSeparated (registry.typeNames member.parameters)
  let binding := if member.isStatic then "static " else ""
  let result := registry.typeName member.type
  match member.kind with
  | .constructor => "new(" ++ parameters ++ ")"
  | .method =>
    binding ++ member.name ++ registry.genericsText member ++ "(" ++ parameters ++ ") -> " ++ result
  | .field => binding ++ member.name ++ ": " ++ result
  | .property =>
    if member.parameters.isEmpty then binding ++ member.name ++ ": " ++ result
    else binding ++ member.name ++ "[" ++ parameters ++ "]: " ++ result
  | .event => "event " ++ member.name

end Registry

end LateBinding
