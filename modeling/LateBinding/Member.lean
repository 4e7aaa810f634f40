import LateBinding.Script
import LateBinding.Substitution

/-!
# Members

A declaration is what a definition says of one constructor, method, field, property or event,
in terms of the definition's parameters and of the declaration's own. A member is a
declaration seen from a type: it knows which declaration it is, the type it is seen from, and
which arguments its own parameters were given. Closing a member only ever substitutes; the
identity, the flags and the body stay those of the declaration.
-/
namespace LateBinding

/-- What a member is. -/
inductive MemberKind
  | constructor
  | method
  | field
  | property
  | event
deriving DecidableEq, Inhabited, Repr

/-- Methods and constructors are called; the other kinds are not. -/
def MemberKind.isCallable : MemberKind → Bool
  | .constructor | .method => true
  | .field | .property | .event => false

/-- The name by which a kind of member is reported. -/
def MemberKind.name : MemberKind → String
  | .constructor => "constructor"
  | .method => "method"
  | .field => "field"
  | .property => "property"
  | .event => "event"

/-- Who may see a member. -/
inductive Visibility
  | publicAccess
  | protectedAccess
  | privateAccess
deriving DecidableEq, Inhabited, Repr

/-- The name by which a visibility is reported. -/
def Visibility.name : Visibility → String
  | .publicAccess => "public"
  | .protectedAccess => "protected"
  | .privateAccess => "private"

/-- What executing a member does. -/
inductive Body
  /-- Run a script; a constructor's receives the new object. -/
  | native (script : Script)
  /-- Read or write a slot of the object, or of the type when static. -/
  | field
  /-- Run a script per direction; a setter's receives the value as its last argument. -/
  | property (getter setter : Option Script)
  /-- Nothing by itself: the subscribers live in the named field. -/
  | event (field : String)
deriving Repr

instance : Inhabited Body := ⟨.field⟩

/-- A body in one line; scripts themselves are not shown. -/
def Body.text : Body → String
  | .native _ => "Native"
  | .field => "Field"
  | .property getter setter =>
    "Property \x7b get: " ++ toString getter.isSome ++ ", set: " ++ toString setter.isSome ++
      " \x7d"
  | .event store => "Event \x7b field: " ++ Text.quoted store ++ " \x7d"

/-- What a definition says of one of its members. -/
structure Declaration where
  name : String
  kind : MemberKind
  /-- The names of the member's own parameters. -/
  generics : List String := []
  /-- The types of the parameters, or of a property's indices. -/
  parameters : List Ty := []
  /-- The type of the result, or of the field, property or event. -/
  type : Ty := .unit
  visibility : Visibility := .publicAccess
  isStatic : Bool := false
  isOverride : Bool := false
  body : Body := .field
deriving Inhabited, Repr

namespace Declaration

/-- Constructors are all named alike. -/
def constructorName : String := "new"

/-- An event is declared as two members of one name: the private field that holds its
handlers, and the event. -/
def event (name : String) : List Declaration :=
  [{ name, kind := .field, type := .delegate, visibility := .privateAccess },
   { name, kind := .event, type := .delegate, body := .event name }]

end Declaration

/-- A declaration seen from a type. -/
structure Member extends Declaration where
  id : MemberId
  /-- The type from which the declaration is seen; open while it has parameters. -/
  declaring : Ty
  /-- The arguments of the member's own parameters, once it is closed. -/
  methodArguments : List Ty := []
deriving Repr

namespace Member

/-- The member's own parameters. -/
def methodParameters (member : Member) : List Parameter :=
  (List.range member.generics.length).map fun index => ⟨.member member.id, index⟩

/-- Whether the member's own parameters still wait for arguments. -/
def hasOpenMethodParameters (member : Member) : Bool :=
  !member.generics.isEmpty && member.methodArguments.isEmpty

/-- Whether anything in the member still waits for arguments. -/
def isOpen (member : Member) : Bool :=
  member.declaring.isOpen || member.hasOpenMethodParameters ||
    member.parameters.any Ty.isOpen || member.type.isOpen

/-- The index parameters of a property; other kinds have none. -/
def indexParameters (member : Member) : List Ty :=
  match member.kind with
  | .property => member.parameters
  | _ => []

/-- Substitute in the parameters and the type. -/
def specialize (member : Member) (images : Substitution) : Member :=
  { member with
    parameters := member.parameters.map (Ty.substitute images)
    type := member.type.substitute images }

/-- Give the member's own parameters arguments. -/
def closeMethod (member : Member) (arguments : List Ty) : Member :=
  { member.specialize (.ofParameters member.methodParameters arguments) with
    methodArguments := arguments }

end Member

/-- Which members an enumeration admits. -/
structure BindingFlags where
  publics : Bool := true
  nonPublics : Bool := true
  instances : Bool := true
  statics : Bool := true
deriving DecidableEq, Repr

namespace BindingFlags

/-- Admit everything. -/
def all : BindingFlags := {}

/-- The flags as the bits of a number: public 1, other visibilities 2, instance 4, static 8. -/
def toBits (flags : BindingFlags) : Nat :=
  flags.publics.toNat + 2 * flags.nonPublics.toNat + 4 * flags.instances.toNat +
    8 * flags.statics.toNat

/-- Admit static members only, among those admitted before. -/
def withoutInstance (flags : BindingFlags) : BindingFlags :=
  { flags with instances := false }

/-- Whether a member passes the filter on visibility and the filter on binding. -/
def admits (flags : BindingFlags) (declaration : Declaration) : Bool :=
  (match declaration.visibility with
    | .publicAccess => flags.publics
    | .protectedAccess | .privateAccess => flags.nonPublics) &&
  (if declaration.isStatic then flags.statics else flags.instances)

end BindingFlags

end LateBinding
