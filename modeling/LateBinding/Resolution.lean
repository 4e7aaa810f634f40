import LateBinding.Error
import LateBinding.Inference.Unification
import LateBinding.Registry.Enumeration
import LateBinding.Registry.Naming

/-!
# Resolving a member

The candidates for a call are the members of the searched type with the wanted name and kind,
in the order of enumeration. They are unified with the call site one after the other, and the
first that fits is selected: no candidate is ranked above another, and none is ambiguous.

A selected member is then closed. If its declaring type is open, that type is closed with the
inferred arguments, and the member is looked up there by kind, name and parameter types; the
member's own parameters get their arguments last. A generic definition is applied to as many
arguments as it has parameters, and so is a generic method; any other number is an error.
-/
namespace LateBinding

/-- Where and how a member is looked for. -/
structure CallSite where
  /-- The type whose members are searched. -/
  type : Ty
  name : String
  kind : MemberKind
  /-- The type of the receiver of instance members. -/
  receiver : Option Ty
  /-- The types of the arguments, none for null. -/
  arguments : List (Option Ty)
  /-- The type at which the result is used. -/
  expected : Option Ty
deriving DecidableEq, Repr

/-- The first candidate that fits a call site. -/
structure Selected where
  candidate : Member
  matched : Match
deriving Repr

/-- A selected member together with its closed form, ready to run. -/
structure Resolved extends Selected where
  member : Member
deriving Repr

/-- That no candidate fits, with the reason for each in order. -/
structure NoMatch where
  site : CallSite
  rejected : List (Member × MatchFailure)
deriving Repr

namespace Registry

/-- The members that a search considers, in order. Constructors go by their kind alone. -/
def candidates (registry : Registry) (flags : BindingFlags) (type : Ty) (name : String)
    (kind : MemberKind) : List Member :=
  if kind = .constructor then registry.constructors type flags
  else (registry.members type name flags).filter (·.kind = kind)

/-- The first candidate that unifies, or every candidate with the reason it does not. -/
def selectFirst (registry : Registry) (site : CallSite) :
    List Member → Except (List (Member × MatchFailure)) Selected
  | [] => .error []
  | candidate :: rest =>
    match registry.unify candidate site.receiver site.arguments site.expected with
    | .ok matched => .ok ⟨candidate, matched⟩
    | .error failure => match registry.selectFirst site rest with
      | .ok selected => .ok selected
      | .error rejected => .error ((candidate, failure) :: rejected)

/-- Select the first candidate that fits a call site. -/
def resolve (registry : Registry) (flags : BindingFlags) (site : CallSite) :
    Except NoMatch Selected :=
  (registry.selectFirst site (registry.candidates flags site.type site.name site.kind)).mapError
    (⟨site, ·⟩)

/-- That nothing fits, as an error. -/
def noMatchError (registry : Registry) (failure : NoMatch) : Error :=
  let type := registry.typeName failure.site.type
  if failure.site.kind.isCallable then .missingMethod type failure.site.name
  else .missingMember type failure.site.name

/-- Apply a definition to arguments. -/
def closeType (registry : Registry) (id : DefinitionId) (arguments : List Ty) : Except Error Ty :=
  let expected := (registry.parameters id).length
  if expected = arguments.length then .ok (.named id arguments)
  else .error (.typeArgumentCount (registry.definitionName id) expected arguments.length)

/-- Give a method's own parameters arguments. -/
def closeMethod (registry : Registry) (member : Member) (arguments : List Ty) :
    Except Error Member :=
  if member.generics.length = arguments.length then .ok (member.closeMethod arguments)
  else .error (.typeArgumentCount (registry.memberPath member) member.generics.length
    arguments.length)

/-- The member of a closed type that a matched member of the open type becomes: the one of its
kind and name whose parameter types are those of the match. -/
def reopen (registry : Registry) (member : Member) (matched : Match) : Except Error Member :=
  match member.declaring.definition? with
  | none => .error (.cannotInfer (registry.memberPath member))
  | some id => do
    let type ← registry.closeType id matched.typeArguments
    match registry.findMember? type member.kind member.name matched.parameterTypes with
    | some closed => pure closed
    | none => throw (.missingMember (registry.typeName type) member.name)

/-- Close a matched member. -/
def close (registry : Registry) (member : Member) (matched : Match) : Except Error Member := do
  let closed ← if member.declaring.isOpen then registry.reopen member matched else pure member
  if closed.hasOpenMethodParameters then registry.closeMethod closed matched.methodArguments
  else pure closed

/-- Select the first candidate that fits a call site and close it. -/
def resolveMember (registry : Registry) (flags : BindingFlags) (site : CallSite) :
    Except Error Resolved :=
  match registry.resolve flags site with
  | .ok selected => do
    let member ← registry.close selected.candidate selected.matched
    pure { selected with member }
  | .error failure => .error (registry.noMatchError failure)

/-- From an overriding property to the nearest property of the same name and index types above
its declaring type, as long as there is one, for a number of steps. -/
def baseDefinitionWithin (registry : Registry) : (steps : Nat) → Member → Member
  | 0, property => property
  | steps + 1, property =>
    if property.isOverride then
      match (registry.baseType? property.declaring).bind fun base =>
          registry.findMember? base property.kind property.name property.parameters with
      | some overridden => registry.baseDefinitionWithin steps overridden
      | none => property
    else property

/-- The property that an override goes back to. -/
def baseDefinition (registry : Registry) (property : Member) : Member :=
  registry.baseDefinitionWithin registry.searchLimit property

end Registry

end LateBinding
