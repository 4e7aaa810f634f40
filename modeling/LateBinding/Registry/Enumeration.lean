import LateBinding.Registry.Hierarchy
import LateBinding.Registry.Naming

/-!
# Enumerating members

What a type offers under a name: its own members first, then those of its base classes, the
nearest first, each in declaration order. A private member belongs to its class alone, so it
is left out where it would be inherited. Constructors are not inherited and are enumerated
apart. A member is enumerated as seen from the type that declares it, with that type's
arguments in the place of the definition's parameters.
-/
namespace LateBinding

namespace Registry

/-- The declaration at a place of a definition, seen from a type of that definition. -/
def seenFrom (definition : DefinitionId) (declaring : Ty) (images : Substitution)
    (declaration : Declaration) (index : Nat) : Member :=
  let member : Member :=
    { declaration with
      id := ⟨definition, index⟩
      declaring := declaring }
  member.specialize images

/-- Everything declared on a type itself, in declaration order. The identity of a member is its
position in this order, so no two declarations of a definition share one; a definition to which one
declaration was added twice, both times under the first identity, is outside the model. -/
def declaredMembers (registry : Registry) (type : Ty) : List Member :=
  match registry.view? type, type.definition? with
  | some (definition, images), some id =>
    definition.declarations.mapIdx fun index declaration =>
      seenFrom id type images declaration index
  | _, _ => []

/-- Whether a member answers to a name; constructors do not. -/
def answersTo (name : String) (flags : BindingFlags) (member : Member) : Bool :=
  member.name = name && member.kind ≠ .constructor && flags.admits member.toDeclaration

/-- The members of a chain of types under a name: all those of the first type, and those of
the others that are not private. -/
def membersAlong (registry : Registry) (name : String) (flags : BindingFlags) :
    List Ty → List Member
  | [] => []
  | own :: inherited =>
    (registry.declaredMembers own).filter (answersTo name flags) ++
      inherited.flatMap fun type => (registry.declaredMembers type).filter fun member =>
        answersTo name flags member && member.visibility ≠ .privateAccess

/-- The members of a type under a name, own members first, constructors excepted. -/
def members (registry : Registry) (type : Ty) (name : String) (flags : BindingFlags) :
    List Member :=
  registry.membersAlong name flags (registry.baseChain type)

/-- The constructors of a type. -/
def constructors (registry : Registry) (type : Ty) (flags : BindingFlags) : List Member :=
  (registry.declaredMembers type).filter fun member =>
    member.kind = .constructor && flags.admits member.toDeclaration

/-- The first member of a type with the given kind, name and parameter types. -/
def findMember? (registry : Registry) (type : Ty) (kind : MemberKind) (name : String)
    (parameters : List Ty) : Option Member :=
  let candidates :=
    if kind = .constructor then registry.constructors type .all
    else registry.members type name .all
  candidates.find? fun member => member.kind = kind && member.parameters = parameters

/-- Every name under which a type offers members, own names first, each once. -/
def memberNames (registry : Registry) (type : Ty) : List String :=
  let declared := (registry.baseChain type).flatMap registry.declaredMembers
  ((declared.filter fun member => member.kind ≠ .constructor).map (·.name)).eraseDups

end Registry

end LateBinding
