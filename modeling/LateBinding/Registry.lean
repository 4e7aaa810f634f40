import LateBinding.Member

/-!
# The registry

A registry is a list of definitions; the position of a definition is its identity. Several
definitions may share a name, and a look-up by name finds the last of them.

Nothing keeps a definition from being its own ancestor, or from having a base that grows at
each step, so a walk up the hierarchy need not end. `searchLimit` is a number of steps that
`Registry.ofDefinitions` chooses so large that in a hierarchy without cycles no walk takes as
many. A walk along base classes is cut short there. A walk through everything above a type is
not, because a hierarchy with cycles may be finite all the same.
-/
namespace LateBinding

/-- What sort of type a definition declares. Values of a struct are never null. -/
inductive DefinitionKind
  | classType
  | structType
  | interfaceType
deriving DecidableEq, Inhabited, Repr

/-- The name by which a kind of definition is reported. -/
def DefinitionKind.name : DefinitionKind → String
  | .classType => "class"
  | .structType => "struct"
  | .interfaceType => "interface"

/-- A registered definition. Base and interfaces are written in terms of its parameters. -/
structure Definition where
  name : String
  kind : DefinitionKind
  generics : List String := []
  base : Option Ty := none
  interfaces : List Ty := []
  declarations : List Declaration := []
deriving Inhabited, Repr

namespace Definition

/-- The parameters of a definition at a given place. -/
def parameters (definition : Definition) (id : DefinitionId) : List Parameter :=
  (List.range definition.generics.length).map fun index => ⟨.definition id, index⟩

/-- Whether the definition has parameters. -/
def isGeneric (definition : Definition) : Bool :=
  !definition.generics.isEmpty

/-- The types a definition stands directly below: its base, then its interfaces. -/
def parents (definition : Definition) : List Ty :=
  definition.base.toList ++ definition.interfaces

end Definition

/-- A table of definitions. -/
structure Registry where
  definitions : List Definition
  searchLimit : Nat
deriving Inhabited, Repr

namespace Registry

/-- The greatest number of parents that a definition has. -/
def breadth (definitions : List Definition) : Nat :=
  definitions.foldl (fun widest definition => max widest definition.parents.length) 0

/-- A bound on the steps of a search through a hierarchy without cycles: no path is longer
than the number of definitions, and no definition has more than `breadth` parents. The first
summand leaves room for hierarchies that have cycles and are finite all the same. -/
def adequateLimit (definitions : List Definition) : Nat :=
  1000000 + Nat.pow (breadth definitions + 2) (definitions.length + 2)

/-- The registry of the given definitions. -/
def ofDefinitions (definitions : List Definition) : Registry :=
  ⟨definitions, adequateLimit definitions⟩

/-- The definition at a place. -/
def definition? (registry : Registry) (id : DefinitionId) : Option Definition :=
  registry.definitions[id.index]?

/-- The place of the last definition of a name. -/
def find? (registry : Registry) (name : String) : Option DefinitionId :=
  let matching := registry.definitions.zipIdx.filter fun entry => entry.1.name = name
  matching.getLast?.map fun entry => ⟨entry.2⟩

/-- The parameters of the definition at a place. -/
def parameters (registry : Registry) (id : DefinitionId) : List Parameter :=
  (registry.definition? id).elim [] (·.parameters id)

/-- The definition at a place applied to its own parameters. -/
def openType (registry : Registry) (id : DefinitionId) : Ty :=
  .named id ((registry.parameters id).map .parameter)

/-- The definition of a named type, and what the type puts in the place of its parameters. -/
def view? (registry : Registry) : Ty → Option (Definition × Substitution)
  | .named id arguments => (registry.definition? id).map fun definition =>
      (definition, .ofParameters (definition.parameters id) arguments)
  | _ => none

/-- Whether null is no value of the type. -/
def isValueType (registry : Registry) : Ty → Bool
  | .primitive primitive => primitive.isValueType
  | .named id _ => (registry.definition? id).any fun definition =>
      definition.kind = .structType
  | .object | .delegate | .parameter _ => false

end Registry

end LateBinding
