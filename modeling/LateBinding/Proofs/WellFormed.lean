import LateBinding.Proofs.Substitution
import LateBinding.Registry
import Mathlib.Logic.Relation
import Mathlib.Tactic.MkIffOfInductiveProp

/-!
# Well-formed registries

The statements about inference and calls hold of registries whose definitions make sense: each
definition is applied to as many arguments as it has parameters wherever its name is written,
bases and interfaces are named types over the definition's own parameters, a signature mentions
no other parameters than those of its definition and of its declaration, and no definition
stands above itself. `Registry.WellFormed` says this, together with the bound on searches that
`Registry.ofDefinitions` chooses.

The conditions on a single definition are decidable. Acyclicity is not read off one definition;
`WellFormed.of_definitions` obtains it for registries in which parents are defined first.
-/
namespace LateBinding

/-- The parameters of a declaration's own, when it stands at a place of a definition. -/
def Declaration.methodParameters (declaration : Declaration) (id : MemberId) : List Parameter :=
  (List.range declaration.generics.length).map fun index => ⟨.member id, index⟩

/-- The types that a declaration writes down. -/
def Declaration.signature (declaration : Declaration) : List Ty :=
  declaration.type :: declaration.parameters

namespace Registry

mutual

/-- Whether every definition named in the type exists and has as many parameters as it is given
arguments. -/
def wellApplied (registry : Registry) : Ty → Bool
  | .named id arguments =>
    ((registry.definition? id).any fun definition =>
      definition.generics.length = arguments.length) && allWellApplied registry arguments
  | _ => true

/-- Whether this holds of each of the types. -/
def allWellApplied (registry : Registry) : List Ty → Bool
  | [] => true
  | type :: rest => wellApplied registry type && allWellApplied registry rest

end

/-- A definition stands directly below those that its parents name. -/
def StandsBelow (registry : Registry) (child parent : DefinitionId) : Prop :=
  ∃ definition, registry.definition? child = some definition ∧
    ∃ type ∈ definition.parents, type.definition? = some parent

end Registry

/-- What is asked of a definition at its place in a registry. -/
@[mk_iff]
structure Definition.WellFormed (registry : Registry) (id : DefinitionId)
    (definition : Definition) : Prop where
  parents_named : ∀ parent ∈ definition.parents, parent.definition?.isSome
  parents_applied : ∀ parent ∈ definition.parents, registry.wellApplied parent
  parents_scoped : ∀ parent ∈ definition.parents, ∀ p ∈ parent.occurrences,
    p ∈ definition.parameters id
  signatures_applied : ∀ declaration ∈ definition.declarations,
    ∀ type ∈ declaration.signature, registry.wellApplied type
  signatures_scoped : ∀ entry ∈ definition.declarations.zipIdx,
    ∀ type ∈ entry.1.signature, ∀ p ∈ type.occurrences,
      p ∈ definition.parameters id ∨ p ∈ entry.1.methodParameters ⟨id, entry.2⟩

instance (registry : Registry) (id : DefinitionId) (definition : Definition) :
    Decidable (definition.WellFormed registry id) :=
  decidable_of_iff _ (Definition.wellFormed_iff registry id definition).symm

/-- A registry whose definitions are well formed, whose hierarchy has no cycle, and whose
searches are bounded as generously as for a registry made from its definitions. -/
structure Registry.WellFormed (registry : Registry) : Prop where
  definitions : ∀ {id definition}, registry.definition? id = some definition →
    definition.WellFormed registry id
  acyclic : ∀ id, ¬ Relation.TransGen registry.StandsBelow id id
  limit : Registry.adequateLimit registry.definitions ≤ registry.searchLimit

namespace Definition

/-- No parameter of a definition is listed twice, as each has its own index. -/
theorem parameters_nodup (definition : Definition) (id : DefinitionId) :
    (definition.parameters id).Nodup := by
  apply List.Nodup.map _ List.nodup_range
  intro left right same
  exact congrArg Parameter.index same

/-- There is one for each generic name. -/
@[simp] theorem length_parameters (definition : Definition) (id : DefinitionId) :
    (definition.parameters id).length = definition.generics.length := by
  simp [parameters]

/-- The parameters of a definition are not those of a declaration. -/
theorem isMethodLevel_of_mem_parameters {definition : Definition} {id : DefinitionId}
    {parameter : Parameter} (inside : parameter ∈ definition.parameters id) :
    parameter.isMethodLevel = false := by
  obtain ⟨index, _, rfl⟩ := List.mem_map.mp inside
  rfl

end Definition

namespace Declaration

/-- The same of the own parameters of a method. -/
theorem methodParameters_nodup (declaration : Declaration) (id : MemberId) :
    (declaration.methodParameters id).Nodup := by
  apply List.Nodup.map _ List.nodup_range
  intro left right same
  exact congrArg Parameter.index same

/-- There is one for each generic name of the method. -/
@[simp] theorem length_methodParameters (declaration : Declaration) (id : MemberId) :
    (declaration.methodParameters id).length = declaration.generics.length := by
  simp [methodParameters]

/-- The parameters of a declaration are not those of a definition. -/
theorem isMethodLevel_of_mem_methodParameters {declaration : Declaration} {id : MemberId}
    {parameter : Parameter} (inside : parameter ∈ declaration.methodParameters id) :
    parameter.isMethodLevel = true := by
  obtain ⟨index, _, rfl⟩ := List.mem_map.mp inside
  rfl

end Declaration

namespace Registry

/-- Several types are well applied when each of them is. -/
theorem allWellApplied_eq (registry : Registry) (types : List Ty) :
    registry.allWellApplied types = types.all registry.wellApplied := by
  induction types with
  | nil => rfl
  | cons type rest inductionHypothesis => simp [allWellApplied, inductionHypothesis]

/-- A named type is well applied when its definition exists and takes as many arguments, all of
them well applied. -/
theorem wellApplied_named_iff (registry : Registry) (id : DefinitionId) (arguments : List Ty) :
    registry.wellApplied (.named id arguments) = true ↔
      (∃ definition, registry.definition? id = some definition ∧
        definition.generics.length = arguments.length) ∧
      ∀ argument ∈ arguments, registry.wellApplied argument = true := by
  simp [wellApplied, allWellApplied_eq, Option.any_eq_true]

/-- A well-applied named type has an argument for each parameter of its definition. -/
theorem length_of_wellApplied {registry : Registry} {id : DefinitionId} {arguments : List Ty}
    (applied : registry.wellApplied (.named id arguments) = true) {definition : Definition}
    (found : registry.definition? id = some definition) :
    definition.generics.length = arguments.length := by
  obtain ⟨⟨stored, again, count⟩, _⟩ := (registry.wellApplied_named_iff id arguments).mp applied
  obtain rfl : definition = stored := Option.some.inj (found.symm.trans again)
  exact count

/-- The arguments of a well-applied type are well applied. -/
theorem wellApplied_argument {registry : Registry} {id : DefinitionId} {arguments : List Ty}
    (applied : registry.wellApplied (.named id arguments) = true) {argument : Ty}
    (inside : argument ∈ arguments) : registry.wellApplied argument = true :=
  ((registry.wellApplied_named_iff id arguments).mp applied).2 argument inside

/-- A parameter is applied to nothing that could be too many or too few. -/
@[simp] theorem wellApplied_parameter (registry : Registry) (parameter : Parameter) :
    registry.wellApplied (.parameter parameter) = true := rfl

/-- A substitution that puts well-applied types in the place of a type's parameters keeps the
type well applied. -/
theorem wellApplied_replace {registry : Registry} {images : Substitution} {type : Ty}
    (applied : registry.wellApplied type = true)
    (imagesApplied : ∀ p ∈ type.occurrences, registry.wellApplied (images.image p) = true) :
    registry.wellApplied (type.replace images) = true := by
  induction type using Ty.induction with
  | primitive p => rfl
  | object => rfl
  | delegate => rfl
  | parameter p => exact imagesApplied p (by simp)
  | named id arguments inductionHypothesis =>
    obtain ⟨⟨definition, found, count⟩, each⟩ :=
      (registry.wellApplied_named_iff id arguments).mp applied
    rw [Ty.replace_named, wellApplied_named_iff]
    refine ⟨⟨definition, found, by simpa using count⟩, ?_⟩
    intro argument member
    obtain ⟨original, inside, rfl⟩ := List.mem_map.mp member
    apply inductionHypothesis original inside (each original inside)
    intro p occurs
    exact imagesApplied p (by simpa using ⟨original, inside, occurs⟩)

end Registry

/-! ## A type written inside a definition, seen from an instantiation -/

section Instantiation

variable {registry : Registry} {id : DefinitionId} {definition : Definition}
  {arguments : List Ty}

/-- What an instantiation puts in the place of the definition's parameters. -/
def Definition.images (definition : Definition) (id : DefinitionId) (arguments : List Ty) :
    Substitution :=
  .ofParameters (definition.parameters id) arguments

/-- A named type is seen through its definition, with its arguments in place of the parameters. -/
theorem Registry.view?_named (found : registry.definition? id = some definition) :
    registry.view? (.named id arguments) = some (definition, definition.images id arguments) := by
  rw [view?, found]
  rfl

/-- Only named types are seen through a definition. -/
theorem Registry.view?_eq_some {type : Ty} {images : Substitution}
    (seen : registry.view? type = some (definition, images)) :
    ∃ id arguments, type = .named id arguments ∧ registry.definition? id = some definition ∧
      images = definition.images id arguments := by
  cases type with
  | named id arguments =>
    obtain ⟨stored, found, same⟩ := Option.map_eq_some_iff.mp seen
    obtain ⟨rfl, rfl⟩ := Prod.mk.inj same
    exact ⟨id, arguments, rfl, found, rfl⟩
  | primitive p => simp [view?] at seen
  | object => simp [view?] at seen
  | delegate => simp [view?] at seen
  | parameter p => simp [view?] at seen

/-- The images of the definition's parameters are the arguments, in order. -/
theorem Definition.map_images (count : definition.generics.length = arguments.length) :
    (definition.parameters id).map (definition.images id arguments).image = arguments :=
  Substitution.map_image_ofParameters (definition.parameters_nodup id) (by simpa using count)

/-- The definition's own parameters become arguments. -/
theorem Definition.image_mem (count : definition.generics.length = arguments.length)
    {parameter : Parameter} (own : parameter ∈ definition.parameters id) :
    (definition.images id arguments).image parameter ∈ arguments :=
  Substitution.image_ofParameters_mem (definition.parameters_nodup id) (by simpa using count) own

/-- Every other parameter stays. -/
theorem Definition.image_of_not_mem {parameter : Parameter}
    (foreign : parameter ∉ definition.parameters id) :
    (definition.images id arguments).image parameter = .parameter parameter :=
  Substitution.image_ofParameters_of_not_mem foreign arguments

/-- A well-applied type stays so when it is seen from a well-applied instantiation. -/
theorem Registry.wellApplied_instance {type : Ty} (applied : registry.wellApplied type = true)
    (found : registry.definition? id = some definition)
    (seenFrom : registry.wellApplied (.named id arguments) = true) :
    registry.wellApplied (type.replace (definition.images id arguments)) = true := by
  apply wellApplied_replace applied
  intro p _
  by_cases own : p ∈ definition.parameters id
  · have count := length_of_wellApplied seenFrom found
    exact wellApplied_argument seenFrom (Definition.image_mem count own)
  · rw [Definition.image_of_not_mem own, wellApplied_parameter]

/-- A parameter that is left in a type seen from an instantiation occurs in an argument, or was
there before and is none of the definition's. -/
theorem Definition.mem_occurrences_instance {type : Ty}
    (count : definition.generics.length = arguments.length) {parameter : Parameter}
    (left : parameter ∈ (type.replace (definition.images id arguments)).occurrences) :
    parameter ∈ (Ty.named id arguments).occurrences ∨
      parameter ∈ type.occurrences ∧ parameter ∉ definition.parameters id := by
  rw [Ty.occurrences_replace, List.mem_flatMap] at left
  obtain ⟨original, occurs, inside⟩ := left
  by_cases own : original ∈ definition.parameters id
  · left
    rw [Ty.occurrences_named, List.mem_flatMap]
    exact ⟨_, Definition.image_mem count own, inside⟩
  · rw [Definition.image_of_not_mem own, Ty.occurrences_parameter, List.mem_singleton] at inside
    exact Or.inr (inside ▸ ⟨occurs, own⟩)

end Instantiation

/-- Where each step leads to an earlier place no path comes back. -/
theorem Registry.acyclic_of_earlier {step : DefinitionId → DefinitionId → Prop}
    (earlier : ∀ {child parent}, step child parent → parent.index < child.index)
    (id : DefinitionId) : ¬ Relation.TransGen step id id := by
  have descends : ∀ parent, Relation.TransGen step id parent → parent.index < id.index := by
    intro parent path
    induction path with
    | single first => exact earlier first
    | tail _ next inductionHypothesis => exact Nat.lt_trans (earlier next) inductionHypothesis
  exact fun cycle => Nat.lt_irrefl _ (descends id cycle)

namespace Registry.WellFormed

/-- A registry whose definitions are well formed and name parents that are defined before them
is well formed. -/
theorem of_definitions (definitions : List Definition)
    (each : ∀ entry ∈ definitions.zipIdx,
      entry.1.WellFormed (Registry.ofDefinitions definitions) ⟨entry.2⟩)
    (earlier : ∀ entry ∈ definitions.zipIdx, ∀ type ∈ entry.1.parents,
      ∀ parent, type.definition? = some parent → parent.index < entry.2) :
    (Registry.ofDefinitions definitions).WellFormed := by
  have entries : ∀ {id definition}, (Registry.ofDefinitions definitions).definition? id =
      some definition → (definition, id.index) ∈ definitions.zipIdx := by
    intro id definition found
    exact List.mk_mem_zipIdx_iff_getElem?.mpr found
  refine ⟨fun found => each _ (entries found), Registry.acyclic_of_earlier ?_, Nat.le_refl _⟩
  rintro child parent ⟨definition, found, type, member, named⟩
  exact earlier _ (entries found) type member _ named

variable {registry : Registry} (sound : registry.WellFormed)
include sound

/-- A search has at least one step. -/
theorem limit_pos : 0 < registry.searchLimit :=
  Nat.lt_of_lt_of_le (by unfold Registry.adequateLimit; omega) sound.limit

end Registry.WellFormed

end LateBinding
