import LateBinding.Proofs.BaseClasses
import LateBinding.Resolution

/-!
# Enumerated members

A member that a type offers is a declaration of the type's definition, or of one that stands
above it, seen from an instantiation that the type reaches. Seen from a well-applied type it
mentions well-applied types only, and no other parameters than those of that type and its own.
-/
namespace LateBinding

/-- Nothing is kept out when everything is admitted. -/
@[simp] theorem BindingFlags.admits_all (declaration : Declaration) :
    BindingFlags.all.admits declaration = true := by
  unfold admits all
  cases declaration.visibility <;> simp

namespace Substitution

/-- Parameters that are paired with images of arguments are sent to the images. -/
theorem image_ofParameters_map {parameters : List Parameter} {arguments : List Ty}
    (distinct : parameters.Nodup) (count : parameters.length = arguments.length)
    (change : Ty → Ty) {parameter : Parameter} (inside : parameter ∈ parameters) :
    (ofParameters parameters (arguments.map change)).image parameter =
      change ((ofParameters parameters arguments).image parameter) := by
  have mapped : parameters.map (ofParameters parameters (arguments.map change)).image =
      parameters.map fun p => change ((ofParameters parameters arguments).image p) := by
    rw [map_image_ofParameters distinct (by simpa using count)]
    conv_lhs => rw [← map_image_ofParameters distinct count]
    rw [List.map_map]
    rfl
  exact List.map_inj_left.mp mapped parameter inside

/-- Whether the own parameters of members are left in their places. -/
def KeepsMethodLevel (images : Substitution) : Prop :=
  ∀ p : Parameter, p.isMethodLevel = true → images.image p = .parameter p

end Substitution

/-- The arguments of a definition take the places of its own parameters only. -/
theorem Definition.keepsMethodLevel_images (definition : Definition) (id : DefinitionId)
    (arguments : List Ty) : (definition.images id arguments).KeepsMethodLevel := by
  intro p level
  apply Definition.image_of_not_mem
  intro own
  simp [Definition.isMethodLevel_of_mem_parameters own] at level

/-- A member with types put in the place of type parameters, as it is seen from another type. -/
def Member.seenAs (member : Member) (types : Substitution) (declaring : Ty) : Member :=
  { member.specialize types with declaring }

namespace Member

variable (member : Member) (types : Substitution) (declaring : Ty)

/-- The types are put into every parameter type, whatever the member is seen from. -/
@[simp] theorem seenAs_parameters : (member.seenAs types declaring).parameters =
    member.parameters.map (Ty.replace types) := by
  simp [seenAs, specialize]

/-- They are put into the type as well. -/
@[simp] theorem seenAs_type :
    (member.seenAs types declaring).type = member.type.replace types := by
  simp [seenAs, specialize]

/-- A member keeps its own parameters when it is seen from elsewhere; they wait for a call. -/
@[simp] theorem methodParameters_seenAs :
    (member.seenAs types declaring).methodParameters = member.methodParameters := rfl

end Member

namespace Registry

variable {registry : Registry}

/-- What a type itself declares: the declarations of its definition, seen from it. -/
theorem mem_declaredMembers_iff {type : Ty} {member : Member} :
    member ∈ registry.declaredMembers type ↔
      ∃ id arguments definition index declaration, type = .named id arguments ∧
        registry.definition? id = some definition ∧
        definition.declarations[index]? = some declaration ∧
        seenFrom id type (definition.images id arguments) declaration index = member := by
  constructor
  · intro listed
    cases view : registry.view? type with
    | none => simp [declaredMembers, view] at listed
    | some seen =>
      obtain ⟨definition, images⟩ := seen
      obtain ⟨id, arguments, rfl, found, rfl⟩ := view?_eq_some view
      simp only [declaredMembers, view, Ty.definition?] at listed
      obtain ⟨index, inside, same⟩ := List.mem_mapIdx.mp listed
      exact ⟨id, arguments, definition, index, _, rfl, found, List.getElem?_eq_getElem inside, same⟩
  · rintro ⟨id, arguments, definition, index, declaration, rfl, found, stored, rfl⟩
    obtain ⟨inside, rfl⟩ := List.getElem?_eq_some_iff.mp stored
    simp only [declaredMembers, view?_named found, Ty.definition?]
    exact List.mem_mapIdx.mpr ⟨index, inside, rfl⟩

/-- A declared member knows the type it is seen from, and its own parameters wait for
arguments. -/
theorem declared_facts {type : Ty} {member : Member}
    (declared : member ∈ registry.declaredMembers type) :
    member.declaring = type ∧ member.methodArguments = [] ∧
      type.definition? = some member.id.definition := by
  obtain ⟨id, arguments, definition, index, declaration, rfl, found, stored, rfl⟩ :=
    mem_declaredMembers_iff.mp declared
  exact ⟨rfl, rfl, rfl⟩

/-- The members that a named type declares, by their places. -/
theorem getElem?_declaredMembers {id : DefinitionId} {arguments : List Ty}
    {definition : Definition} (found : registry.definition? id = some definition) (index : Nat) :
    (registry.declaredMembers (.named id arguments))[index]? =
      definition.declarations[index]?.map fun declaration =>
        seenFrom id (.named id arguments) (definition.images id arguments) declaration index := by
  simp only [declaredMembers, view?_named found, Ty.definition?, List.getElem?_mapIdx]

/-- A member stands at the place that its identity gives. -/
theorem getElem?_of_declared {type : Ty} {member : Member}
    (declared : member ∈ registry.declaredMembers type) :
    (registry.declaredMembers type)[member.id.index]? = some member := by
  obtain ⟨id, arguments, definition, index, declaration, rfl, found, stored, rfl⟩ :=
    mem_declaredMembers_iff.mp declared
  rw [getElem?_declaredMembers found]
  simp only [seenFrom, Member.specialize, stored, Option.map_some]

/-- The index in an identity is the place among the declarations, so no two members of one type
share an identity. -/
theorem index_of_getElem? {type : Ty} {member : Member} {place : Nat}
    (stands : (registry.declaredMembers type)[place]? = some member) : member.id.index = place := by
  obtain ⟨id, arguments, definition, index, declaration, rfl, found, stored, rfl⟩ :=
    mem_declaredMembers_iff.mp (List.mem_of_getElem? stands)
  rw [getElem?_declaredMembers found] at stands
  obtain ⟨other, _, same⟩ := Option.map_eq_some_iff.mp stands
  exact (congrArg (fun member : Member => member.id.index) same).symm

/-- No two members of a type share an identity. -/
theorem eq_of_id_eq {type : Ty} {left right : Member}
    (leftDeclared : left ∈ registry.declaredMembers type)
    (rightDeclared : right ∈ registry.declaredMembers type) (same : left.id = right.id) :
    left = right := by
  have leftStands := getElem?_of_declared leftDeclared
  rw [same, getElem?_of_declared rightDeclared] at leftStands
  exact (Option.some.inj leftStands).symm

/-- A search of what a type declares ends at the first member that answers. -/
theorem find?_declaredMembers_iff {type : Ty} {question : Member → Bool} {found : Member} :
    (registry.declaredMembers type).find? question = some found ↔
      found ∈ registry.declaredMembers type ∧ question found = true ∧
        ∀ other ∈ registry.declaredMembers type, other.id.index < found.id.index →
          question other = false := by
  rw [List.find?_eq_some_iff_getElem]
  constructor
  · rintro ⟨answers, place, bounded, stands, before⟩
    have atPlace : found.id.index = place :=
      index_of_getElem? (List.getElem?_eq_some_iff.mpr ⟨bounded, stands⟩)
    refine ⟨stands ▸ List.getElem_mem bounded, answers, ?_⟩
    intro other declared earlier
    obtain ⟨inside, otherStands⟩ :=
      List.getElem?_eq_some_iff.mp (getElem?_of_declared declared)
    have refused := before other.id.index (atPlace ▸ earlier)
    rw [otherStands] at refused
    simpa using refused
  · rintro ⟨declared, answers, before⟩
    obtain ⟨bounded, stands⟩ := List.getElem?_eq_some_iff.mp (getElem?_of_declared declared)
    refine ⟨answers, found.id.index, bounded, stands, ?_⟩
    intro place earlier
    have inside : place < (registry.declaredMembers type).length := by omega
    have atPlace := index_of_getElem? (List.getElem?_eq_getElem inside)
    have refused := before _ (List.getElem_mem inside) (by rw [atPlace]; exact earlier)
    simpa using refused

section Seen

variable (id : DefinitionId) (type : Ty) (images : Substitution) (declaration : Declaration)
  (index : Nat)

/-- A member is declared on the type from which it is seen, arguments included. -/
@[simp] theorem seenFrom_declaring : (seenFrom id type images declaration index).declaring = type :=
  rfl

/-- Its parameter types are the written ones, with the arguments in them. -/
@[simp] theorem seenFrom_parameters :
    (seenFrom id type images declaration index).parameters =
      declaration.parameters.map (Ty.replace images) := by
  simp [seenFrom, Member.specialize]

/-- So is its type. -/
@[simp] theorem seenFrom_type :
    (seenFrom id type images declaration index).type = declaration.type.replace images := by
  simp [seenFrom, Member.specialize]

end Seen

/-! ## Where candidates come from -/

/-- A member answers to its name where it is admitted, unless it is a constructor. -/
theorem answersTo_iff {name : String} {flags : BindingFlags} {member : Member} :
    answersTo name flags member = true ↔ member.name = name ∧ member.kind ≠ .constructor ∧
      flags.admits member.toDeclaration = true := by
  simp [answersTo, and_assoc]

/-- Constructors are not inherited: only those of the type itself are listed, as far as the flags
admit them. -/
theorem mem_constructors_iff {type : Ty} {flags : BindingFlags} {member : Member} :
    member ∈ registry.constructors type flags ↔ member ∈ registry.declaredMembers type ∧
      member.kind = .constructor ∧ flags.admits member.toDeclaration = true := by
  simp [constructors]

/-- Whatever is listed along a chain is declared by one of its types and was asked for. -/
theorem mem_membersAlong {name : String} {flags : BindingFlags} {types : List Ty}
    {member : Member} (listed : member ∈ registry.membersAlong name flags types) :
    ∃ seen ∈ types, member ∈ registry.declaredMembers seen ∧
      answersTo name flags member = true := by
  cases types with
  | nil => simp [membersAlong] at listed
  | cons own inherited =>
    rw [membersAlong] at listed
    rcases List.mem_append.mp listed with here | above
    · obtain ⟨declared, answers⟩ := List.mem_filter.mp here
      exact ⟨own, List.mem_cons_self, declared, answers⟩
    · obtain ⟨seen, inside, there⟩ := List.mem_flatMap.mp above
      obtain ⟨declared, answers⟩ := List.mem_filter.mp there
      exact ⟨seen, List.mem_cons_of_mem _ inside, declared, (Bool.and_eq_true_iff.mp answers).1⟩

/-- A candidate is declared on a type that the searched type reaches, and the flags admit it. -/
theorem mem_candidates {flags : BindingFlags} {type : Ty} {name : String} {kind : MemberKind}
    {member : Member} (listed : member ∈ registry.candidates flags type name kind) :
    flags.admits member.toDeclaration = true ∧ member.kind = kind ∧
      ∃ seen, registry.Reaches type seen ∧ member ∈ registry.declaredMembers seen := by
  rw [candidates] at listed
  by_cases constructors : kind = .constructor
  · rw [if_pos constructors] at listed
    obtain ⟨declared, same, admitted⟩ := mem_constructors_iff.mp listed
    exact ⟨admitted, same.trans constructors.symm, type, .refl, declared⟩
  · rw [if_neg constructors] at listed
    obtain ⟨inside, sameKind⟩ := List.mem_filter.mp listed
    obtain ⟨seen, above, declared, answers⟩ := mem_membersAlong inside
    obtain ⟨-, -, admitted⟩ := answersTo_iff.mp answers
    exact ⟨admitted, by simpa using sameKind, seen, reaches_of_mem_basesWithin _ above, declared⟩

/-! ## Along base classes -/

namespace Rooted

variable (rooted : registry.Rooted)
include rooted

/-- No two members along the base classes of a type share an identity. -/
theorem declared_eq_of_id_eq {type : Ty} {left right : Member}
    (leftAbove : left.declaring ∈ registry.baseChain type)
    (rightAbove : right.declaring ∈ registry.baseChain type)
    (leftDeclared : left ∈ registry.declaredMembers left.declaring)
    (rightDeclared : right ∈ registry.declaredMembers right.declaring) (same : left.id = right.id) :
    left = right := by
  have sameDefinition : left.declaring.definition? = right.declaring.definition? := by
    rw [(declared_facts leftDeclared).2.2, (declared_facts rightDeclared).2.2, same]
  have sameClass : left.declaring = right.declaring :=
    List.inj_on_of_nodup_map (rooted.basesWithin_distinct _ type) leftAbove rightAbove
      sameDefinition
  exact eq_of_id_eq leftDeclared (sameClass ▸ rightDeclared) same

/-- A type offers what its base classes declare, but private members only of its own. -/
theorem mem_members_iff {type : Ty} {name : String} {flags : BindingFlags} {member : Member} :
    member ∈ registry.members type name flags ↔
      member.declaring ∈ registry.baseChain type ∧
        member ∈ registry.declaredMembers member.declaring ∧
        answersTo name flags member = true ∧
        (member.declaring = type ∨ member.visibility ≠ .privateAccess) := by
  obtain ⟨bases, chain, unrepeated⟩ := rooted.exists_bases type
  rw [members, chain, membersAlong, List.mem_append, List.mem_flatMap]
  constructor
  · rintro (own | ⟨base, above, inherited⟩)
    · obtain ⟨declared, answers⟩ := List.mem_filter.mp own
      obtain ⟨rfl, -⟩ := declared_facts declared
      exact ⟨List.mem_cons_self, declared, answers, Or.inl rfl⟩
    · obtain ⟨declared, kept⟩ := List.mem_filter.mp inherited
      obtain ⟨rfl, -⟩ := declared_facts declared
      obtain ⟨answers, visible⟩ := Bool.and_eq_true_iff.mp kept
      exact ⟨List.mem_cons_of_mem _ above, declared, answers, Or.inr (by simpa using visible)⟩
  · rintro ⟨listed, declared, answers, seen⟩
    by_cases own : member.declaring = type
    · rw [own] at declared
      exact Or.inl (List.mem_filter.mpr ⟨declared, answers⟩)
    · have above := (List.mem_cons.mp listed).resolve_left own
      have visible := seen.resolve_left own
      refine Or.inr ⟨member.declaring, above, List.mem_filter.mpr ⟨declared, ?_⟩⟩
      simp [answers, visible]

end Rooted

end Registry

/-- The types that a member mentions are well applied. -/
structure Member.Applied (registry : Registry) (member : Member) : Prop where
  declaring : registry.wellApplied member.declaring = true
  parameters : ∀ type ∈ member.parameters, registry.wellApplied type = true
  type : registry.wellApplied member.type = true

namespace Registry.WellFormed

variable {registry : Registry} (sound : registry.WellFormed)
include sound

/-- A member seen from a well-applied type mentions well-applied types. -/
theorem applied_of_declared {type : Ty} (applied : registry.wellApplied type = true)
    {member : Member} (declared : member ∈ registry.declaredMembers type) :
    member.Applied registry := by
  obtain ⟨id, arguments, definition, index, declaration, rfl, found, stored, rfl⟩ :=
    mem_declaredMembers_iff.mp declared
  have signature := (sound.definitions found).signatures_applied declaration
    (List.mem_of_getElem? stored)
  refine ⟨applied, ?_, ?_⟩
  · intro parameter inside
    obtain ⟨written, listed, rfl⟩ := List.mem_map.mp (by simpa using inside)
    exact wellApplied_instance (signature written (List.mem_cons_of_mem _ listed)) found applied
  · have typeApplied := signature declaration.type List.mem_cons_self
    simpa using wellApplied_instance typeApplied found applied

/-- It mentions no other parameters than those of the type and its own. -/
theorem scoped_of_declared {type : Ty} (applied : registry.wellApplied type = true)
    {member : Member} (declared : member ∈ registry.declaredMembers type) {mentioned : Ty}
    (inside : mentioned = member.type ∨ mentioned ∈ member.parameters) {p : Parameter}
    (occurs : p ∈ mentioned.occurrences) :
    p ∈ type.occurrences ∨ p ∈ member.methodParameters := by
  obtain ⟨id, arguments, definition, index, declaration, rfl, found, stored, rfl⟩ :=
    mem_declaredMembers_iff.mp declared
  have count := length_of_wellApplied applied found
  obtain ⟨written, listed, rfl⟩ : ∃ written ∈ declaration.signature,
      written.replace (definition.images id arguments) = mentioned := by
    rcases inside with rfl | inside
    · exact ⟨declaration.type, List.mem_cons_self, by simp⟩
    · obtain ⟨written, listed, same⟩ := List.mem_map.mp (by simpa using inside)
      exact ⟨written, List.mem_cons_of_mem _ listed, same⟩
  rcases Definition.mem_occurrences_instance count occurs with argument | ⟨own, foreign⟩
  · exact Or.inl argument
  · have scope := (sound.definitions found).signatures_scoped (declaration, index)
      (List.mk_mem_zipIdx_iff_getElem?.mpr stored) written listed p own
    exact Or.inr (scope.resolve_left foreign)

/-- No two members along the base classes of a type share an identity. -/
theorem declared_eq_of_id_eq {type : Ty} {left right : Member}
    (leftAbove : left.declaring ∈ registry.baseChain type)
    (rightAbove : right.declaring ∈ registry.baseChain type)
    (leftDeclared : left ∈ registry.declaredMembers left.declaring)
    (rightDeclared : right ∈ registry.declaredMembers right.declaring) (same : left.id = right.id) :
    left = right :=
  sound.rooted.declared_eq_of_id_eq leftAbove rightAbove leftDeclared rightDeclared same

end Registry.WellFormed

end LateBinding
