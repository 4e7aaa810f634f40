import LateBinding.Proofs.Enumeration

/-!
# Enumeration commutes with substitution

The members of the image of a type are the images of the members of the type: the same members in
the same order, with the substitution applied to what they mention. A step to the base class and a
look at a declaration both put arguments in the places of a definition's parameters, and this may
be done before or after the substitution.

A substitution of types for type parameters leaves the own parameters of members alone. A type that
gives fewer arguments than its definition has parameters shows the others as they are, also in its
base classes, so the law holds of such a type where the substitution leaves these others alone. Of
a well-applied type this asks nothing.
-/
namespace LateBinding

namespace Substitution

/-- Parameters and arguments are paired as far as both go. -/
theorem ofParameters_take (parameters : List Parameter) (arguments : List Ty) :
    ofParameters parameters arguments =
      ofParameters (parameters.take arguments.length) (arguments.take parameters.length) := by
  rw [ofParameters, ofParameters]
  congr 1
  refine List.ext_getElem (by simp; omega) ?_
  intro place _ _
  simp

/-- What a parameter stands for may be substituted in, or the arguments before they are paired,
as long as the parameters without argument stay. -/
theorem replace_image_ofParameters {parameters : List Parameter} (distinct : parameters.Nodup)
    (arguments : List Ty) (types : Substitution) {p : Parameter}
    (unmoved : p ∉ parameters.take arguments.length → types.image p = .parameter p) :
    ((ofParameters parameters arguments).image p).replace types =
      (ofParameters parameters (arguments.map (Ty.replace types))).image p := by
  rw [ofParameters_take parameters arguments, ofParameters_take parameters (arguments.map _),
    List.length_map, ← List.map_take]
  by_cases paired : p ∈ parameters.take arguments.length
  · have count : (parameters.take arguments.length).length =
        (arguments.take parameters.length).length := by
      rw [List.length_take, List.length_take, Nat.min_comm]
    have someDistinct := distinct.sublist (List.take_sublist arguments.length parameters)
    exact (image_ofParameters_map someDistinct count (Ty.replace types) paired).symm
  · rw [image_ofParameters_of_not_mem paired, image_ofParameters_of_not_mem paired,
      Ty.replace_parameter, unmoved paired]

end Substitution

/-- A member under a substitution of types for type parameters. -/
def Member.under (member : Member) (types : Substitution) : Member :=
  member.seenAs types (member.declaring.substitute types)

namespace Registry

variable {registry : Registry}

/-- The parameters of a type's definition that the type gives no argument for. -/
def unfilled (registry : Registry) : Ty → List Parameter
  | .named id arguments => (registry.parameters id).drop arguments.length
  | _ => []

/-- Whether a substitution leaves the unfilled parameters of a type alone. -/
def LeavesUnfilled (registry : Registry) (types : Substitution) (type : Ty) : Prop :=
  ∀ p ∈ registry.unfilled type, types.image p = .parameter p

/-- A type with an argument for each parameter of its definition has no unfilled parameters. -/
theorem leavesUnfilled_of_count {id : DefinitionId} {definition : Definition}
    (found : registry.definition? id = some definition) {arguments : List Ty}
    (count : definition.generics.length = arguments.length) (types : Substitution) :
    registry.LeavesUnfilled types (.named id arguments) := by
  have none : registry.unfilled (.named id arguments) = [] := by
    rw [unfilled, parameters, found, Option.elim_some]
    exact List.drop_of_length_le (by simp [count])
  simp [LeavesUnfilled, none]

/-- In a well-applied type no parameter is unfilled, so there is nothing for a substitution to
touch. -/
theorem leavesUnfilled_of_applied {type : Ty} (applied : registry.wellApplied type = true)
    (types : Substitution) : registry.LeavesUnfilled types type := by
  cases type with
  | named id arguments =>
    obtain ⟨⟨definition, found, count⟩, _⟩ :=
      (registry.wellApplied_named_iff id arguments).mp applied
    exact leavesUnfilled_of_count found count types
  | primitive p => simp [LeavesUnfilled, unfilled]
  | object => simp [LeavesUnfilled, unfilled]
  | delegate => simp [LeavesUnfilled, unfilled]
  | parameter p => simp [LeavesUnfilled, unfilled]

/-- What is written in a definition, over its parameters and those of members, may be seen from a
type before or after a substitution. -/
theorem replace_images {id : DefinitionId} {definition : Definition}
    (found : registry.definition? id = some definition) {arguments : List Ty}
    {types : Substitution} (keeps : types.KeepsMethodLevel)
    (unmoved : registry.LeavesUnfilled types (.named id arguments)) {written : Ty}
    (scope : ∀ p ∈ written.occurrences,
      p ∈ definition.parameters id ∨ p.isMethodLevel = true) :
    (written.replace (definition.images id arguments)).replace types =
      written.replace (definition.images id (arguments.map (Ty.replace types))) := by
  apply Ty.replace_replace written
  intro p occurs
  apply Substitution.replace_image_ofParameters (definition.parameters_nodup id)
  intro unpaired
  rcases scope p occurs with own | methodLevel
  · apply unmoved p
    rw [unfilled, parameters, found, Option.elim_some]
    rw [← List.take_append_drop arguments.length (definition.parameters id)] at own
    exact (List.mem_append.mp own).resolve_left unpaired
  · exact keeps p methodLevel

/-- Types whose own members commute with a substitution have members along a chain that do. -/
theorem membersAlong_map {types : Substitution} {chain : List Ty}
    (each : ∀ type ∈ chain, registry.declaredMembers (type.replace types) =
      (registry.declaredMembers type).map (Member.under · types))
    (name : String) (flags : BindingFlags) :
    registry.membersAlong name flags (chain.map (Ty.replace types)) =
      (registry.membersAlong name flags chain).map (Member.under · types) := by
  cases chain with
  | nil => rfl
  | cons own inherited =>
    have inheritedEach : ∀ type ∈ inherited,
        ((registry.declaredMembers (type.replace types)).filter fun member =>
          answersTo name flags member && member.visibility ≠ .privateAccess) =
        ((registry.declaredMembers type).filter fun member =>
          answersTo name flags member && member.visibility ≠ .privateAccess).map
            (Member.under · types) := by
      intro type inside
      rw [each type (List.mem_cons_of_mem _ inside), List.filter_map]
      rfl
    rw [List.map_cons, membersAlong, membersAlong, each own List.mem_cons_self, List.filter_map,
      List.map_append, List.flatMap_map, List.map_flatMap, List.flatMap_congr inheritedEach]
    rfl

namespace WellFormed

variable (sound : registry.WellFormed)
include sound

/-- The members that the image of a type declares are the images of those that the type
declares. -/
theorem declaredMembers_replace {id : DefinitionId} {arguments : List Ty} {types : Substitution}
    (keeps : types.KeepsMethodLevel)
    (unmoved : registry.LeavesUnfilled types (.named id arguments)) :
    registry.declaredMembers ((Ty.named id arguments).replace types) =
      (registry.declaredMembers (.named id arguments)).map (Member.under · types) := by
  rw [Ty.replace_named]
  cases found : registry.definition? id with
  | none => simp [declaredMembers, view?, found]
  | some definition =>
    apply List.ext_getElem?
    intro index
    rw [getElem?_declaredMembers found, List.getElem?_map, getElem?_declaredMembers found,
      Option.map_map]
    cases stored : definition.declarations[index]? with
    | none => rfl
    | some declaration =>
      have image : ∀ written ∈ declaration.signature,
          (written.replace (definition.images id arguments)).replace types =
            written.replace (definition.images id (arguments.map (Ty.replace types))) := by
        intro written listed
        apply replace_images found keeps unmoved
        intro p occurs
        have numbered : (declaration, index) ∈ definition.declarations.zipIdx :=
          List.mk_mem_zipIdx_iff_getElem?.mpr stored
        have scope := (sound.definitions found).signatures_scoped _ numbered written listed p occurs
        exact scope.imp_right Declaration.isMethodLevel_of_mem_methodParameters
      have parameters : declaration.parameters.map
            (Ty.replace (definition.images id (arguments.map (Ty.replace types)))) =
          (declaration.parameters.map (Ty.replace (definition.images id arguments))).map
            (Ty.replace types) := by
        rw [List.map_map]
        apply List.map_congr_left
        intro written listed
        exact (image written (List.mem_cons_of_mem _ listed)).symm
      simp only [Option.map_some, Function.comp_apply, Member.under, Member.seenAs, seenFrom,
        Member.specialize, Ty.substitute_eq_replace, Ty.substitute_fun_eq_replace,
        Ty.replace_named, parameters, image declaration.type List.mem_cons_self]

/-- What a type declares is declared on the image of the type, with the image in its place. -/
theorem specialize_declared {id : DefinitionId} {arguments : List Ty}
    (applied : registry.wellApplied (.named id arguments) = true) {member : Member}
    (declared : member ∈ registry.declaredMembers (.named id arguments)) {types : Substitution}
    (keeps : types.KeepsMethodLevel) :
    member.seenAs types (.named id (arguments.map (Ty.replace types))) ∈
      registry.declaredMembers (.named id (arguments.map (Ty.replace types))) := by
  have unmoved := leavesUnfilled_of_applied applied types
  rw [← Ty.replace_named, sound.declaredMembers_replace keeps unmoved]
  refine List.mem_map.mpr ⟨member, declared, ?_⟩
  rw [Member.under, (declared_facts declared).1, Ty.substitute_eq_replace]

/-- The base of the image of a type is the image of its base. -/
theorem baseType?_replace {id : DefinitionId} {arguments : List Ty} {types : Substitution}
    (keeps : types.KeepsMethodLevel)
    (unmoved : registry.LeavesUnfilled types (.named id arguments)) :
    registry.baseType? ((Ty.named id arguments).replace types) =
      (registry.baseType? (.named id arguments)).map (Ty.replace types) := by
  rw [Ty.replace_named]
  cases found : registry.definition? id with
  | none => simp [baseType?, view?, found]
  | some definition =>
    simp only [baseType?, view?_named found, Option.bind_some, Option.map_map]
    cases base : definition.base with
    | none => rfl
    | some written =>
      have listed : written ∈ definition.parents := by simp [Definition.parents, base]
      have image := replace_images found keeps unmoved fun p occurs =>
        Or.inl ((sound.definitions found).parents_scoped written listed p occurs)
      simpa using image.symm

/-- A base is a named type with an argument for each parameter of its definition. -/
theorem base_filled {type base : Ty} (above : registry.baseType? type = some base) :
    (∃ id arguments, base = .named id arguments) ∧
      ∀ types, registry.LeavesUnfilled types base := by
  obtain ⟨id, arguments, definition, rfl, found, written, listed, rfl⟩ :=
    mem_parentTypes_iff.mp (mem_parentTypes_of_baseType? above)
  have writtenApplied := (sound.definitions found).parents_applied written listed
  obtain ⟨baseId, named⟩ := Option.isSome_iff_exists.mp
    ((sound.definitions found).parents_named written listed)
  obtain ⟨writtenArguments, rfl⟩ := Ty.definition?_eq_some_iff.mp named
  refine ⟨⟨baseId, _, Ty.replace_named _ _ _⟩, fun types => ?_⟩
  have unmoved := leavesUnfilled_of_applied writtenApplied types
  rw [Ty.replace_named]
  simpa [LeavesUnfilled, unfilled] using unmoved

/-- Along the base classes of the image of a type stand the images of the type's base classes, and
the members that they declare are images as well. -/
theorem basesWithin_replace (steps : Nat) {id : DefinitionId} {arguments : List Ty}
    {types : Substitution} (keeps : types.KeepsMethodLevel)
    (unmoved : registry.LeavesUnfilled types (.named id arguments)) :
    registry.basesWithin steps ((Ty.named id arguments).replace types) =
        (registry.basesWithin steps (.named id arguments)).map (Ty.replace types) ∧
      ∀ type ∈ registry.basesWithin steps (.named id arguments),
        registry.declaredMembers (type.replace types) =
          (registry.declaredMembers type).map (Member.under · types) := by
  induction steps generalizing id arguments with
  | zero => simp [basesWithin]
  | succ steps inductionHypothesis =>
    have own := sound.declaredMembers_replace keeps unmoved
    rw [basesWithin, basesWithin, sound.baseType?_replace keeps unmoved]
    cases above : registry.baseType? (.named id arguments) with
    | none => simpa using own
    | some base =>
      obtain ⟨⟨baseId, baseArguments, rfl⟩, filled⟩ := sound.base_filled above
      obtain ⟨chain, inherited⟩ := inductionHypothesis (filled types)
      refine ⟨by simpa using chain, ?_⟩
      intro type listed
      rcases List.mem_cons.mp listed with rfl | further
      · exact own
      · exact inherited type further

section Enumerated

variable {id : DefinitionId} {arguments : List Ty} {types : Substitution}
  (keeps : types.KeepsMethodLevel)
  (unmoved : registry.LeavesUnfilled types (.named id arguments))
include keeps unmoved

/-- What is listed on a substituted type is what is listed on the type, with each member
substituted: the same members in the same order. -/
theorem members_replace (name : String) (flags : BindingFlags) :
    registry.members ((Ty.named id arguments).replace types) name flags =
      (registry.members (.named id arguments) name flags).map (Member.under · types) := by
  obtain ⟨chain, each⟩ := sound.basesWithin_replace registry.searchLimit keeps unmoved
  rw [members, members, baseChain, baseChain, chain]
  exact membersAlong_map each name flags

/-- The same of constructors. -/
theorem constructors_replace (flags : BindingFlags) :
    registry.constructors ((Ty.named id arguments).replace types) flags =
      (registry.constructors (.named id arguments) flags).map (Member.under · types) := by
  rw [constructors, constructors, sound.declaredMembers_replace keeps unmoved, List.filter_map]
  rfl

end Enumerated

/-- Members and constructors of the image of a named type, whatever name and flags they are asked
for with, are the images of those of the type, in the same order. A constructed type offers exactly
the members of the open type with its arguments put in, inherited ones included. -/
theorem enumeration_substitute :
    (∀ (id : DefinitionId) (arguments : List Ty) (types : Substitution),
      types.KeepsMethodLevel → registry.LeavesUnfilled types (.named id arguments) →
        (∀ name flags, registry.members ((Ty.named id arguments).substitute types) name flags =
          (registry.members (.named id arguments) name flags).map (Member.under · types)) ∧
        ∀ flags, registry.constructors ((Ty.named id arguments).substitute types) flags =
          (registry.constructors (.named id arguments) flags).map (Member.under · types)) ∧
    ∀ (id : DefinitionId) (definition : Definition) (arguments : List Ty),
      registry.definition? id = some definition →
      definition.generics.length = arguments.length →
        (∀ name flags, registry.members (.named id arguments) name flags =
          (registry.members (registry.openType id) name flags).map
            (Member.under · (definition.images id arguments))) ∧
        ∀ flags, registry.constructors (.named id arguments) flags =
          (registry.constructors (registry.openType id) flags).map
            (Member.under · (definition.images id arguments)) := by
  refine ⟨?_, ?_⟩
  · intro id arguments types keeps unmoved
    rw [Ty.substitute_eq_replace]
    exact ⟨sound.members_replace keeps unmoved, sound.constructors_replace keeps unmoved⟩
  · intro id definition arguments found count
    have keeps := definition.keepsMethodLevel_images id arguments
    have openType : registry.openType id =
        .named id ((definition.parameters id).map .parameter) := by
      rw [Registry.openType, parameters, found, Option.elim_some]
    have image : (Ty.named id ((definition.parameters id).map .parameter)).replace
        (definition.images id arguments) = .named id arguments := by
      rw [Ty.replace_named, List.map_map]
      exact congrArg (Ty.named id) (Definition.map_images count)
    have unmoved : registry.LeavesUnfilled (definition.images id arguments)
        (.named id ((definition.parameters id).map .parameter)) :=
      leavesUnfilled_of_count found (by simp) _
    rw [openType]
    refine ⟨fun name flags => ?_, fun flags => ?_⟩
    · rw [← sound.members_replace keeps unmoved, image]
    · rw [← sound.constructors_replace keeps unmoved, image]

end WellFormed

/-- An archive of any type, which is a store of lists of that type. What a store is private with,
an archive does not offer. -/
def archives : Registry := .ofDefinitions
  [{ name := "List", kind := .classType, generics := ["T"] },
   { name := "Store", kind := .classType, generics := ["S"]
     declarations :=
      [{ name := "put", kind := .method, generics := ["U"]
         parameters := [.parameter ⟨.definition ⟨1⟩, 0⟩, .parameter ⟨.member ⟨⟨1⟩, 0⟩, 0⟩]
         body := .native .self },
       { name := "put", kind := .method, visibility := .privateAccess, body := .native .self }] },
   { name := "Archive", kind := .classType, generics := ["T"]
     base := some (.named ⟨1⟩ [.named ⟨0⟩ [.parameter ⟨.definition ⟨2⟩, 0⟩]])
     declarations :=
      [{ name := "put", kind := .method, parameters := [.parameter ⟨.definition ⟨2⟩, 0⟩]
         body := .native .self }] }]

/-- An archive's base is a store of lists of its own parameter. -/
theorem archives_wellFormed : archives.WellFormed :=
  .of_definitions _ (by decide) (by decide)

/-- Integers for the parameter of archives. -/
def archivedIntegers : Substitution := .ofParameters [⟨.definition ⟨2⟩, 0⟩] [.i32]

/-- An archive of lists of integers offers what an archive of lists of anything does: first its own
member, then the one that it inherits, with lists of lists of integers and with the member's own
parameter left in place. -/
theorem archives_put_enumerated :
    (Ty.named ⟨2⟩ [.named ⟨0⟩ [.parameter ⟨.definition ⟨2⟩, 0⟩]]).substitute archivedIntegers =
        .named ⟨2⟩ [.named ⟨0⟩ [.i32]] ∧
      (archives.members (.named ⟨2⟩ [.named ⟨0⟩ [.i32]]) "put" .all).map
          (fun member => (member.id, member.parameters)) =
        [(⟨⟨2⟩, 0⟩, [.named ⟨0⟩ [.i32]]),
          (⟨⟨1⟩, 0⟩, [.named ⟨0⟩ [.named ⟨0⟩ [.i32]], .parameter ⟨.member ⟨⟨1⟩, 0⟩, 0⟩])] := by
  have image : (Ty.named ⟨2⟩ [.named ⟨0⟩ [.parameter ⟨.definition ⟨2⟩, 0⟩]]).substitute
      archivedIntegers = .named ⟨2⟩ [.named ⟨0⟩ [.i32]] := by decide
  have keeps : archivedIntegers.KeepsMethodLevel := by
    intro p methodLevel
    apply Substitution.image_ofParameters_of_not_mem
    intro own
    obtain rfl : p = ⟨.definition ⟨2⟩, 0⟩ := by simpa using own
    simp [Parameter.isMethodLevel] at methodLevel
  have commutes := (archives_wellFormed.enumeration_substitute.1 ⟨2⟩
    [.named ⟨0⟩ [.parameter ⟨.definition ⟨2⟩, 0⟩]] archivedIntegers keeps
    (leavesUnfilled_of_applied (by decide) _)).1 "put" .all
  rw [image] at commutes
  refine ⟨image, ?_⟩
  rw [commutes]
  decide

/-- Where an archive is given no argument, a substitution of the argument comes too late. -/
example : (archives.members ((Ty.named ⟨2⟩ []).substitute archivedIntegers) "put" .all).map
      (·.parameters) ≠
    (archives.members (.named ⟨2⟩ []) "put" .all).map
      fun member => (member.under archivedIntegers).parameters := by
  decide

end Registry

end LateBinding
