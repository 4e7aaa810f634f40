import LateBinding.Proofs.Enumeration

/-!
# Assignability is an order that substitution respects

What stands above a type is written with the type's arguments and nothing else, so a step up the
hierarchy may be taken before or after a substitution, with the same result. Along a path of such
steps it follows that whatever a type reaches, its image reaches the image of.

Together with the lack of cycles this makes assignability a partial order on all types, open ones
included, with `object` on top, and every substitution is monotone for it.
-/
namespace LateBinding

namespace Registry.WellFormed

variable {registry : Registry} (sound : registry.WellFormed)
include sound

/-- The parents of the image of a type are the images of its parents. -/
theorem mem_parentTypes_replace {child parent : Ty} (images : Substitution)
    (applied : registry.wellApplied child = true) (above : parent ∈ registry.parentTypes child) :
    parent.replace images ∈ registry.parentTypes (child.replace images) := by
  obtain ⟨id, arguments, definition, rfl, found, written, inside, rfl⟩ :=
    mem_parentTypes_iff.mp above
  have count := length_of_wellApplied applied found
  rw [Ty.replace_named, mem_parentTypes_iff]
  refine ⟨id, _, definition, rfl, found, written, inside, ?_⟩
  symm
  apply Ty.replace_replace written
  intro p occurs
  have own := (sound.definitions found).parents_scoped written inside p occurs
  exact (Substitution.image_ofParameters_map (definition.parameters_nodup id)
    (by simpa using count) (Ty.replace images) own).symm

/-- The image of a type reaches the image of whatever the type reaches. -/
theorem reaches_replace {actual type : Ty} (images : Substitution)
    (applied : registry.wellApplied actual = true) (path : registry.Reaches actual type) :
    registry.Reaches (actual.replace images) (type.replace images) := by
  induction path with
  | refl => exact .refl
  | tail path above inductionHypothesis =>
    have between := sound.wellApplied_of_reaches applied path
    exact .tail inductionHypothesis (sound.mem_parentTypes_replace images between above)

/-- Assignability goes on upward, from any type to any other. -/
theorem isAssignable_trans {lower middle upper : Ty}
    (first : registry.isAssignable lower middle = true)
    (second : registry.isAssignable middle upper = true) :
    registry.isAssignable lower upper = true := by
  rw [sound.isAssignable_iff] at first second ⊢
  rcases second with rfl | middleReaches
  · exact Or.inl rfl
  · rcases first with rfl | lowerReaches
    · exact Or.inl (eq_of_reaches_of_not_named middleReaches rfl)
    · exact Or.inr (lowerReaches.trans middleReaches)

/-- A substitution takes the way up along with it, step by step. -/
theorem isAssignable_replace {actual declared : Ty} (images : Substitution)
    (applied : registry.wellApplied actual = true)
    (admitted : registry.isAssignable actual declared = true) :
    registry.isAssignable (actual.replace images) (declared.replace images) = true := by
  rw [sound.isAssignable_iff] at admitted ⊢
  rcases admitted with rfl | path
  · exact Or.inl rfl
  · exact Or.inr (sound.reaches_replace images applied path)

/-- Assignability is reflexive, transitive and antisymmetric on all types, and stays when types
are put in the place of parameters of a well-applied type, whichever these types are. -/
theorem isAssignable_order :
    (∀ type, registry.isAssignable type type = true) ∧
    (∀ lower middle upper, registry.isAssignable lower middle = true →
      registry.isAssignable middle upper = true → registry.isAssignable lower upper = true) ∧
    (∀ left right, registry.isAssignable left right = true →
      registry.isAssignable right left = true → left = right) ∧
    ∀ actual declared (images : Substitution), registry.wellApplied actual = true →
      registry.isAssignable actual declared = true →
        registry.isAssignable (actual.substitute images) (declared.substitute images) = true := by
  refine ⟨registry.isAssignable_self, ?_, ?_, ?_⟩
  · exact fun _ _ _ => sound.isAssignable_trans
  · exact fun _ _ => sound.isAssignable_antisymm
  · intro actual declared images applied admitted
    rw [Ty.substitute_eq_replace, Ty.substitute_eq_replace]
    exact sound.isAssignable_replace images applied admitted

end Registry.WellFormed

namespace Registry

/-- A source of any type, catalogs as sources of their entries, and an index as a catalog of
integers. -/
def catalogs : Registry := .ofDefinitions
  [{ name := "Source", kind := .interfaceType, generics := ["T"] },
   { name := "Catalog", kind := .classType, generics := ["T"]
     interfaces := [.named ⟨0⟩ [.parameter ⟨.definition ⟨1⟩, 0⟩]] },
   { name := "Index", kind := .classType, base := some (.named ⟨1⟩ [.i32]) }]

/-- The index lies below the catalogs, and these below the sources. -/
theorem catalogs_wellFormed : catalogs.WellFormed :=
  .of_definitions _ (by decide) (by decide)

/-- An index is a source of integers, because it is a catalog of integers and this is a source of
integers, and no source is an index for that. A catalog of texts is a source of texts, because
any catalog is a source of its entries. -/
theorem catalogs_ordered :
    catalogs.WellFormed ∧
      catalogs.isAssignable (.named ⟨2⟩ []) (.named ⟨0⟩ [.i32]) = true ∧
      catalogs.isAssignable (.named ⟨0⟩ [.i32]) (.named ⟨2⟩ []) = false ∧
      catalogs.isAssignable (.named ⟨1⟩ [.str]) (.named ⟨0⟩ [.str]) = true := by
  obtain ⟨-, trans, antisymm, stable⟩ := catalogs_wellFormed.isAssignable_order
  have integers : catalogs.isAssignable (.named ⟨2⟩ []) (.named ⟨0⟩ [.i32]) = true :=
    trans _ (.named ⟨1⟩ [.i32]) _ (by decide) (by decide)
  refine ⟨catalogs_wellFormed, integers, ?_, ?_⟩
  · rw [← Bool.not_eq_true]
    intro reversed
    simpa using antisymm _ _ integers reversed
  · exact stable (.named ⟨1⟩ [.parameter ⟨.definition ⟨1⟩, 0⟩])
      (.named ⟨0⟩ [.parameter ⟨.definition ⟨1⟩, 0⟩])
      (.ofParameters [⟨.definition ⟨1⟩, 0⟩] [.str]) (by decide) (by decide)

end Registry

end LateBinding
