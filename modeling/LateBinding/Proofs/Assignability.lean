import LateBinding.Proofs.Hierarchy

/-!
# Assignability and instantiations

What stands above a well-applied type is well applied and mentions no new parameter, so above a
closed type there are closed types only. Two types that stand above one another are the same.
With the walk complete, assignability and the search for an instantiation are read off
`Registry.Reaches`: a value goes where `object` is expected and wherever its type reaches, and
the instantiation found is one that is reached, the only one if there is only one.
-/
namespace LateBinding

namespace Registry

/-- A type reaches each definition with at most one list of arguments. -/
def SingleInstances (registry : Registry) (type : Ty) : Prop :=
  ∀ {id left right}, registry.Reaches type (.named id left) →
    registry.Reaches type (.named id right) → left = right

/-- Whether a type has another as its base. -/
def Extends (registry : Registry) (child base : Ty) : Prop :=
  registry.baseType? child = some base

instance (registry : Registry) (child base : Ty) : Decidable (registry.Extends child base) :=
  inferInstanceAs (Decidable (_ = _))

variable {registry : Registry}

/-- Every type is assignable to itself. -/
theorem isAssignable_self (registry : Registry) (type : Ty) :
    registry.isAssignable type type = true := by
  simp [isAssignable]

/-- Only a named type has anything but itself above it. -/
theorem eq_of_reaches_of_not_named {actual type : Ty} (path : registry.Reaches actual type)
    (unnamed : actual.definition? = none) : type = actual := by
  cases path using Relation.ReflTransGen.head_induction_on with
  | refl => rfl
  | head above _ =>
    obtain ⟨id, arguments, _, rfl, _⟩ := mem_parentTypes_iff.mp above
    simp [Ty.definition?] at unnamed

/-- So it is an instance of no definition. -/
theorem isAssignable_of_not_named {actual : Ty} (unnamed : actual.definition? = none)
    (id : DefinitionId) (arguments : List Ty) :
    registry.isAssignable actual (.named id arguments) = false := by
  have alone : ∀ above, registry.Reaches actual above → above = actual :=
    fun above path => eq_of_reaches_of_not_named path unnamed
  have finite : {above | registry.Reaches actual above}.Finite :=
    (Set.finite_singleton actual).subset fun above path => alone above path
  have differs : actual ≠ .named id arguments := by
    rintro rfl
    simp [Ty.definition?] at unnamed
  rw [isAssignable, if_neg differs]
  simpa [mem_supertypes_iff_of_finite finite] using fun path => differs (alone _ path).symm

/-- The base of a type is one of its parents. -/
theorem mem_parentTypes_of_baseType? {type base : Ty}
    (found : registry.baseType? type = some base) : base ∈ registry.parentTypes type := by
  obtain ⟨seen, view, mapped⟩ := Option.bind_eq_some_iff.mp found
  obtain ⟨written, declared, rfl⟩ := Option.map_eq_some_iff.mp mapped
  simp only [parentTypes, view, Option.elim_some]
  apply List.mem_map_of_mem
  simp [Definition.parents, declared]

/-- Base classes are reached by steps to the base. -/
theorem ascends_of_mem_basesWithin (steps : Nat) {start type : Ty}
    (listed : type ∈ registry.basesWithin steps start) :
    Relation.ReflTransGen registry.Extends start type := by
  induction steps generalizing start with
  | zero => simp [basesWithin] at listed
  | succ steps inductionHypothesis =>
    rw [basesWithin] at listed
    rcases List.mem_cons.mp listed with rfl | above
    · exact .refl
    · cases found : registry.baseType? start with
      | none => simp [found] at above
      | some base => exact .head found (inductionHypothesis (by simpa [found] using above))

/-- Base classes stand above. -/
theorem reaches_of_mem_basesWithin (steps : Nat) {start type : Ty}
    (listed : type ∈ registry.basesWithin steps start) : registry.Reaches start type :=
  Relation.ReflTransGen.mono (fun _ _ => mem_parentTypes_of_baseType?) _ _
    (ascends_of_mem_basesWithin steps listed)

/-- A type instantiates a definition with the arguments of the first of its supertypes that is made
of it. -/
theorem instantiation?_eq_some_iff {actual : Ty} {id : DefinitionId} {arguments : List Ty} :
    registry.instantiation? actual id = some arguments ↔
      ∃ earlier later, registry.supertypes actual = earlier ++ .named id arguments :: later ∧
        ∀ other ∈ earlier, other.definition? ≠ some id := by
  constructor
  · intro found
    obtain ⟨type, first, rfl⟩ := Option.map_eq_some_iff.mp found
    obtain ⟨named, earlier, later, order, before⟩ := List.find?_eq_some_iff_append.mp first
    obtain ⟨written, rfl⟩ := Ty.definition?_eq_some_iff.mp (by simpa using named)
    exact ⟨earlier, later, order, fun other inside => by simpa using before other inside⟩
  · rintro ⟨earlier, later, order, before⟩
    refine Option.map_eq_some_iff.mpr ⟨.named id arguments, ?_, rfl⟩
    refine List.find?_eq_some_iff_append.mpr ⟨by simp [Ty.definition?], earlier, later, order, ?_⟩
    exact fun other inside => by simpa using before other inside

/-- A type instantiates a definition when one of its supertypes is made of it. -/
theorem isSome_instantiation?_iff {actual : Ty} {id : DefinitionId} :
    (registry.instantiation? actual id).isSome ↔
      ∃ arguments, .named id arguments ∈ registry.supertypes actual := by
  rw [instantiation?, Option.isSome_map, List.find?_isSome]
  constructor
  · rintro ⟨type, listed, named⟩
    obtain ⟨arguments, rfl⟩ := Ty.definition?_eq_some_iff.mp (by simpa using named)
    exact ⟨arguments, listed⟩
  · rintro ⟨arguments, listed⟩
    exact ⟨_, listed, by simp [Ty.definition?]⟩

namespace WellFormed

variable (sound : registry.WellFormed)
include sound

/-! ## What stands above a type -/

/-- What stands directly above a well-applied type is well applied. -/
theorem wellApplied_parent {child parent : Ty} (applied : registry.wellApplied child = true)
    (above : parent ∈ registry.parentTypes child) : registry.wellApplied parent = true := by
  obtain ⟨id, arguments, definition, rfl, found, written, inside, rfl⟩ :=
    mem_parentTypes_iff.mp above
  have writtenApplied := (sound.definitions found).parents_applied written inside
  exact wellApplied_instance writtenApplied found applied

/-- A parameter above a type occurs in the type too: a parent mentions the parameters of its
definition, and these are replaced by arguments. -/
theorem occurrences_parent {child parent : Ty} (applied : registry.wellApplied child = true)
    (above : parent ∈ registry.parentTypes child) {p : Parameter}
    (occurs : p ∈ parent.occurrences) : p ∈ child.occurrences := by
  obtain ⟨id, arguments, definition, rfl, found, written, inside, rfl⟩ :=
    mem_parentTypes_iff.mp above
  have count := length_of_wellApplied applied found
  rcases Definition.mem_occurrences_instance count occurs with argument | ⟨own, foreign⟩
  · exact argument
  · exact absurd ((sound.definitions found).parents_scoped written inside p own) foreign

/-- Above a well-applied type stand well-applied types. -/
theorem wellApplied_of_reaches {actual type : Ty} (applied : registry.wellApplied actual = true)
    (path : registry.Reaches actual type) : registry.wellApplied type = true := by
  induction path with
  | refl => exact applied
  | tail _ above inductionHypothesis => exact sound.wellApplied_parent inductionHypothesis above

/-- Nothing above a well-applied type mentions a parameter that the type does not mention. -/
theorem occurrences_of_reaches {actual type : Ty} (applied : registry.wellApplied actual = true)
    (path : registry.Reaches actual type) {p : Parameter} (occurs : p ∈ type.occurrences) :
    p ∈ actual.occurrences := by
  induction path with
  | refl => exact occurs
  | tail path above inductionHypothesis =>
    exact inductionHypothesis
      (sound.occurrences_parent (sound.wellApplied_of_reaches applied path) above occurs)

/-- Nothing open stands above a closed type. -/
theorem isOpen_of_reaches {actual type : Ty} (applied : registry.wellApplied actual = true)
    (closed : actual.isOpen = false) (path : registry.Reaches actual type) :
    type.isOpen = false := by
  rw [Ty.isOpen_eq_false_iff, List.eq_nil_iff_forall_not_mem] at closed ⊢
  intro p occurs
  exact closed p (sound.occurrences_of_reaches applied path occurs)

/-- Each step up lowers the elevation. -/
theorem elevation_of_reaches {actual type : Ty} (path : registry.Reaches actual type) :
    actual = type ∨ registry.elevation type < registry.elevation actual := by
  induction path with
  | refl => exact Or.inl rfl
  | tail _ above inductionHypothesis =>
    have lower := sound.elevation_lt above
    rcases inductionHypothesis with rfl | higher
    · exact Or.inr lower
    · exact Or.inr (lower.trans higher)

/-- Along a chain of base classes the elevation goes down. -/
theorem baseChain_descends (type : Ty) : (registry.baseChain type).Pairwise fun lower upper =>
    registry.elevation upper < registry.elevation lower := by
  have within : ∀ steps type, (registry.basesWithin steps type).Pairwise fun lower upper =>
      registry.elevation upper < registry.elevation lower := by
    intro steps
    induction steps with
    | zero => exact fun _ => .nil
    | succ steps inductionHypothesis =>
      intro type
      rw [basesWithin]
      cases above : registry.baseType? type with
      | none => simp
      | some base =>
        refine List.pairwise_cons.mpr ⟨fun upper listed => ?_, inductionHypothesis base⟩
        have lower := sound.elevation_lt (mem_parentTypes_of_baseType? above)
        rcases sound.elevation_of_reaches (reaches_of_mem_basesWithin steps listed) with
          rfl | further
        · exact lower
        · exact further.trans lower
  exact within _ type

/-- The chain begins with the type itself and goes up from there. -/
theorem baseChain_eq_cons (type : Ty) : ∃ bases, registry.baseChain type = type :: bases ∧
    ∀ base ∈ bases, registry.elevation base < registry.elevation type := by
  obtain ⟨steps, limit⟩ := Nat.exists_eq_succ_of_ne_zero (Nat.ne_of_gt sound.limit_pos)
  have descends := sound.baseChain_descends type
  rw [baseChain, limit, basesWithin] at descends ⊢
  exact ⟨_, rfl, (List.pairwise_cons.mp descends).1⟩

/-- Types that stand above one another are the same. -/
theorem reaches_antisymm {left right : Ty} (up : registry.Reaches left right)
    (down : registry.Reaches right left) : left = right := by
  rcases sound.elevation_of_reaches up with same | lower
  · exact same
  · rcases sound.elevation_of_reaches down with same | higher
    · exact same.symm
    · omega

/-- What stands above a type is the type itself or a named type. -/
theorem eq_or_named_of_reaches {actual type : Ty} (path : registry.Reaches actual type) :
    type = actual ∨ ∃ id arguments, type = .named id arguments := by
  cases path with
  | refl => exact Or.inl rfl
  | tail _ above =>
    obtain ⟨_, _, id, arguments, _, rfl, _⟩ := sound.tame.parent_named above
    exact Or.inr ⟨id, arguments, rfl⟩

/-! ## Assignability -/

/-- A type is assignable to `object` and to what it reaches. -/
theorem isAssignable_iff {actual declared : Ty} :
    registry.isAssignable actual declared = true ↔
      declared = .object ∨ registry.Reaches actual declared := by
  unfold isAssignable
  by_cases same : actual = declared
  · subst same
    simpa using Or.inr .refl
  · rw [if_neg same]
    cases declared with
    | object => simp
    | named id arguments => simp [sound.mem_supertypes_iff]
    | primitive p => simpa using fun path =>
        (sound.eq_or_named_of_reaches path).elim (same ∘ Eq.symm) (by simp)
    | delegate => simpa using fun path =>
        (sound.eq_or_named_of_reaches path).elim (same ∘ Eq.symm) (by simp)
    | parameter p => simpa using fun path =>
        (sound.eq_or_named_of_reaches path).elim (same ∘ Eq.symm) (by simp)

/-- A type is assignable to whatever stands above it. -/
theorem isAssignable_of_reaches {actual declared : Ty} (path : registry.Reaches actual declared) :
    registry.isAssignable actual declared = true :=
  sound.isAssignable_iff.mpr (Or.inr path)

/-- Types that are assignable to one another are the same. -/
theorem isAssignable_antisymm {left right : Ty} (up : registry.isAssignable left right = true)
    (down : registry.isAssignable right left = true) : left = right := by
  rcases sound.isAssignable_iff.mp up with rfl | leftReaches
  · rcases sound.isAssignable_iff.mp down with same | path
    · exact same
    · exact eq_of_reaches_of_not_named path rfl
  · rcases sound.isAssignable_iff.mp down with rfl | rightReaches
    · exact (eq_of_reaches_of_not_named leftReaches rfl).symm
    · exact sound.reaches_antisymm leftReaches rightReaches

/-! ## Instantiations -/

/-- An instantiation that is found is reached. -/
theorem reaches_of_instantiation? {actual : Ty} {id : DefinitionId} {arguments : List Ty}
    (found : registry.instantiation? actual id = some arguments) :
    registry.Reaches actual (.named id arguments) := by
  obtain ⟨earlier, later, order, -⟩ := instantiation?_eq_some_iff.mp found
  exact sound.mem_supertypes_iff.mp (by simp [order])

/-- Where one is reached, one is found. -/
theorem instantiation?_isSome {actual : Ty} {id : DefinitionId} {arguments : List Ty}
    (path : registry.Reaches actual (.named id arguments)) :
    ∃ found, registry.instantiation? actual id = some found :=
  Option.isSome_iff_exists.mp
    (isSome_instantiation?_iff.mpr ⟨arguments, sound.mem_supertypes_iff.mpr path⟩)

/-- Where a single one is reached, it is found. -/
theorem instantiation?_eq_some {actual : Ty} {id : DefinitionId} {arguments : List Ty}
    (single : registry.SingleInstances actual)
    (path : registry.Reaches actual (.named id arguments)) :
    registry.instantiation? actual id = some arguments := by
  obtain ⟨found, first⟩ := sound.instantiation?_isSome path
  rw [first, single (sound.reaches_of_instantiation? first) path]

/-- A named type instantiates its definition by itself, before anything above it counts. -/
theorem instantiation?_self (id : DefinitionId) (arguments : List Ty) :
    registry.instantiation? (.named id arguments) id = some arguments := by
  obtain ⟨above, listed⟩ := sound.supertypes_eq_cons (.named id arguments)
  exact instantiation?_eq_some_iff.mpr ⟨[], above, listed, by simp⟩

end WellFormed

end Registry

end LateBinding
