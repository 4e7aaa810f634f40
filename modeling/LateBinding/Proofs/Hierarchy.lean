import LateBinding.Proofs.Walks
import Mathlib.Data.Finset.Card
import Mathlib.Data.Finset.Range

/-!
# Hierarchies that come to an end

`Registry.Reaches` is the relation that the searches are about: from a type to its parents, any
number of times. A hierarchy may go on without end, but only where a definition stands above itself
and has parameters: its arguments can then grow at each turn. Where no definition does both and
every parent is a named type (`Registry.Tame`), finitely many types stand above each type.

There are two reasons. A definition without parameters has its parents as they are written, so no
turn of a cycle meets anything new. And the number of definitions above one, its height, falls at
each step up from a definition that is not on a cycle.

In a well-formed registry no definition is on a cycle. Hence `supertypes` lists exactly the types
that are reached (`mem_supertypes_iff`), assignability is reachability (`isAssignable_iff`) and an
instantiation is one that is reached.
-/
namespace LateBinding

namespace Registry

/-- Every type written above a definition is a named type, and a definition that stands above itself
has no parameters. -/
structure Tame (registry : Registry) : Prop where
  parents_named : ∀ {id definition}, registry.definition? id = some definition →
    ∀ parent ∈ definition.parents, parent.definition?.isSome
  cycles_plain : ∀ {id definition}, registry.definition? id = some definition →
    Relation.TransGen registry.StandsBelow id id → definition.isGeneric = false

/-- Whether the definition of a type stands above itself. -/
def OnCycle (registry : Registry) (type : Ty) : Prop :=
  ∃ id, type.definition? = some id ∧ Relation.TransGen registry.StandsBelow id id

/-- One type is reached from another by steps up from definitions that are not on a cycle. -/
def Climbs (registry : Registry) : Ty → Ty → Prop :=
  Relation.ReflTransGen fun child parent =>
    ¬ registry.OnCycle child ∧ parent ∈ registry.parentTypes child

open Classical in
/-- How many definitions stand above one. -/
noncomputable def height (registry : Registry) (id : DefinitionId) : Nat :=
  ((Finset.range registry.definitions.length).filter fun index =>
    Relation.TransGen registry.StandsBelow id ⟨index⟩).card

/-- The height of a type's definition; a type that is not named has nothing above it. -/
noncomputable def elevation (registry : Registry) (type : Ty) : Nat :=
  type.definition?.elim 0 registry.height

variable {registry : Registry}

/-- Parents are what a definition's parents become for a type's arguments. -/
theorem mem_parentTypes_iff {child parent : Ty} :
    parent ∈ registry.parentTypes child ↔
      ∃ id arguments definition, child = .named id arguments ∧
        registry.definition? id = some definition ∧
        ∃ written ∈ definition.parents,
          written.replace (definition.images id arguments) = parent := by
  constructor
  · intro member
    cases view : registry.view? child with
    | none => simp [parentTypes, view] at member
    | some seen =>
      obtain ⟨id, arguments, rfl, found, images⟩ := view?_eq_some view
      have written : ∃ type ∈ seen.1.parents,
          type.replace (seen.1.images id arguments) = parent := by
        simpa [parentTypes, view, ← images] using member
      exact ⟨id, arguments, seen.1, rfl, found, written⟩
  · rintro ⟨id, arguments, definition, rfl, found, written⟩
    simpa [parentTypes, view?_named found] using written

/-- The bound on searches leaves room for a step to each definition. -/
theorem length_lt_adequateLimit (definitions : List Definition) :
    definitions.length + 2 < adequateLimit definitions :=
  (Nat.lt_pow_self (show 1 < breadth definitions + 2 by omega)).trans_le (Nat.le_add_left _ _)

/-- No more definitions stand above a type than there are. -/
theorem elevation_le (registry : Registry) (type : Ty) :
    registry.elevation type ≤ registry.definitions.length := by
  rw [elevation]
  cases type.definition? with
  | none => exact Nat.zero_le _
  | some id =>
    classical exact (Finset.card_filter_le _ _).trans_eq (Finset.card_range _)

/-- Whatever stands above the parent stands above the child, and so does the parent, which does
not stand above itself. -/
theorem height_lt {child parent : DefinitionId} (below : registry.StandsBelow child parent)
    (known : (registry.definition? parent).isSome)
    (calm : ¬ Relation.TransGen registry.StandsBelow parent parent) :
    registry.height parent < registry.height child := by
  classical
  obtain ⟨definition, stored⟩ := Option.isSome_iff_exists.mp known
  have inside : parent.index < registry.definitions.length :=
    (List.getElem?_eq_some_iff.mp stored).1
  have step : Relation.TransGen registry.StandsBelow child parent := .single below
  refine Finset.card_lt_card (Finset.ssubset_iff_of_subset ?_ |>.mpr ⟨parent.index, ?_, ?_⟩)
  · intro index member
    obtain ⟨bounded, above⟩ := Finset.mem_filter.mp member
    exact Finset.mem_filter.mpr ⟨bounded, step.trans above⟩
  · exact Finset.mem_filter.mpr ⟨Finset.mem_range.mpr inside, step⟩
  · intro member
    exact calm (Finset.mem_filter.mp member).2

namespace Tame

variable (tame : registry.Tame)
include tame

/-- A parent is a named type whose definition stands directly above. -/
theorem parent_named {child parent : Ty} (member : parent ∈ registry.parentTypes child) :
    ∃ id arguments above aboveArguments, child = .named id arguments ∧
      parent = .named above aboveArguments ∧ registry.StandsBelow id above := by
  obtain ⟨id, arguments, definition, rfl, found, written, inside, rfl⟩ :=
    mem_parentTypes_iff.mp member
  obtain ⟨above, named⟩ := Option.isSome_iff_exists.mp (tame.parents_named found written inside)
  obtain ⟨writtenArguments, rfl⟩ := Ty.definition?_eq_some_iff.mp named
  exact ⟨id, arguments, above, _, rfl, Ty.replace_named _ _ _, definition, found, _, inside, rfl⟩

/-- On a cycle a step up leads to a type as it is written. -/
theorem mem_written_of_onCycle {child parent : Ty} (onCycle : registry.OnCycle child)
    (member : parent ∈ registry.parentTypes child) :
    parent ∈ registry.definitions.flatMap Definition.parents := by
  obtain ⟨id, arguments, definition, rfl, found, written, inside, rfl⟩ :=
    mem_parentTypes_iff.mp member
  obtain ⟨_, named, cycle⟩ := onCycle
  obtain rfl := Option.some.inj named
  have plain : definition.generics = [] := by
    simpa [Definition.isGeneric] using tame.cycles_plain found cycle
  have unmoved : written.replace (definition.images id arguments) = written := by
    refine Ty.replace_eq_self written fun parameter _ => Definition.image_of_not_mem ?_
    simp [Definition.parameters, plain]
  rw [unmoved]
  exact List.mem_flatMap.mpr ⟨definition, List.mem_of_getElem? found, inside⟩

omit tame in
/-- A type from which no step leads up reaches itself alone. -/
theorem finite_climbs_of_stuck {type : Ty}
    (stuck : registry.OnCycle type ∨ registry.parentTypes type = []) :
    {above | registry.Climbs type above}.Finite := by
  refine (Set.finite_singleton type).subset fun above path => ?_
  rcases Relation.ReflTransGen.cases_head path with rfl | ⟨parent, ⟨calm, up⟩, -⟩
  · rfl
  · rcases stuck with onCycle | none
    · exact absurd onCycle calm
    · simp [none] at up

/-- Steps up from definitions that are not on a cycle lead to finitely many types, because each
lowers the height. -/
theorem finite_climbs (type : Ty) : {above | registry.Climbs type above}.Finite := by
  induction level : registry.elevation type using Nat.strong_induction_on generalizing type with
  | _ level inductionHypothesis =>
    subst level
    have each : ∀ parent ∈ registry.parentTypes type,
        {above | registry.Climbs parent above}.Finite := by
      intro parent up
      obtain ⟨id, arguments, next, nextArguments, rfl, rfl, below⟩ := tame.parent_named up
      by_cases onCycle : registry.OnCycle (.named next nextArguments)
      · exact finite_climbs_of_stuck (Or.inl onCycle)
      cases known : registry.definition? next with
      | none =>
        refine finite_climbs_of_stuck (Or.inr ?_)
        simp [parentTypes, view?, known]
      | some definition =>
        exact inductionHypothesis _ (height_lt below (by simp [known])
          fun cycle => onCycle ⟨next, rfl, cycle⟩) _ rfl
    refine ((Set.finite_singleton type).union
      ((registry.parentTypes type).finite_toSet.biUnion each)).subset fun above path => ?_
    rcases Relation.ReflTransGen.cases_head path with rfl | ⟨parent, ⟨-, up⟩, later⟩
    · exact Or.inl rfl
    · exact Or.inr (Set.mem_biUnion up later)

/-- What is reached is reached without a cycle from where the last one was left: a type written in
the registry, unless no cycle was passed. -/
theorem exists_climbs {type above : Ty} (path : registry.Reaches type above) :
    ∃ start ∈ type :: registry.definitions.flatMap Definition.parents,
      registry.Climbs start above := by
  induction path with
  | refl => exact ⟨type, List.mem_cons_self, .refl⟩
  | @tail child parent _ up inductionHypothesis =>
    by_cases onCycle : registry.OnCycle child
    · exact ⟨parent, List.mem_cons_of_mem _ (tame.mem_written_of_onCycle onCycle up), .refl⟩
    · obtain ⟨start, inside, climbs⟩ := inductionHypothesis
      exact ⟨start, inside, climbs.tail ⟨onCycle, up⟩⟩

/-- Finitely many types stand above each type. -/
theorem finite_reaches (type : Ty) : {above | registry.Reaches type above}.Finite := by
  have starts := List.finite_toSet (type :: registry.definitions.flatMap Definition.parents)
  have climbs := starts.biUnion fun start _ => tame.finite_climbs start
  refine climbs.subset fun above path => ?_
  obtain ⟨start, inside, climbs⟩ := tame.exists_climbs path
  exact Set.mem_biUnion inside climbs

end Tame

namespace WellFormed

variable (sound : registry.WellFormed)
include sound

/-- A well-formed hierarchy is tame: it has no cycle at all, so none that would have to be plain. -/
theorem tame : registry.Tame where
  parents_named found := (sound.definitions found).parents_named
  cycles_plain _ cycle := absurd cycle (sound.acyclic _)

/-- A step up lowers the elevation. -/
theorem elevation_lt {child parent : Ty} (member : parent ∈ registry.parentTypes child) :
    registry.elevation parent < registry.elevation child := by
  obtain ⟨id, arguments, above, aboveArguments, rfl, rfl, below⟩ := sound.tame.parent_named member
  obtain ⟨definition, found, written, inside, named⟩ := below
  have applied := (sound.definitions found).parents_applied written inside
  obtain ⟨writtenArguments, rfl⟩ := Ty.definition?_eq_some_iff.mp named
  obtain ⟨⟨_, stored, _⟩, _⟩ := (registry.wellApplied_named_iff _ _).mp applied
  exact height_lt ⟨definition, found, _, inside, rfl⟩ (by simp [stored]) (sound.acyclic above)

/-- The bound on searches is above every elevation. -/
theorem elevation_lt_searchLimit (type : Ty) : registry.elevation type < registry.searchLimit := by
  have few := elevation_le registry type
  have enough := length_lt_adequateLimit registry.definitions
  have limit := sound.limit
  omega

/-- A type's supertypes are the types it reaches. -/
theorem mem_supertypes_iff {actual type : Ty} :
    type ∈ registry.supertypes actual ↔ registry.Reaches actual type :=
  mem_supertypes_iff_of_finite (sound.tame.finite_reaches actual)

/-- The list of supertypes begins with the type itself. -/
theorem supertypes_eq_cons (type : Ty) :
    ∃ above, registry.supertypes type = type :: above := by
  obtain ⟨_, _, _, visits⟩ := exists_done_visits (sound.tame.finite_reaches type)
  generalize registry.supertypes type = listed at visits
  cases visits with
  | known old _ => simp at old
  | fresh _ _ _ => exact ⟨_, rfl⟩

end WellFormed

end Registry

end LateBinding
