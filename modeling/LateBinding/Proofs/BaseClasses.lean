import LateBinding.Proofs.Assignability

/-!
# Base classes

Interfaces hand no members down, so what a type offers depends on its base classes alone. The facts
about the chain of base classes hold of every registry whose bases are named types and in which no
class derives from itself (`Registry.Rooted`), although its interfaces may extend one another in a
circle.

No definition has two types on such a chain. Hence the chain has at most one more type than there
are definitions and is never cut short by the bound on searches: it consists of exactly the types
that steps to the base lead to.
-/
namespace LateBinding

namespace Registry

/-- Whether a definition has another as its base class. -/
def Derives (registry : Registry) (child parent : DefinitionId) : Prop :=
  ∃ definition, registry.definition? child = some definition ∧
    ∃ base, definition.base = some base ∧ base.definition? = some parent

/-- A registry in which each base is a named type and no class derives from itself, be it through
others, with the bound on searches that it has as a registry made from its definitions. -/
structure Rooted (registry : Registry) : Prop where
  bases_named : ∀ {id definition base}, registry.definition? id = some definition →
    definition.base = some base → base.definition?.isSome
  acyclic : ∀ id, ¬ Relation.TransGen registry.Derives id id
  limit : Registry.adequateLimit registry.definitions ≤ registry.searchLimit

variable {registry : Registry}

/-- Of two types on a chain of base classes the second is reached from the first by steps up. -/
theorem basesWithin_ascends (steps : Nat) (type : Ty) :
    (registry.basesWithin steps type).Pairwise (Relation.TransGen registry.Extends) := by
  induction steps generalizing type with
  | zero => exact .nil
  | succ steps inductionHypothesis =>
    rw [basesWithin]
    cases above : registry.baseType? type with
    | none => simp
    | some base =>
      refine List.pairwise_cons.mpr ⟨fun upper listed => ?_, inductionHypothesis base⟩
      exact .head' above (ascends_of_mem_basesWithin steps listed)

/-- Steps up stay within a bound on their number, or the bound is met by types with a base. -/
theorem mem_basesWithin_or_full (steps : Nat) {type above : Ty}
    (path : Relation.ReflTransGen registry.Extends type above) :
    above ∈ registry.basesWithin steps type ∨
      (registry.basesWithin steps type).length = steps ∧
        ∀ lower ∈ registry.basesWithin steps type, ∃ base, registry.Extends lower base := by
  induction steps generalizing type with
  | zero => exact Or.inr ⟨rfl, by simp [basesWithin]⟩
  | succ steps inductionHypothesis =>
    rw [basesWithin]
    rcases path.cases_head with rfl | ⟨base, extend, further⟩
    · exact Or.inl List.mem_cons_self
    · rw [show registry.baseType? type = some base from extend, Option.elim_some]
      rcases inductionHypothesis further with listed | ⟨full, each⟩
      · exact Or.inl (List.mem_cons_of_mem _ listed)
      · refine Or.inr ⟨congrArg Nat.succ full, ?_⟩
        exact List.forall_mem_cons.mpr ⟨⟨base, extend⟩, each⟩

namespace Rooted

variable (rooted : registry.Rooted)
include rooted

/-- A step to the base is a step from definition to definition. -/
theorem derives_of_extends {child base : Ty} (extend : registry.Extends child base) :
    ∃ id parent, child.definition? = some id ∧ base.definition? = some parent ∧
      registry.Derives id parent := by
  obtain ⟨⟨definition, images⟩, seen, mapped⟩ := Option.bind_eq_some_iff.mp extend
  obtain ⟨written, declared, rfl⟩ := Option.map_eq_some_iff.mp mapped
  obtain ⟨id, arguments, rfl, found, rfl⟩ := view?_eq_some seen
  obtain ⟨parent, named⟩ := Option.isSome_iff_exists.mp (rooted.bases_named found declared)
  refine ⟨id, parent, rfl, ?_, definition, found, written, declared, named⟩
  obtain ⟨writtenArguments, rfl⟩ := Ty.definition?_eq_some_iff.mp named
  simp [Ty.definition?]

/-- A way up the types is a way up their definitions. The induction adds a step at the upper end. -/
theorem derives_of_ascends {lower upper : Ty}
    (path : Relation.TransGen registry.Extends lower upper) :
    ∃ id parent, lower.definition? = some id ∧ upper.definition? = some parent ∧
      Relation.TransGen registry.Derives id parent := by
  induction path with
  | single extend =>
    obtain ⟨id, parent, lowerNamed, upperNamed, derives⟩ := rooted.derives_of_extends extend
    exact ⟨id, parent, lowerNamed, upperNamed, .single derives⟩
  | tail _ extend inductionHypothesis =>
    obtain ⟨id, middle, lowerNamed, middleNamed, path⟩ := inductionHypothesis
    obtain ⟨same, parent, again, upperNamed, derives⟩ := rooted.derives_of_extends extend
    obtain rfl : middle = same := Option.some.inj (middleNamed.symm.trans again)
    exact ⟨id, parent, lowerNamed, upperNamed, path.tail derives⟩

/-- No definition has two types on a chain of base classes. -/
theorem basesWithin_distinct (steps : Nat) (type : Ty) :
    ((registry.basesWithin steps type).map Ty.definition?).Nodup := by
  refine List.pairwise_map.mpr ((basesWithin_ascends steps type).imp fun path same => ?_)
  obtain ⟨id, parent, lowerNamed, upperNamed, derives⟩ := rooted.derives_of_ascends path
  obtain rfl : id = parent := Option.some.inj (lowerNamed.symm.trans (same.trans upperNamed))
  exact rooted.acyclic id derives

/-- A chain of types that all have a base is no longer than the list of definitions. -/
theorem length_basesWithin_le {steps : Nat} {type : Ty}
    (each : ∀ lower ∈ registry.basesWithin steps type, ∃ base, registry.Extends lower base) :
    (registry.basesWithin steps type).length ≤ registry.definitions.length := by
  have known : (registry.basesWithin steps type).map Ty.definition? ⊆
      (List.range registry.definitions.length).map fun index => some ⟨index⟩ := by
    intro named listed
    obtain ⟨lower, inside, rfl⟩ := List.mem_map.mp listed
    obtain ⟨base, extend⟩ := each lower inside
    obtain ⟨id, _, lowerNamed, _, definition, found, _⟩ := rooted.derives_of_extends extend
    have stored : id.index < registry.definitions.length := (List.getElem?_eq_some_iff.mp found).1
    exact List.mem_map.mpr ⟨id.index, List.mem_range.mpr stored, lowerNamed.symm⟩
  simpa using ((rooted.basesWithin_distinct steps type).subperm known).length_le

/-- The base classes of a type are the types that steps to bases lead to. -/
theorem mem_baseChain_iff {type above : Ty} :
    above ∈ registry.baseChain type ↔ Relation.ReflTransGen registry.Extends type above := by
  refine ⟨ascends_of_mem_basesWithin _, fun path => ?_⟩
  rcases mem_basesWithin_or_full registry.searchLimit path with listed | ⟨full, each⟩
  · exact listed
  · have few := rooted.length_basesWithin_le each
    have enough := length_lt_adequateLimit registry.definitions
    have limit := rooted.limit
    omega

/-- The chain begins with the type itself, which does not come again. -/
theorem exists_bases (type : Ty) :
    ∃ bases, registry.baseChain type = type :: bases ∧ type ∉ bases := by
  have enough := length_lt_adequateLimit registry.definitions
  have limit := rooted.limit
  obtain ⟨steps, positive⟩ := Nat.exists_eq_succ_of_ne_zero
    (show registry.searchLimit ≠ 0 by omega)
  have unrepeated : (registry.baseChain type).Nodup :=
    .of_map _ (rooted.basesWithin_distinct registry.searchLimit type)
  rw [baseChain, positive, basesWithin] at unrepeated ⊢
  exact ⟨_, rfl, (List.nodup_cons.mp unrepeated).1⟩

end Rooted

/-- In a well-formed registry neither base classes nor interfaces form a circle. -/
theorem WellFormed.rooted (sound : registry.WellFormed) : registry.Rooted where
  bases_named found declared :=
    (sound.definitions found).parents_named _ (by simp [Definition.parents, declared])
  acyclic id cycle := by
    refine sound.acyclic id (Relation.TransGen.mono ?_ _ _ cycle)
    rintro child parent ⟨definition, found, base, declared, named⟩
    exact ⟨definition, found, base, by simp [Definition.parents, declared], named⟩
  limit := sound.limit

/-- A registry in which each base is a named type of a definition before it is rooted. -/
theorem Rooted.of_definitions (definitions : List Definition)
    (earlier : ∀ entry ∈ definitions.zipIdx, ∀ base ∈ entry.1.base,
      base.definition?.any fun parent => parent.index < entry.2) :
    (Registry.ofDefinitions definitions).Rooted := by
  have below : ∀ {id definition base}, (Registry.ofDefinitions definitions).definition? id =
      some definition → definition.base = some base →
        ∃ parent, base.definition? = some parent ∧ parent.index < id.index := by
    intro id definition base found declared
    simpa [Option.any_eq_true] using
      earlier _ (List.mk_mem_zipIdx_iff_getElem?.mpr found) _ declared
  refine ⟨?_, acyclic_of_earlier ?_, Nat.le_refl _⟩
  · intro id definition base found declared
    obtain ⟨parent, named, -⟩ := below found declared
    exact Option.isSome_iff_exists.mpr ⟨parent, named⟩
  · rintro child parent ⟨definition, found, base, declared, named⟩
    obtain ⟨other, same, less⟩ := below found declared
    obtain rfl : parent = other := Option.some.inj (named.symm.trans same)
    exact less

end Registry

end LateBinding
