import LateBinding.Proofs.Assignability

/-!
# The order of the supertypes

`supertypes` keeps a stack, and a type may be put on it many times before it is taken off: under
several interfaces, under the base of one and the interface of another, and again on each turn of a
cycle. The list that results is nevertheless that of the plain recursive traversal, a type before
its base and everything above that, and these before each interface and everything above it in turn,
in any registry at all, as long as finitely many types stand above the type asked about. Then the
list has every type that is reached, once.

An instantiation of a definition is looked for in this list, so that the first one in this order is
found, and one is found whenever one is reached.
-/
namespace LateBinding

namespace Registry

/-- Finitely many types stand above each type when every parent is a named type and no definition on
a cycle has parameters. Wherever finitely many do, the walk comes to an end, and it has listed what
the recursive traversal lists and nothing else: every type that is reached, and each of them once.
An instantiation is found when one is reached, and then it is the first in this order. -/
theorem supertypes_preorder (registry : Registry) :
    (registry.Tame → ∀ type, {above | registry.Reaches type above}.Finite) ∧
      ∀ type, {above | registry.Reaches type above}.Finite →
        (∃ steps, (Walk.advance registry.parentTypes steps ⟨[type], []⟩).pending = [] ∧
          registry.supertypes type =
            (Walk.advance registry.parentTypes steps ⟨[type], []⟩).listed) ∧
        (∀ listed, Visits registry.parentTypes [] [type] listed ↔
          listed = registry.supertypes type) ∧
        (registry.supertypes type).Nodup ∧
        (∀ above, above ∈ registry.supertypes type ↔ registry.Reaches type above) ∧
        ∀ id, ((registry.instantiation? type id).isSome ↔
            ∃ arguments, registry.Reaches type (.named id arguments)) ∧
          ∀ arguments, registry.instantiation? type id = some arguments ↔
            ∃ earlier later, registry.supertypes type = earlier ++ .named id arguments :: later ∧
              ∀ other ∈ earlier, other.definition? ≠ some id := by
  refine ⟨fun tame type => tame.finite_reaches type, fun type finite => ?_⟩
  obtain ⟨steps, done, order, visits⟩ := exists_done_visits finite
  refine ⟨⟨steps, done, order⟩, ?_, nodup_supertypes finite,
    fun above => mem_supertypes_iff_of_finite finite, fun id => ⟨?_, fun arguments => ?_⟩⟩
  · intro listed
    constructor
    · exact fun other => other.unique visits
    · rintro rfl
      exact visits
  · rw [isSome_instantiation?_iff]
    simp only [mem_supertypes_iff_of_finite finite]
  · exact instantiation?_eq_some_iff

/-! ## A hierarchy with a cycle -/

/-- Two interfaces that extend each other, a generic class that implements one of them, and a class
derived from it that names them once more and one of them twice. -/
def links : Registry := .ofDefinitions [
  { name := "Linked", kind := .interfaceType, interfaces := [.named ⟨1⟩ []] },
  { name := "Chained", kind := .interfaceType, interfaces := [.named ⟨0⟩ []] },
  { name := "Shelf", kind := .classType, generics := ["T"], interfaces := [.named ⟨0⟩ []] },
  { name := "Case", kind := .classType, base := some (.named ⟨2⟩ [.primitive .i32]),
    interfaces := [.named ⟨1⟩ [], .named ⟨0⟩ [], .named ⟨1⟩ []] }]

/-- Whatever stands above something is one of the two interfaces, or the shelf above the case. -/
theorem links_above {child parent : DefinitionId}
    (path : Relation.TransGen links.StandsBelow child parent) :
    parent.index < 2 ∨ child.index = 3 ∧ parent.index = 2 := by
  have step : ∀ {child parent : DefinitionId}, links.StandsBelow child parent →
      parent.index < 2 ∨ child.index = 3 ∧ parent.index = 2 := by
    rintro child parent ⟨definition, found, type, inside, named⟩
    have every : ∀ entry ∈ links.definitions.zipIdx, ∀ type ∈ entry.1.parents,
        type.definition?.all fun parent => parent.index < 2 ∨ entry.2 = 3 ∧ parent.index = 2 := by
      decide
    simpa [named] using every _ (List.mk_mem_zipIdx_iff_getElem?.mpr found) type inside
  induction path with
  | single below => exact step below
  | tail _ below inductionHypothesis =>
    have last := step below
    omega

/-- The two interfaces of the cycle have no arguments that could grow with each round. -/
theorem links_tame : links.Tame where
  parents_named := by
    intro id definition found
    have every : ∀ definition ∈ links.definitions, ∀ parent ∈ definition.parents,
        parent.definition?.isSome := by
      decide
    exact every definition (List.mem_of_getElem? found)
  cycles_plain := by
    intro id definition found cycle
    have every : ∀ entry ∈ links.definitions.zipIdx, entry.2 < 2 → entry.1.isGeneric = false := by
      decide
    have low := links_above cycle
    exact every _ (List.mk_mem_zipIdx_iff_getElem?.mpr found) (by dsimp only; omega)

/-- The base comes first with what stands above it, and no interface is met again: neither the one
that was reached through the base, nor the one that stands above that. -/
theorem links_supertypes :
    {above | links.Reaches (.named ⟨3⟩ []) above}.Finite ∧
      Visits links.parentTypes [] [.named ⟨3⟩ []]
        [.named ⟨3⟩ [], .named ⟨2⟩ [.primitive .i32], .named ⟨0⟩ [], .named ⟨1⟩ []] ∧
      links.Reaches (.named ⟨3⟩ []) (.named ⟨1⟩ []) ∧
      links.instantiation? (.named ⟨3⟩ []) ⟨2⟩ = some [.primitive .i32] := by
  have order : links.supertypes (.named ⟨3⟩ []) =
      [.named ⟨3⟩ [], .named ⟨2⟩ [.primitive .i32], .named ⟨0⟩ [], .named ⟨1⟩ []] := by
    decide
  obtain ⟨ends, listing⟩ := supertypes_preorder links
  have finite := ends links_tame (.named ⟨3⟩ [])
  obtain ⟨-, visits, -, reached, instantiates⟩ := listing _ finite
  rw [order] at visits
  refine ⟨finite, (visits _).mpr rfl, (reached _).mp (by rw [order]; decide), ?_⟩
  exact ((instantiates ⟨2⟩).2 _).mpr ⟨[.named ⟨3⟩ []], [.named ⟨0⟩ [], .named ⟨1⟩ []], order,
    by decide⟩

end Registry

end LateBinding
