import LateBinding.Proofs.BaseDefinitions

/-!
# Which class sees a private property

What a type offers is everything along its base classes, save the private members of the others. An
override goes back from class to class, and each time it is the base that is asked what it offers,
not the class that the walk set out from. The base offers its own private properties, so a walk may
end at a property that the first class does not inherit. Then the class of that property is the base
of the last one before it; no private property further up is ever reached.
-/
namespace LateBinding

namespace Registry

variable {registry : Registry}

/-- A step leads to what the base of the declaring type offers. -/
theorem offered_of_overrides {property overridden : Member} (isProperty : property.kind = .property)
    (overrides : registry.Overrides property overridden) :
    ∃ base, registry.Extends property.declaring base ∧
      overridden ∈ registry.members base property.name .all := by
  obtain ⟨-, base, above, found⟩ := overrides
  rw [findMember?, if_neg (by simp [isProperty])] at found
  exact ⟨base, above, List.mem_of_find?_eq_some found⟩

namespace WellFormed

variable (sound : registry.WellFormed)
include sound

/-! ## What a type offers -/

/-- The base classes of a type are the types that steps to bases lead to. -/
theorem mem_baseChain_iff {type above : Ty} :
    above ∈ registry.baseChain type ↔ Relation.ReflTransGen registry.Extends type above :=
  sound.rooted.mem_baseChain_iff

/-- A type offers what its base classes declare, but private members only of its own. -/
theorem mem_members_iff {type : Ty} {name : String} {flags : BindingFlags} {member : Member} :
    member ∈ registry.members type name flags ↔
      member.declaring ∈ registry.baseChain type ∧
        member ∈ registry.declaredMembers member.declaring ∧
        answersTo name flags member = true ∧
        (member.declaring = type ∨ member.visibility ≠ .privateAccess) :=
  sound.rooted.mem_members_iff

/-! ## Along a walk -/

/-- What a walk comes to is declared, by the type that it is seen from. -/
theorem walk_declared {property last : Member} (isProperty : property.kind = .property)
    (declared : property ∈ registry.declaredMembers property.declaring)
    (path : Relation.ReflTransGen registry.Overrides property last) :
    last ∈ registry.declaredMembers last.declaring := by
  cases path with
  | refl => exact declared
  | tail path overrides =>
    have kind := (sound.walk_facts isProperty path).1.trans isProperty
    obtain ⟨base, -, offered⟩ := offered_of_overrides kind overrides
    exact (sound.mem_members_iff.mp offered).2.1

/-- A walk that comes back to the type it set out from has not begun. -/
theorem walk_eq_of_declaring_eq {property last : Member} (isProperty : property.kind = .property)
    (path : Relation.ReflTransGen registry.Overrides property last)
    (same : last.declaring = property.declaring) : last = property := by
  rcases path.cases_head with rfl | ⟨next, overrides, path⟩
  · rfl
  · obtain ⟨kind, -, -, -, lower⟩ := sound.overrides_facts isProperty overrides
    have up := (sound.walk_facts (kind.trans isProperty) path).2.2.2
    have back := sound.mem_baseChain_iff.mpr up
    rcases sound.elevation_of_reaches (reaches_of_mem_basesWithin _ back) with level | further
    · rw [level, same] at lower
      exact absurd lower (Nat.lt_irrefl _)
    · rw [same] at further
      exact absurd (further.trans lower) (Nat.lt_irrefl _)

/-- The type of a property offers what the property goes back to, exactly if that is the property
itself or is not private. If the type does not offer it, the walk came to it from the class directly
below. -/
theorem baseDefinition_offered_iff {type : Ty} {name : String} {flags : BindingFlags}
    {property : Member} (listed : property ∈ registry.members type name flags)
    (isProperty : property.kind = .property) :
    let origin := registry.baseDefinition property
    let offered := (registry.members property.declaring property.name .all).map (·.id)
    (origin.id ∈ offered ↔ origin = property ∨ origin.visibility ≠ .privateAccess) ∧
      (origin.id ∉ offered → ∃ last, Relation.ReflTransGen registry.Overrides property last ∧
        registry.Overrides last origin ∧ registry.Extends last.declaring origin.declaring) := by
  intro origin offered
  have declared := (sound.mem_members_iff.mp listed).2.1
  obtain ⟨path, -⟩ :=
    sound.baseDefinitionWithin_ends isProperty (sound.elevation_lt_searchLimit property.declaring)
  obtain ⟨sameKind, sameName, -, up⟩ := sound.walk_facts isProperty path
  have originDeclared : origin ∈ registry.declaredMembers origin.declaring :=
    sound.walk_declared isProperty declared path
  have above : origin.declaring ∈ registry.baseChain property.declaring :=
    sound.mem_baseChain_iff.mpr up
  have answers : answersTo property.name .all origin = true := by
    simp [answersTo, origin, baseDefinition, sameName, sameKind, isProperty]
  have known : origin.id ∈ offered ↔ origin = property ∨ origin.visibility ≠ .privateAccess := by
    constructor
    · intro inside
      obtain ⟨member, memberListed, sameId⟩ := List.mem_map.mp inside
      obtain ⟨memberAbove, memberDeclared, -, seen⟩ := sound.mem_members_iff.mp memberListed
      obtain rfl : member = origin :=
        sound.declared_eq_of_id_eq memberAbove above memberDeclared originDeclared sameId
      exact seen.imp_left (sound.walk_eq_of_declaring_eq isProperty path)
    · intro seen
      refine List.mem_map_of_mem (sound.mem_members_iff.mpr ⟨above, originDeclared, answers, ?_⟩)
      exact seen.imp_left (congrArg Member.declaring)
  refine ⟨known, fun hidden => ?_⟩
  obtain ⟨moved, isPrivate⟩ := not_or.mp (known.not.mp hidden)
  rcases path.cases_tail with stays | ⟨last, before, overrides⟩
  · exact absurd stays moved
  · have kind := (sound.walk_facts isProperty before).1.trans isProperty
    obtain ⟨base, extend, seen⟩ := offered_of_overrides kind overrides
    have own : origin.declaring = base :=
      (sound.mem_members_iff.mp seen).2.2.2.resolve_right isPrivate
    exact ⟨last, before, overrides, own ▸ extend⟩

end WellFormed

/-- Books keep their totals private. A ledger is a book that declares a total as an override. -/
def ledgers : Registry := .ofDefinitions
  [{ name := "Book", kind := .classType
     declarations :=
      [{ name := "total", kind := .property, type := .i32, visibility := .privateAccess
         body := .property (some .self) none }] },
   { name := "Ledger", kind := .classType, base := some (.named ⟨0⟩ [])
     declarations :=
      [{ name := "total", kind := .property, type := .i32, isOverride := true
         body := .property (some .self) none }] }]

/-- A ledger is a book, and neither has parameters. -/
theorem ledgers_wellFormed : ledgers.WellFormed :=
  .of_definitions _ (by decide) (by decide)

/-- The total as ledgers declare it. -/
def ledgers.total : Member :=
  (ledgers.members (.named ⟨1⟩ []) "total" .all).get ⟨0, by decide⟩

/-- It goes back to the total of books, although that is private and ledgers do not offer it. -/
theorem ledgers_total_hidden :
    let origin := ledgers.baseDefinition ledgers.total
    ledgers.WellFormed ∧ ledgers.total ∈ ledgers.members (.named ⟨1⟩ []) "total" .all ∧
      ledgers.total.kind = .property ∧ origin.id = ⟨⟨0⟩, 0⟩ ∧
      origin.visibility = .privateAccess ∧
      origin.id ∉ (ledgers.members ledgers.total.declaring ledgers.total.name .all).map (·.id) ∧
      ∃ last, Relation.ReflTransGen ledgers.Overrides ledgers.total last ∧
        ledgers.Overrides last origin ∧ ledgers.Extends last.declaring origin.declaring := by
  intro origin
  have listed : ledgers.total ∈ ledgers.members (.named ⟨1⟩ []) "total" .all := List.get_mem _ _
  have isProperty : ledgers.total.kind = .property := by decide
  have isPrivate : origin.visibility = .privateAccess := by decide
  have moved : origin ≠ ledgers.total := by
    intro stays
    exact absurd (congrArg Member.id stays) (by decide)
  obtain ⟨offered, below⟩ := ledgers_wellFormed.baseDefinition_offered_iff listed isProperty
  have hidden := offered.not.mpr (not_or.mpr ⟨moved, not_not.mpr isPrivate⟩)
  exact ⟨ledgers_wellFormed, listed, isProperty, by decide, isPrivate, hidden, below hidden⟩

end Registry

end LateBinding
