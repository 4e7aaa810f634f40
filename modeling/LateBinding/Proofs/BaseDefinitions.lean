import LateBinding.Proofs.LaterDeclarations

/-!
# What an override goes back to

From an overriding property a walk leads up, each time to the property of the same name and index
types that the base of the declaring type offers, until it comes to one that overrides nothing or
until nothing is offered. The steps are bounded; since each leads to a type of lower elevation, the
bound is never met, and the walk goes to its end.

What a base offers leaves out the private properties that it inherits itself. So a private property
ends no walk from more than one class below, although it is there.
-/
namespace LateBinding

namespace Registry

/-- Whether the walk steps from one member to another: the first overrides something, and the
second is what the base of the declaring type offers. -/
def Overrides (registry : Registry) (member overridden : Member) : Prop :=
  member.isOverride = true ∧ ∃ base, registry.Extends member.declaring base ∧
    registry.findMember? base member.kind member.name member.parameters = some overridden

variable {registry : Registry}

/-- A walk with steps left makes the next one if there is one. -/
theorem baseDefinitionWithin_succ {steps : Nat} {member overridden : Member}
    (overrides : registry.Overrides member overridden) :
    registry.baseDefinitionWithin (steps + 1) member =
      registry.baseDefinitionWithin steps overridden := by
  obtain ⟨flagged, base, above, found⟩ := overrides
  rw [baseDefinitionWithin, if_pos flagged, above, Option.bind_some, found]

/-- Without a next step it stays. -/
theorem baseDefinitionWithin_of_end {member : Member}
    (ends : ∀ overridden, ¬ registry.Overrides member overridden) (steps : Nat) :
    registry.baseDefinitionWithin steps member = member := by
  cases steps with
  | zero => rfl
  | succ steps =>
    rw [baseDefinitionWithin]
    by_cases flagged : member.isOverride = true
    · rw [if_pos flagged]
      cases above : registry.baseType? member.declaring with
      | none => rfl
      | some base =>
        rw [Option.bind_some]
        cases found : registry.findMember? base member.kind member.name member.parameters with
        | none => rfl
        | some overridden => exact absurd ⟨flagged, base, above, found⟩ (ends overridden)
    · rw [if_neg flagged]

namespace WellFormed

variable (sound : registry.WellFormed)
include sound

/-- What is looked up is declared on a base class, with the kind, the name and the parameter types
asked for. -/
theorem findMember?_facts {type : Ty} {kind : MemberKind} (called : kind ≠ .constructor)
    {name : String} {parameters : List Ty} {found : Member}
    (lookedUp : registry.findMember? type kind name parameters = some found) :
    found.declaring ∈ registry.baseChain type ∧ found.kind = kind ∧ found.name = name ∧
      found.parameters = parameters := by
  obtain ⟨bases, chain, unrepeated⟩ := sound.exists_bases type
  rw [findMember?_eq_find?, candidates_eq_gather chain unrepeated] at lookedUp
  have listed := List.mem_of_find?_eq_some lookedUp
  obtain ⟨above, -, kept⟩ := List.mem_flatMap.mp listed
  obtain ⟨sameKind, sameName, -⟩ : found.kind = kind ∧ found.name = name ∧
      (above = type ∨ found.visibility ≠ .privateAccess) := by
    simpa [wanted, called] using (List.mem_filter.mp kept).2
  exact ⟨mem_gather listed, sameKind, sameName, by simpa using List.find?_some lookedUp⟩

/-- Where nothing is found, no base class declares such a member, except one above the type itself
that declares it as private. -/
theorem hidden_of_findMember?_eq_none {type : Ty} {kind : MemberKind} (called : kind ≠ .constructor)
    {name : String} {parameters : List Ty}
    (missed : registry.findMember? type kind name parameters = none) {above : Ty}
    (listed : above ∈ registry.baseChain type) {member : Member}
    (declared : member ∈ registry.declaredMembers above) (sameKind : member.kind = kind)
    (sameName : member.name = name) (sameParameters : member.parameters = parameters) :
    above ≠ type ∧ member.visibility = .privateAccess := by
  obtain ⟨bases, chain, unrepeated⟩ := sound.exists_bases type
  rw [findMember?_eq_find?, candidates_eq_gather chain unrepeated, List.find?_eq_none] at missed
  have unwanted : wanted .all name kind type above member ≠ true := fun asked =>
    missed member (List.mem_flatMap.mpr ⟨above, listed, List.mem_filter.mpr ⟨declared, asked⟩⟩)
      (by simpa using sameParameters)
  simpa [wanted, called, sameKind, sameName] using unwanted

/-! ## One step -/

/-- A step leads to a property of the same name and index types, declared further up. -/
theorem overrides_facts {property overridden : Member} (isProperty : property.kind = .property)
    (overrides : registry.Overrides property overridden) :
    overridden.kind = property.kind ∧ overridden.name = property.name ∧
      overridden.parameters = property.parameters ∧
      Relation.ReflTransGen registry.Extends property.declaring overridden.declaring ∧
      registry.elevation overridden.declaring < registry.elevation property.declaring := by
  obtain ⟨-, base, above, found⟩ := overrides
  obtain ⟨listed, sameKind, sameName, sameParameters⟩ :=
    sound.findMember?_facts (by simp [isProperty]) found
  have lower := sound.elevation_lt (mem_parentTypes_of_baseType? above)
  refine ⟨sameKind, sameName, sameParameters, .head above (ascends_of_mem_basesWithin _ listed), ?_⟩
  rcases sound.elevation_of_reaches (reaches_of_mem_basesWithin _ listed) with same | further
  · exact same ▸ lower
  · exact further.trans lower

/-! ## The whole walk -/

/-- With enough steps a walk goes to its end. -/
theorem baseDefinitionWithin_ends {steps : Nat} {property : Member}
    (isProperty : property.kind = .property)
    (enough : registry.elevation property.declaring < steps) :
    Relation.ReflTransGen registry.Overrides property
        (registry.baseDefinitionWithin steps property) ∧
      ∀ overridden,
        ¬ registry.Overrides (registry.baseDefinitionWithin steps property) overridden := by
  induction steps generalizing property with
  | zero => simp at enough
  | succ steps inductionHypothesis =>
    by_cases next : ∃ overridden, registry.Overrides property overridden
    · obtain ⟨overridden, overrides⟩ := next
      obtain ⟨sameKind, -, -, -, lower⟩ := sound.overrides_facts isProperty overrides
      -- the step costs one and lowers the elevation by one at least
      obtain ⟨path, ends⟩ := inductionHypothesis (sameKind.trans isProperty)
        (Nat.lt_of_lt_of_le lower (Nat.le_of_lt_succ enough))
      rw [baseDefinitionWithin_succ overrides]
      exact ⟨.head overrides path, ends⟩
    · have ends := not_exists.mp next
      rw [baseDefinitionWithin_of_end ends]
      exact ⟨.refl, ends⟩

/-- What holds along a walk. -/
theorem walk_facts {property last : Member} (isProperty : property.kind = .property)
    (path : Relation.ReflTransGen registry.Overrides property last) :
    last.kind = property.kind ∧ last.name = property.name ∧
      last.parameters = property.parameters ∧
      Relation.ReflTransGen registry.Extends property.declaring last.declaring := by
  induction path with
  | refl => exact ⟨rfl, rfl, rfl, .refl⟩
  | tail _ overrides inductionHypothesis =>
    obtain ⟨kind, name, parameters, up⟩ := inductionHypothesis
    obtain ⟨sameKind, sameName, sameParameters, further, -⟩ :=
      sound.overrides_facts (kind.trans isProperty) overrides
    exact ⟨sameKind.trans kind, sameName.trans name, sameParameters.trans parameters,
      up.trans further⟩

/-- From any property the walk goes to its end, and the property there, of the same name and index
types, is what it goes back to: the property itself if that overrides nothing, or else the first one
on the way that overrides nothing. If there is none, it is the last one on the way, whose base
offers no such property: no class above declares one, except the base's own base classes, as a
private one. Going back once more changes nothing. -/
theorem baseDefinition_ends_walk {property : Member} (isProperty : property.kind = .property) :
    let origin := registry.baseDefinition property
    Relation.ReflTransGen registry.Overrides property origin ∧
      (origin.kind = .property ∧ origin.name = property.name ∧
        origin.indexParameters = property.indexParameters) ∧
      Relation.ReflTransGen registry.Extends property.declaring origin.declaring ∧
      (property.isOverride = false → origin = property) ∧
      (origin.isOverride = true → ∀ base, registry.Extends origin.declaring base →
        registry.findMember? base .property origin.name origin.indexParameters = none ∧
        ∀ above ∈ registry.baseChain base, ∀ member ∈ registry.declaredMembers above,
          member.kind = .property → member.name = origin.name →
          member.indexParameters = origin.indexParameters →
            above ≠ base ∧ member.visibility = .privateAccess) ∧
      registry.baseDefinition origin = origin := by
  intro origin
  obtain ⟨path, ends⟩ :=
    sound.baseDefinitionWithin_ends isProperty (sound.elevation_lt_searchLimit property.declaring)
  obtain ⟨sameKind, sameName, sameParameters, up⟩ := sound.walk_facts isProperty path
  have originKind : origin.kind = .property := sameKind.trans isProperty
  have indices : ∀ {member : Member}, member.kind = .property →
      member.indexParameters = member.parameters := fun kind => by rw [Member.indexParameters, kind]
  refine ⟨path, ⟨originKind, sameName, ?_⟩, up, ?_, ?_, baseDefinitionWithin_of_end ends _⟩
  · rw [indices originKind, indices isProperty]
    exact sameParameters
  · intro plain
    exact baseDefinitionWithin_of_end (fun _ overrides => by simpa [plain] using overrides.1) _
  · intro flagged base above
    rw [indices originKind]
    have missed : registry.findMember? base .property origin.name origin.parameters = none := by
      cases found : registry.findMember? base .property origin.name origin.parameters with
      | none => rfl
      | some overridden => exact absurd ⟨flagged, base, above, originKind ▸ found⟩ (ends overridden)
    refine ⟨missed, fun above listed member declared kind name parameters => ?_⟩
    exact sound.hidden_of_findMember?_eq_none (by simp) missed listed declared kind name
      (by rwa [indices kind] at parameters)

end WellFormed

/-- Grids have cells, found by an index. A board is a grid of integers without cells of its own; two
further classes declare their cells anew. -/
def boards : Registry := .ofDefinitions
  [{ name := "Grid", kind := .classType, generics := ["T"]
     declarations :=
      [{ name := "cell", kind := .property, parameters := [.parameter ⟨.definition ⟨0⟩, 0⟩]
         type := .str, body := .property (some .self) none }] },
   { name := "Board", kind := .classType, base := some (.named ⟨0⟩ [.i32]) },
   { name := "Chess", kind := .classType, base := some (.named ⟨1⟩ [])
     declarations :=
      [{ name := "cell", kind := .property, parameters := [.i32], type := .str
         isOverride := true, body := .property (some .self) none }] },
   { name := "Blitz", kind := .classType, base := some (.named ⟨2⟩ [])
     declarations :=
      [{ name := "cell", kind := .property, parameters := [.i32], type := .str
         isOverride := true, body := .property (some .self) none }] }]

/-- Each of the four classes has at most the one before it for a base. -/
theorem boards_wellFormed : boards.WellFormed :=
  .of_definitions _ (by decide) (by decide)

/-- The cells as the last class offers them. -/
def boards.cell : Member :=
  (boards.candidates .all (.named ⟨3⟩ []) "cell" .property).get ⟨0, by decide⟩

/-- They go back to the cells of grids of integers. -/
theorem boards_cell_goes_back :
    let origin := boards.baseDefinition boards.cell
    boards.WellFormed ∧ boards.cell.kind = .property ∧
      boards.cell.declaring = .named ⟨3⟩ [] ∧ boards.cell.isOverride = true ∧
      origin.declaring = .named ⟨0⟩ [.i32] ∧ origin.isOverride = false ∧
      Relation.ReflTransGen boards.Overrides boards.cell origin ∧
      origin.indexParameters = boards.cell.indexParameters ∧
      boards.baseDefinition origin = origin := by
  intro origin
  have isProperty : boards.cell.kind = .property := by decide
  obtain ⟨path, ⟨-, -, indices⟩, -, -, -, again⟩ :=
    boards_wellFormed.baseDefinition_ends_walk isProperty
  exact ⟨boards_wellFormed, isProperty, by decide, by decide, by decide, by decide, path, indices,
    again⟩

/-- Books keep their totals private. A ledger is a book, and a journal is a ledger that declares a
total as an override. -/
def journals : Registry := .ofDefinitions
  [{ name := "Book", kind := .classType
     declarations :=
      [{ name := "total", kind := .property, type := .i32, visibility := .privateAccess
         body := .property (some .self) none }] },
   { name := "Ledger", kind := .classType, base := some (.named ⟨0⟩ []) },
   { name := "Journal", kind := .classType, base := some (.named ⟨1⟩ [])
     declarations :=
      [{ name := "total", kind := .property, type := .i32, isOverride := true
         body := .property (some .self) none }] }]

/-- The total as journals declare it. -/
def journals.total : Member :=
  (journals.candidates .all (.named ⟨2⟩ []) "total" .property).get ⟨0, by decide⟩

/-- The nearest class above journals that answers for the total, when it is asked itself, is that of
books, and their total overrides nothing. Ledgers do not answer, for the total of books is private.
So the total of journals goes back to itself and not to the total of books. -/
theorem journals_total_stays :
    let ledger : Ty := .named ⟨1⟩ []
    let book : Ty := .named ⟨0⟩ []
    journals.WellFormed ∧
      journals.total ∈ journals.candidates .all (.named ⟨2⟩ []) "total" .property ∧
      journals.total.isOverride = true ∧ journals.Extends journals.total.declaring ledger ∧
      journals.Extends ledger book ∧
      journals.findMember? ledger .property "total" [] = none ∧
      ∃ hidden, journals.findMember? book .property "total" [] = some hidden ∧
        hidden.isOverride = false ∧ journals.baseDefinition journals.total ≠ hidden := by
  intro ledger book
  have sound : journals.WellFormed := .of_definitions _ (by decide) (by decide)
  have answered : (journals.findMember? book .property "total" []).map
      (fun hidden => (hidden.isOverride, hidden.id)) = some (false, ⟨⟨0⟩, 0⟩) := by decide
  obtain ⟨hidden, found, facts⟩ := Option.map_eq_some_iff.mp answered
  obtain ⟨plain, hiddenId⟩ := Prod.mk.inj facts
  have stays : (journals.baseDefinition journals.total).id = ⟨⟨2⟩, 0⟩ := by decide
  refine ⟨sound, List.get_mem _ _, by decide, by decide, by decide, ?_, hidden, found, plain, ?_⟩
  · exact Option.isNone_iff_eq_none.mp (by decide)
  · rintro rfl
    exact absurd (stays.symm.trans hiddenId) (by decide)

end Registry

end LateBinding
