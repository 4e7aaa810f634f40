import LateBinding.Proofs.Declarations
import LateBinding.Proofs.Fields
import LateBinding.Engine.Events

/-!
# The field of an event

An event is found on the type of a value or on one of its base classes, and its field on the class
that declares it. Where this field is the only one of its name along the base classes, every value
of the type keeps the handlers of the event in it, whatever else goes by the name: methods,
properties, or interfaces with events of their own. The host lets the field be read and written as
soon as the class is closed, because the value is an instance of its base classes. A new object
starts with null in it.
-/
namespace LateBinding

namespace Registry

variable {registry : Registry}

/-! ## Base classes -/

/-- With more steps at least as many bases are found. -/
theorem basesWithin_succ {steps : Nat} {type base : Ty}
    (listed : base ∈ registry.basesWithin steps type) :
    base ∈ registry.basesWithin (steps + 1) type := by
  induction steps generalizing type with
  | zero => simp [basesWithin] at listed
  | succ steps inductionHypothesis =>
    rw [basesWithin] at listed ⊢
    rcases List.mem_cons.mp listed with rfl | above
    · exact List.mem_cons_self
    · cases found : registry.baseType? type with
      | none => simp [found] at above
      | some next =>
        have later : base ∈ registry.basesWithin steps next := by simpa [found] using above
        refine List.mem_cons_of_mem _ ?_
        simpa [found] using inductionHypothesis later

/-- The base of a type is the first of its parents. -/
theorem parentTypes_eq_cons {type base : Ty} (found : registry.baseType? type = some base) :
    ∃ others, registry.parentTypes type = base :: others := by
  obtain ⟨seen, view, mapped⟩ := Option.bind_eq_some_iff.mp found
  obtain ⟨written, declared, rfl⟩ := Option.map_eq_some_iff.mp mapped
  simp [parentTypes, view, Definition.parents, declared]

/-- A walk up the hierarchy takes bases first, so it comes to a base class in as many steps as it
takes along the base classes alone, unless it has passed by before. -/
theorem mem_seen_of_mem_basesWithin {steps limit : Nat} {type base : Ty}
    {pending seen : List Ty} (enough : steps ≤ limit)
    (listed : base ∈ registry.basesWithin steps type)
    (least : ∀ fewer < steps, base ∉ registry.basesWithin fewer type)
    (unseen : ∀ passed ∈ seen, base ∉ registry.basesWithin steps passed) :
    base ∈ (Walk.advance registry.parentTypes limit ⟨type :: pending, seen⟩).seen := by
  induction steps generalizing limit type pending seen with
  | zero => simp [basesWithin] at listed
  | succ steps inductionHypothesis =>
    obtain ⟨limit, rfl⟩ := Nat.exists_eq_succ_of_ne_zero (Nat.ne_of_gt (Nat.zero_lt_of_lt enough))
    have fresh : type ∉ seen := fun passed => unseen type passed listed
    rw [Walk.advance, List.isEmpty_cons, if_neg Bool.false_ne_true, Walk.step, if_neg fresh]
    rw [basesWithin] at listed
    rcases List.mem_cons.mp listed with rfl | above
    · exact Walk.mem_seen_advance limit List.mem_cons_self
    cases found : registry.baseType? type with
    | none => simp [found] at above
    | some next =>
      obtain ⟨others, parents⟩ := parentTypes_eq_cons found
      have later : base ∈ registry.basesWithin steps next := by simpa [found] using above
      rw [parents, List.cons_append]
      refine inductionHypothesis (Nat.le_of_succ_le_succ enough) later ?_ ?_
      · intro fewer below sooner
        refine least (fewer + 1) (Nat.succ_lt_succ below) ?_
        rw [basesWithin]
        exact List.mem_cons_of_mem _ (by simpa [found] using sooner)
      · intro passed inside sooner
        rcases List.mem_cons.mp inside with rfl | before
        · exact least steps (Nat.lt_succ_self steps) sooner
        · exact unseen passed before (basesWithin_succ sooner)

/-- A type is assignable to its base classes. -/
theorem isAssignable_of_mem_baseChain {type : Ty} {id : DefinitionId} {arguments : List Ty}
    (listed : .named id arguments ∈ registry.baseChain type) :
    registry.isAssignable type (.named id arguments) = true := by
  have within : ∃ steps, .named id arguments ∈ registry.basesWithin steps type := ⟨_, listed⟩
  have above : .named id arguments ∈ registry.supertypes type :=
    mem_supertypes_of_advance (mem_seen_of_mem_basesWithin (Nat.find_le listed)
      (Nat.find_spec within) (fun _ => Nat.find_min within) (by simp))
  by_cases same : type = .named id arguments
  · rw [same, isAssignable_self]
  · simp [isAssignable, same, above]

/-! ## Events and their fields -/

/-- The fields of a name on a type and its base classes, static and private ones included. -/
def fieldsNamed (registry : Registry) (type : Ty) (name : String) : List Member :=
  ((registry.baseChain type).flatMap registry.declaredMembers).filter fun member =>
    member.kind = .field && member.name = name

/-- Whether an event is registered on a type or on one of its base classes, and keeps its handlers
in a field that is the only one of the event's name there. -/
structure HoldsEvent (registry : Registry) (type : Ty) (name : String) (field : Member) : Prop where
  alone : registry.fieldsNamed type name = [field]
  registered : ∃ definition before after,
    registry.definition? field.id.definition = some definition ∧
      definition.declarations = before ++ Declaration.event name ++ after

/-- The fields of a name are found on every class of the chain, without regard to visibility. -/
theorem mem_fieldsNamed_iff {type : Ty} {name : String} {member : Member} :
    member ∈ registry.fieldsNamed type name ↔
      (∃ seen ∈ registry.baseChain type, member ∈ registry.declaredMembers seen) ∧
        member.kind = .field ∧ member.name = name := by
  simp [fieldsNamed, List.mem_filter, List.mem_flatMap]

/-- A key to which only one value is written reads that value. -/
theorem get?_writes_of_unique {κ ν : Type} [DecidableEq κ] {pairs : List (κ × ν)}
    {map : OrderedMap κ ν} {key : κ} {value : ν}
    (present : (key, value) ∈ pairs ∨ map.get? key = some value)
    (only : ∀ pair ∈ pairs, pair.1 = key → pair.2 = value) :
    (pairs.foldl (fun map pair => map.insert pair.1 pair.2) map).get? key = some value := by
  induction pairs generalizing map with
  | nil => simpa using present
  | cons pair rest inductionHypothesis =>
    rw [List.foldl_cons]
    refine inductionHypothesis ?_ fun other inside => only other (List.mem_cons_of_mem _ inside)
    by_cases same : pair.1 = key
    · right
      rw [← only pair List.mem_cons_self same, ← same, OrderedMap.get?_insert_self]
    · rw [OrderedMap.get?_insert_of_ne _ same]
      rcases present with written | before
      · rcases List.mem_cons.mp written with rfl | later
        · exact absurd rfl same
        · exact Or.inl later
      · exact Or.inr before

namespace HoldsEvent

variable {type : Ty} {name : String} {field : Member} (holds : registry.HoldsEvent type name field)
include holds

/-- Every field of the name is the field of the event. -/
theorem eq_field {seen : Ty} {member : Member} (above : seen ∈ registry.baseChain type)
    (declared : member ∈ registry.declaredMembers seen) (isField : member.kind = .field)
    (named : member.name = name) : member = field := by
  have listed := mem_fieldsNamed_iff.mpr ⟨⟨seen, above, declared⟩, isField, named⟩
  rw [holds.alone] at listed
  exact List.mem_singleton.mp listed

/-- The field of an event is declared by one of the classes in the chain. -/
theorem declared : field.declaring ∈ registry.baseChain type ∧
    field ∈ registry.declaredMembers field.declaring := by
  have listed : field ∈ registry.fieldsNamed type name := by
    rw [holds.alone]
    exact List.mem_singleton_self field
  obtain ⟨⟨seen, above, here⟩, _⟩ := mem_fieldsNamed_iff.mp listed
  obtain ⟨rfl, _⟩ := declared_facts here
  exact ⟨above, here⟩

/-- What is declared with the event is declared on the class of the field. -/
theorem exists_member {declaration : Declaration}
    (listed : declaration ∈ Declaration.event name) :
    ∃ member ∈ registry.declaredMembers field.declaring, member.toDeclaration = declaration := by
  obtain ⟨definition, before, after, found, put⟩ := holds.registered
  have inside : declaration ∈ definition.declarations := by
    rw [put]
    exact List.mem_append_left _ (List.mem_append_right _ listed)
  obtain ⟨index, stands⟩ := List.getElem?_of_mem inside
  obtain ⟨_, _, home⟩ := declared_facts holds.declared.2
  obtain ⟨arguments, same⟩ := Ty.definition?_eq_some_iff.mp home
  exact ⟨_, mem_declaredMembers_iff.mpr ⟨_, arguments, definition, index, declaration, same, found,
    stands, rfl⟩, toDeclaration_seenFrom listed _ _ _ _⟩

/-- The field is the one declared with the event. -/
theorem toDeclaration : field.toDeclaration = .backing name := by
  obtain ⟨member, here, same⟩ := holds.exists_member (Declaration.mem_event_iff.mpr (Or.inl rfl))
  have isField : member.kind = .field := by rw [same]; rfl
  have named : member.name = name := by rw [same]; rfl
  rw [← holds.eq_field holds.declared.1 here isField named, same]

/-- So an object of the type passes as a receiver of the field. -/
theorem assignable : registry.isAssignable type field.declaring = true := by
  obtain ⟨above, here⟩ := holds.declared
  obtain ⟨_, _, home⟩ := declared_facts here
  obtain ⟨arguments, same⟩ := Ty.definition?_eq_some_iff.mp home
  rw [same] at above ⊢
  exact isAssignable_of_mem_baseChain above

/-- The field belongs to each object, not to the class. -/
theorem isInstance : field.isStatic = false := by
  rw [holds.toDeclaration]
  rfl

/-- The field is read and written as a slot once its class is closed. -/
theorem isField (closed : field.declaring.isOpen = false) : field.IsField := by
  have same := holds.toDeclaration
  refine ⟨by rw [same]; rfl, by rw [same]; rfl, ?_⟩
  rw [Member.isOpen, Member.hasOpenMethodParameters, same, closed]
  rfl

/-- A new object starts with null in the field. -/
theorem get?_fieldSlots : (registry.fieldSlots type).get? name = some .null := by
  obtain ⟨above, here⟩ := holds.declared
  have same := holds.toDeclaration
  have named : field.name = name := by rw [same]; rfl
  have initial : defaultValue field.type = .null := by rw [same]; rfl
  apply get?_writes_of_unique
  · refine Or.inl (List.mem_map.mpr ⟨field, List.mem_filter.mpr ⟨?_, ?_⟩, by rw [named, initial]⟩)
    · exact List.mem_flatMap.mpr ⟨_, List.mem_reverse.mpr above, here⟩
    · rw [same]
      rfl
  · intro pair written asked
    obtain ⟨other, listed, rfl⟩ := List.mem_map.mp written
    obtain ⟨declared, fits⟩ := List.mem_filter.mp listed
    obtain ⟨seen, inside, there⟩ := List.mem_flatMap.mp declared
    have isField : other.kind = .field := by simp at fits; exact fits.1
    rw [holds.eq_field (List.mem_reverse.mp inside) there isField asked, initial]

end HoldsEvent

/-- A member that is not private is enumerated on every type that stands below. -/
theorem mem_membersAlong_of_not_private {flags : BindingFlags} {types : List Ty} {name : String}
    {seen : Ty} {member : Member} (inside : seen ∈ types)
    (declared : member ∈ registry.declaredMembers seen)
    (answers : answersTo name flags member = true)
    (inherited : member.visibility ≠ .privateAccess) :
    member ∈ registry.membersAlong name flags types := by
  cases types with
  | nil => simp at inside
  | cons own bases =>
    rw [membersAlong]
    rcases List.mem_cons.mp inside with rfl | above
    · exact List.mem_append_left _ (List.mem_filter.mpr ⟨declared, answers⟩)
    · refine List.mem_append_right _ (List.mem_flatMap.mpr ⟨seen, above, ?_⟩)
      exact List.mem_filter.mpr ⟨declared, by simp [answers, inherited]⟩

/-- A type is the first of its base classes. -/
theorem baseChain_of_mem {type base : Ty} (listed : base ∈ registry.baseChain type) :
    ∃ bases, registry.baseChain base = base :: bases := by
  rw [baseChain] at listed ⊢
  cases limit : registry.searchLimit with
  | zero => simp [limit, basesWithin] at listed
  | succ steps => exact ⟨_, rfl⟩

end Registry

namespace Engine

variable {engine : Engine} {type : Ty} {name : String} {field : Member}
  (holds : engine.registry.HoldsEvent type name field)
include holds

/-- The event that is found is declared with the field. -/
theorem find?_event (composed : engine.registry.Composed)
    (admitted : ∀ declaration ∈ Declaration.event name, declaration.kind = .event →
      engine.flags.admits declaration = true) :
    ∃ event, (engine.registry.members type name engine.flags).find? (·.kind = .event) =
        some event ∧ event.declaring = field.declaring ∧ event.body = .event name := by
  obtain ⟨registered, here, same⟩ :=
    holds.exists_member (Declaration.mem_event_iff.mpr (Or.inr rfl))
  have listed : registered ∈ engine.registry.members type name engine.flags := by
    refine Registry.mem_membersAlong_of_not_private holds.declared.1 here ?_ (by rw [same]; simp)
    have shown := admitted _ (Declaration.mem_event_iff.mpr (Or.inr rfl)) rfl
    rw [Registry.answersTo, same, shown]
    simp
  have found : ((engine.registry.members type name engine.flags).find?
      (·.kind = .event)).isSome := by
    rw [List.find?_isSome]
    exact ⟨registered, listed, by rw [same]; rfl⟩
  obtain ⟨event, first⟩ := Option.isSome_iff_exists.mp found
  have isEvent : event.kind = .event := by simpa using List.find?_some first
  obtain ⟨seen, above, declared, answers⟩ :=
    Registry.mem_membersAlong (List.mem_of_find?_eq_some first)
  have named := (Registry.answersTo_iff.mp answers).1
  obtain ⟨body, backing, beside, backs⟩ := composed.member_backing declared isEvent
  have isBacking : backing = field := by
    refine holds.eq_field above beside ?_ ?_
    · rw [backs]; rfl
    · rw [backs]; exact named
  obtain ⟨fromEvent, _⟩ := Registry.declared_facts declared
  obtain ⟨fromField, _⟩ := Registry.declared_facts beside
  refine ⟨event, first, ?_, by rw [body, named]⟩
  rw [fromEvent, ← isBacking, fromField]

/-- Its own class finds the field, private as it is. -/
theorem find?_field :
    (engine.registry.members field.declaring name .all).find? (·.kind = .field) = some field := by
  obtain ⟨above, here⟩ := holds.declared
  obtain ⟨bases, chain⟩ := Registry.baseChain_of_mem above
  have same := holds.toDeclaration
  have own : field ∈ (engine.registry.declaredMembers field.declaring).filter
      (Registry.answersTo name .all) :=
    List.mem_filter.mpr ⟨here, by rw [Registry.answersTo, same]; simp [Declaration.backing]⟩
  have found : (((engine.registry.declaredMembers field.declaring).filter
      (Registry.answersTo name .all)).find? (·.kind = .field)).isSome := by
    rw [List.find?_isSome]
    exact ⟨field, own, by rw [same]; rfl⟩
  obtain ⟨first, hit⟩ := Option.isSome_iff_exists.mp found
  obtain ⟨declared, answers⟩ := List.mem_filter.mp (List.mem_of_find?_eq_some hit)
  have isField : first.kind = .field := by simpa using List.find?_some hit
  rw [Registry.members, chain, Registry.membersAlong, List.find?_append, hit, Option.some_or,
    holds.eq_field above declared isField ((Registry.answersTo_iff.mp answers).1)]

/-- An engine whose flags admit the event finds the field where its handlers are. -/
theorem eventField_of_holdsEvent (composed : engine.registry.Composed)
    (admitted : ∀ declaration ∈ Declaration.event name, declaration.kind = .event →
      engine.flags.admits declaration = true) {target : Value} (typed : target.type? = some type) :
    engine.eventField target name = .ok field := by
  obtain ⟨event, first, home, body⟩ := find?_event holds composed admitted
  rw [eventField, typed, Option.getD_some]
  simp only [first, body, home, find?_field holds]

end Engine

end LateBinding
