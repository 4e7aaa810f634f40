import LateBinding.Proofs.SameHierarchy
import LateBinding.Proofs.Enumeration

/-!
# One more declaration

A registry in which a definition has one more declaration at its end has the same hierarchy as
before, and every type of the definition has one more member, behind its others.

Along a chain of classes the new member comes behind those of its class and before those of the
classes further up. So whatever members are asked for, what is gathered up to a class stays where it
is unless the definition comes before that class, and a search finds another member exactly when the
new one is asked for, answers to the question and comes before the class of the member that was
found: `Registry.Overtakes`.
-/
namespace LateBinding

/-- A definition with one more declaration at its end. -/
def Definition.declare (definition : Definition) (declaration : Declaration) : Definition :=
  { definition with declarations := definition.declarations ++ [declaration] }

namespace Registry

/-- The registry in which a definition has one more declaration at its end. -/
def declare (registry : Registry) (id : DefinitionId) (declaration : Declaration) : Registry :=
  { registry with definitions := registry.definitions.modify id.index (·.declare declaration) }

/-- The new declaration as it is seen from a type of its definition. -/
def newMember? (registry : Registry) (id : DefinitionId) (declaration : Declaration) (type : Ty) :
    Option Member :=
  if type.definition? = some id then
    (registry.view? type).map fun (definition, images) =>
      seenFrom id type images declaration definition.declarations.length
  else none

variable {registry : Registry} {id : DefinitionId} {declaration : Declaration}

/-- Only the definition itself is changed, and it is found where it was. -/
theorem definition?_declare (other : DefinitionId) :
    (registry.declare id declaration).definition? other = (registry.definition? other).map
      fun definition => if id = other then definition.declare declaration else definition := by
  have indices : id.index = other.index ↔ id = other := by
    cases id
    cases other
    simp
  simp only [definition?, declare, List.getElem?_modify, indices]
  rfl

/-- Types are seen through the same substitutions. -/
theorem view?_declare (type : Ty) :
    (registry.declare id declaration).view? type = (registry.view? type).map
      fun (definition, images) =>
        (if type.definition? = some id then definition.declare declaration else definition,
          images) := by
  cases type with
  | named other arguments =>
    simp only [view?, definition?_declare, Option.map_map, Ty.definition?, Option.some.injEq]
    refine congrArg (Option.map · _) (funext fun definition => ?_)
    by_cases same : id = other
    · subst same
      simp [Definition.declare, Definition.parameters]
    · simp [same, Ne.symm same]
  | primitive p => rfl
  | object => rfl
  | delegate => rfl
  | parameter p => rfl

/-- Its parameters stay as they were, and so do those of all others. -/
theorem parameters_declare (other : DefinitionId) :
    (registry.declare id declaration).parameters other = registry.parameters other := by
  rw [parameters, parameters, definition?_declare]
  cases registry.definition? other with
  | none => rfl
  | some definition =>
    by_cases same : id = other <;> simp [same, Definition.declare, Definition.parameters]

/-- No type gets another base class. -/
theorem baseType?_declare (type : Ty) :
    (registry.declare id declaration).baseType? type = registry.baseType? type := by
  rw [baseType?, baseType?, view?_declare]
  cases registry.view? type with
  | none => rfl
  | some seen => by_cases own : type.definition? = some id <;> simp [own, Definition.declare]

/-- So the chain of classes above a type is the same. The induction is on the steps up the chain. -/
theorem baseChain_declare (type : Ty) :
    (registry.declare id declaration).baseChain type = registry.baseChain type := by
  have within : ∀ steps type, (registry.declare id declaration).basesWithin steps type =
      registry.basesWithin steps type := by
    intro steps
    induction steps with
    | zero => exact fun _ => rfl
    | succ steps inductionHypothesis =>
      intro type
      rw [basesWithin, basesWithin, baseType?_declare, funext inductionHypothesis]
  exact within _ type

/-- A declaration changes nothing about the hierarchy. -/
theorem sameHierarchy_declare : (registry.declare id declaration).SameHierarchy registry where
  searchLimit := rfl
  parentTypes type := by
    rw [parentTypes, parentTypes, view?_declare]
    cases registry.view? type with
    | none => rfl
    | some seen =>
      by_cases own : type.definition? = some id <;>
        simp [own, Definition.declare, Definition.parents]
  isValueType type := by
    cases type with
    | named other arguments =>
      rw [isValueType, isValueType, definition?_declare]
      cases registry.definition? other with
      | none => rfl
      | some definition => by_cases same : id = other <;> simp [same, Definition.declare]
    | primitive p => rfl
    | object => rfl
    | delegate => rfl
    | parameter p => rfl

/-- A type of the definition has one more member, behind its others. -/
theorem declaredMembers_declare (type : Ty) :
    (registry.declare id declaration).declaredMembers type =
      registry.declaredMembers type ++ (registry.newMember? id declaration type).toList := by
  rw [declaredMembers, declaredMembers, view?_declare, newMember?]
  cases view : registry.view? type with
  | none => simp
  | some seen =>
    obtain ⟨other, arguments, rfl, found, -⟩ := view?_eq_some view
    by_cases same : other = id
    · subst same
      simp [Ty.definition?, Definition.declare, List.mapIdx_append]
    · simp [Ty.definition?, same]

/-- The new member is the new declaration, seen from a type of the definition. -/
theorem newMember?_eq_some {type : Ty} {member : Member}
    (new : registry.newMember? id declaration type = some member) :
    type.definition? = some id ∧
      ∃ images index, seenFrom id type images declaration index = member := by
  obtain ⟨own, placed⟩ := Option.ite_none_right_eq_some.mp new
  obtain ⟨seen, -, rfl⟩ := Option.map_eq_some_iff.mp placed
  exact ⟨own, _, _, rfl⟩

/-! ## Members along a chain of classes -/

/-- What the types of a chain declare, as far as it is asked for. -/
def gather (registry : Registry) (asks : Ty → Member → Bool) (types : List Ty) : List Member :=
  types.flatMap fun type => (registry.declaredMembers type).filter (asks type)

/-- Whether the new declaration, as it is seen from a class that comes before another one in a
chain, is asked for and answers a question. -/
def Overtakes (registry : Registry) (id : DefinitionId) (declaration : Declaration)
    (asks : Ty → Member → Bool) (question : Member → Bool) (types : List Ty) (declaring : Ty) :
    Prop :=
  ∃ type member, [type, declaring].Sublist types ∧
    registry.newMember? id declaration type = some member ∧
    asks type member = true ∧ question member = true

section Gather

variable {asks : Ty → Member → Bool} {types : List Ty}

/-- What is gathered along a chain is seen from one of its types. -/
theorem mem_gather {member : Member} (listed : member ∈ registry.gather asks types) :
    member.declaring ∈ types := by
  obtain ⟨type, inside, listed⟩ := List.mem_flatMap.mp listed
  rw [(declared_facts (List.mem_filter.mp listed).1).1]
  exact inside

/-- It is declared by the type from which it is seen. -/
theorem declared_of_mem_gather {member : Member} (listed : member ∈ registry.gather asks types) :
    member ∈ registry.declaredMembers member.declaring := by
  obtain ⟨type, -, kept⟩ := List.mem_flatMap.mp listed
  have declared := (List.mem_filter.mp kept).1
  rwa [(declared_facts declared).1]

/-- The first type of a chain comes before all others. -/
theorem gather_cons (type : Ty) (rest : List Ty) : registry.gather asks (type :: rest) =
    (registry.declaredMembers type).filter (asks type) ++ registry.gather asks rest := rfl

/-- A new member comes behind those of its own type, and before those of the types after that. -/
theorem gather_declare_cons (type : Ty) (rest : List Ty) :
    (registry.declare id declaration).gather asks (type :: rest) =
      (registry.declaredMembers type).filter (asks type) ++
        ((registry.newMember? id declaration type).toList.filter (asks type) ++
          (registry.declare id declaration).gather asks rest) := by
  rw [gather_cons, declaredMembers_declare, List.filter_append, List.append_assoc]

/-- A new member that nobody asks for changes nothing. -/
theorem gather_declare_of_unasked (unasked : ∀ type ∈ types, ∀ member,
    registry.newMember? id declaration type = some member → asks type member = false) :
    (registry.declare id declaration).gather asks types = registry.gather asks types := by
  induction types with
  | nil => rfl
  | cons type rest inductionHypothesis =>
    have none : (registry.newMember? id declaration type).toList.filter (asks type) = [] := by
      rw [List.filter_eq_nil_iff]
      intro member added
      simpa using unasked type List.mem_cons_self member (by simpa using added)
    rw [gather_declare_cons, none, List.nil_append, gather_cons,
      inductionHypothesis fun type inside => unasked type (List.mem_cons_of_mem _ inside)]

/-- Where the definition does not come before a class, what is gathered up to that class stays at
the front. -/
theorem gather_declare_front (asks : Ty → Member → Bool) (declaration : Declaration)
    {declaring : Ty}
    (later : ∀ type, type.definition? = some id → ¬ [type, declaring].Sublist types) :
    ∃ front behind after, registry.gather asks types = front ++ behind ∧
      (registry.declare id declaration).gather asks types = front ++ after ∧
      ∀ member ∈ registry.gather asks types, member.declaring = declaring → member ∈ front := by
  induction types with
  | nil => exact ⟨[], [], [], rfl, rfl, by simp [gather]⟩
  | cons type rest inductionHypothesis =>
    by_cases own : type.definition? = some id
    · refine ⟨_, _, _, gather_cons type rest, gather_declare_cons type rest, ?_⟩
      intro member listed same
      refine (List.mem_append.mp listed).resolve_right fun further => later type own ?_
      exact (List.singleton_sublist.mpr (same ▸ mem_gather further)).cons_cons type
    · obtain ⟨front, behind, after, before, changed, covers⟩ := inductionHypothesis
        fun other named inside => later other named (inside.cons type)
      refine ⟨(registry.declaredMembers type).filter (asks type) ++ front, behind, after,
        ?_, ?_, ?_⟩
      · rw [gather_cons, before, List.append_assoc]
      · rw [gather_declare_cons, newMember?, if_neg own, changed, List.append_assoc]
        rfl
      · intro member listed same
        rcases List.mem_append.mp listed with here | further
        · exact List.mem_append_left _ here
        · exact List.mem_append_right _ (covers member further same)

/-- The new declaration overtakes a class at the first type of a chain or further on. -/
theorem overtakes_cons {question : Member → Bool} {type declaring : Ty} {rest : List Ty} :
    registry.Overtakes id declaration asks question (type :: rest) declaring ↔
      (declaring ∈ rest ∧ ∃ member, registry.newMember? id declaration type = some member ∧
        asks type member = true ∧ question member = true) ∨
      registry.Overtakes id declaration asks question rest declaring := by
  constructor
  · rintro ⟨other, member, before, added, asked, answers⟩
    rcases List.sublist_cons_iff.mp before with further | ⟨tail, split, here⟩
    · exact Or.inr ⟨other, member, further, added, asked, answers⟩
    · obtain ⟨rfl, rfl⟩ := List.cons.inj split
      exact Or.inl ⟨List.singleton_sublist.mp here, member, added, asked, answers⟩
  · rintro (⟨inside, member, added, asked, answers⟩ | ⟨other, member, before, rest⟩)
    · have before := (List.singleton_sublist.mpr inside).cons_cons type
      exact ⟨type, member, before, added, asked, answers⟩
    · exact ⟨other, member, before.cons type, rest⟩

/-- What is overtaken stands behind. -/
theorem Overtakes.mem {question : Member → Bool} {declaring : Ty}
    (overtakes : registry.Overtakes id declaration asks question types declaring) :
    declaring ∈ types := by
  obtain ⟨type, _, before, -⟩ := overtakes
  exact before.subset (by simp)

/-- In a chain without repetitions, the first type is not overtaken. -/
theorem not_overtakes_head {question : Member → Bool} {type : Ty} {rest : List Ty}
    (unrepeated : type ∉ rest) :
    ¬ registry.Overtakes id declaration asks question (type :: rest) type := by
  intro overtakes
  rcases overtakes_cons.mp overtakes with ⟨inside, -⟩ | further
  · exact unrepeated inside
  · exact unrepeated further.mem

/-- A search comes to the same member as before, or to one of another class, and the second exactly
when the new declaration overtakes the member. -/
theorem find?_gather_declare (id : DefinitionId) (declaration : Declaration)
    {question : Member → Bool} {found : Member} (distinct : types.Nodup)
    (first : (registry.gather asks types).find? question = some found) :
    ∃ other, ((registry.declare id declaration).gather asks types).find? question = some other ∧
      (other = found ∧
          ¬ registry.Overtakes id declaration asks question types found.declaring ∨
        other.declaring ≠ found.declaring ∧
          registry.Overtakes id declaration asks question types found.declaring) := by
  induction types with
  | nil => simp [gather] at first
  | cons type rest inductionHypothesis =>
    obtain ⟨unrepeated, restDistinct⟩ := List.nodup_cons.mp distinct
    rw [gather_cons, List.find?_append] at first
    rw [gather_declare_cons, List.find?_append]
    cases here : ((registry.declaredMembers type).filter (asks type)).find? question with
    | some own =>
      obtain rfl : own = found := by simpa [here] using first
      have ownType : own.declaring = type :=
        (declared_facts (List.mem_filter.mp (List.mem_of_find?_eq_some here)).1).1
      rw [ownType]
      exact ⟨own, rfl, Or.inl ⟨rfl, not_overtakes_head unrepeated⟩⟩
    | none =>
      have later : (registry.gather asks rest).find? question = some found := by
        simpa [here] using first
      have behind : found.declaring ∈ rest := mem_gather (List.mem_of_find?_eq_some later)
      rw [Option.none_or, List.find?_append]
      cases added : ((registry.newMember? id declaration type).toList.filter (asks type)).find?
          question with
      | some other =>
        obtain ⟨inside, asked⟩ := List.mem_filter.mp (List.mem_of_find?_eq_some added)
        have new : registry.newMember? id declaration type = some other := by simpa using inside
        have overtakes := overtakes_cons.mpr
          (Or.inl ⟨behind, other, new, asked, List.find?_some added⟩)
        refine ⟨other, rfl, Or.inr ⟨?_, overtakes⟩⟩
        obtain ⟨-, _, _, rfl⟩ := newMember?_eq_some new
        rw [seenFrom_declaring]
        rintro rfl
        exact unrepeated behind
      | none =>
        have unanswered : ¬ ∃ member, registry.newMember? id declaration type = some member ∧
            asks type member = true ∧ question member = true := by
          rintro ⟨member, new, asked, answers⟩
          simp [new, asked, answers] at added
        rw [Option.none_or, overtakes_cons]
        simpa only [unanswered, and_false, false_or] using inductionHypothesis restDistinct later

end Gather

end Registry

end LateBinding
