import LateBinding.Proofs.Enumeration

/-!
# How declarations are put together

A definition is put together from declarations that stand by themselves and from events. Only a
property has accessors, so that reading or writing a field never runs a body. An event never comes
alone: the private field that holds its handlers comes right before it.

A declaration as a piece of data is free to have a field with a getter, or an event that names
somebody else's field. `Registry.Composed` excludes just this, and asks nothing of names, types,
bases or scripts.
-/
namespace LateBinding

namespace Declaration

/-- The private field that holds the handlers of an event. -/
def backing (name : String) : Declaration :=
  { name, kind := .field, type := .delegate, visibility := .privateAccess }

/-- Whether a declaration may stand by itself: it is no event, a property has no slot, and nothing
but a property has accessors. -/
def standsAlone (declaration : Declaration) : Bool :=
  match declaration.kind, declaration.body with
  | .event, _ | _, .event _ | .property, .field => false
  | .property, _ => true
  | _, .property _ _ => false
  | _, _ => true

/-- Declarations that are put together from single ones and from events. -/
inductive Composed : List Declaration → Prop
  | nil : Composed []
  | single {declaration : Declaration} {rest : List Declaration} :
    declaration.standsAlone = true → Composed rest → Composed (declaration :: rest)
  | event (name : String) {rest : List Declaration} :
    Composed rest → Composed (Declaration.event name ++ rest)

variable {declarations : List Declaration}

/-- With an event two things are declared, the field that holds the handlers and the event itself.
-/
theorem mem_event_iff {declaration : Declaration} {name : String} :
    declaration ∈ event name ↔ declaration = backing name ∨
      declaration = { name, kind := .event, type := .delegate, body := .event name } := by
  simp [event, backing]

/-- A field has no accessors. -/
theorem Composed.field_body (composed : Composed declarations) :
    ∀ declaration ∈ declarations, declaration.kind = .field →
      ∀ getter setter, declaration.body ≠ .property getter setter := by
  induction composed with
  | nil => simp
  | @single first rest alone composed inductionHypothesis =>
    intro declaration listed field getter setter accessors
    rcases List.mem_cons.mp listed with rfl | later
    · simp [standsAlone, field, accessors] at alone
    · exact inductionHypothesis declaration later field getter setter accessors
  | event name composed inductionHypothesis =>
    intro declaration listed field getter setter accessors
    rcases List.mem_append.mp listed with own | later
    · rcases mem_event_iff.mp own with rfl | rfl
      · simp [backing] at accessors
      · simp at accessors
    · exact inductionHypothesis declaration later field getter setter accessors

/-- An event keeps its handlers in the field that comes with it. -/
theorem Composed.event_backing (composed : Composed declarations) :
    ∀ declaration ∈ declarations, declaration.kind = .event →
      declaration.body = .event declaration.name ∧ backing declaration.name ∈ declarations := by
  induction composed with
  | nil => simp
  | @single first rest alone composed inductionHypothesis =>
    intro declaration listed event
    rcases List.mem_cons.mp listed with rfl | later
    · simp [standsAlone, event] at alone
    · obtain ⟨body, field⟩ := inductionHypothesis declaration later event
      exact ⟨body, List.mem_cons_of_mem _ field⟩
  | event name composed inductionHypothesis =>
    intro declaration listed event
    rcases List.mem_append.mp listed with own | later
    · rcases mem_event_iff.mp own with rfl | rfl
      · simp [backing] at event
      · exact ⟨rfl, List.mem_append_left _ (mem_event_iff.mpr (Or.inl rfl))⟩
    · obtain ⟨body, field⟩ := inductionHypothesis declaration later event
      exact ⟨body, List.mem_append_right _ field⟩

end Declaration

namespace Registry

/-- Whether all definitions are put together from single declarations and events. -/
def Composed (registry : Registry) : Prop :=
  ∀ definition ∈ registry.definitions, Declaration.Composed definition.declarations

variable {registry : Registry}

/-- What a definition of the registry declares was composed by the builder. -/
theorem Composed.declarations (composed : registry.Composed) {id : DefinitionId}
    {definition : Definition} (found : registry.definition? id = some definition) :
    Declaration.Composed definition.declarations :=
  composed definition (List.mem_of_getElem? found)

/-- A field that a type declares has no accessors. -/
theorem Composed.member_body (composed : registry.Composed) {type : Ty} {member : Member}
    (declared : member ∈ registry.declaredMembers type) (field : member.kind = .field)
    (getter setter : Option Script) : member.body ≠ .property getter setter := by
  obtain ⟨id, arguments, definition, index, declaration, rfl, found, stored, rfl⟩ :=
    mem_declaredMembers_iff.mp declared
  exact (composed.declarations found).field_body declaration (List.mem_of_getElem? stored) field
    getter setter

/-- What is declared with an event looks the same from every type. -/
theorem toDeclaration_seenFrom {name : String} {declaration : Declaration}
    (listed : declaration ∈ Declaration.event name) (id : DefinitionId) (type : Ty)
    (images : Substitution) (index : Nat) :
    (seenFrom id type images declaration index).toDeclaration = declaration := by
  rcases Declaration.mem_event_iff.mp listed with rfl | rfl <;>
    simp [seenFrom, Member.specialize, Declaration.backing, Ty.replace]

/-- With an event a type declares the field of its name that holds the handlers. -/
theorem Composed.member_backing (composed : registry.Composed) {type : Ty} {event : Member}
    (declared : event ∈ registry.declaredMembers type) (isEvent : event.kind = .event) :
    event.body = .event event.name ∧
      ∃ field ∈ registry.declaredMembers type, field.toDeclaration = .backing event.name := by
  obtain ⟨id, arguments, definition, index, declaration, rfl, found, stored, rfl⟩ :=
    mem_declaredMembers_iff.mp declared
  obtain ⟨body, listed⟩ := (composed.declarations found).event_backing declaration
    (List.mem_of_getElem? stored) isEvent
  obtain ⟨place, atPlace⟩ := List.getElem?_of_mem listed
  have field := mem_declaredMembers_iff.mpr
    ⟨id, arguments, definition, place, .backing declaration.name, rfl, found, atPlace, rfl⟩
  have backing : .backing declaration.name ∈ Declaration.event declaration.name :=
    Declaration.mem_event_iff.mpr (Or.inl rfl)
  exact ⟨body, _, field, toDeclaration_seenFrom backing _ _ _ _⟩

end Registry

end LateBinding
