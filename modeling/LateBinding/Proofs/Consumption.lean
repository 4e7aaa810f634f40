import LateBinding.Proofs.Selection

/-!
# The type of a result and the type it is used at

A closed result type is assignable to the type it is used at, as it should be. An open one is
matched as the types of arguments are: what it becomes admits the type it is used at, not the
other way round. Since types that are assignable to one another are the same, the result of such
a member can be used as expected only when it is of exactly the type expected.
-/
namespace LateBinding

namespace Registry

variable {registry : Registry}

/-- What a type may become when it is seen under two sets of arguments: the same type, two
instantiations of one definition, or, on either side, a parameter. -/
inductive Alike : Ty → Ty → Prop
  | same (type : Ty) : Alike type type
  | named (id : DefinitionId) (left right : List Ty) : Alike (.named id left) (.named id right)
  | left (p : Parameter) (type : Ty) : Alike (.parameter p) type
  | right (type : Ty) (p : Parameter) : Alike type (.parameter p)

/-- A substitution keeps the definition of a type. -/
theorem alike_replace (type : Ty) (images : Substitution) : Alike (type.replace images) type := by
  cases type with
  | primitive p => exact .same _
  | object => exact .same _
  | delegate => exact .same _
  | parameter p => exact .right _ p
  | named id arguments =>
    rw [Ty.replace_named]
    exact .named id _ _

namespace WellFormed

variable (sound : registry.WellFormed)
include sound

/-- What reaches a parameter is that parameter. -/
theorem eq_parameter_of_isAssignable {actual : Ty} {p : Parameter}
    (admitted : registry.isAssignable actual (.parameter p) = true) : actual = .parameter p := by
  have path := (sound.isAssignable_iff.mp admitted).resolve_left (by simp)
  rcases sound.eq_or_named_of_reaches path with same | ⟨_, _, named⟩
  · exact same.symm
  · simp at named

/-- Nothing but `object` stands between two types that are alike, other than the lower one. -/
theorem eq_of_isAssignable_of_alike {lower middle upper : Ty} (notObject : middle ≠ .object)
    (up : registry.isAssignable lower middle = true)
    (above : registry.isAssignable middle upper = true) (alike : Alike lower upper) :
    lower = middle := by
  cases alike with
  | same => exact sound.isAssignable_antisymm up above
  | left p =>
    have path := (sound.isAssignable_iff.mp up).resolve_left notObject
    exact (eq_of_reaches_of_not_named path rfl).symm
  | right _ p =>
    obtain rfl := sound.eq_parameter_of_isAssignable above
    exact sound.eq_parameter_of_isAssignable up
  | named id left right =>
    have first := sound.elevation_of_reaches
      ((sound.isAssignable_iff.mp up).resolve_left notObject)
    have second := sound.elevation_of_reaches
      ((sound.isAssignable_iff.mp above).resolve_left (by simp))
    -- the two ends have one elevation, so a strict step up would have to come down again
    have level : registry.elevation (.named id left) = registry.elevation (.named id right) := rfl
    rcases first with same | lower
    · exact same
    · rcases second with rfl | higher
      · omega
      · omega

end WellFormed

/-- What closing makes of a type that a matched member mentions is like what the bindings make
of it. -/
theorem Unified.alike_closed {member : Member} {receiver : Option Ty}
    {arguments : List (Option Ty)} {expectation : Expectation} {bindings : Bindings}
    {matched : Match}
    (unified : registry.Unified member receiver arguments expectation bindings matched)
    (unclosed : member.methodArguments = []) {type : Ty}
    (bound : ∀ p ∈ type.occurrences, ∃ image, bindings.bound? p = some image) :
    Alike ((type.replace bindings.typeLevel).replace
        (.ofParameters member.methodParameters matched.methodArguments))
      (type.replace bindings.all) := by
  cases type with
  | primitive p => exact .same _
  | object => exact .same _
  | delegate => exact .same _
  | named id _ =>
    simp only [Ty.replace_named]
    exact .named id _ _
  | parameter p =>
    obtain ⟨image, found⟩ := bound p (by simp)
    rw [Ty.replace_parameter, Ty.replace_parameter, Bindings.image_all unified.distinct found,
      Bindings.image_typeLevel unified.distinct found, resolvedParameter]
    cases p.isMethodLevel with
    | false => exact alike_replace image _
    | true =>
      rw [if_pos rfl, Ty.replace_parameter]
      by_cases own : p ∈ member.methodParameters
      · rw [unified.image_methodArguments unclosed own found]
        exact .same image
      · rw [Substitution.image_ofParameters_of_not_mem own]
        exact .left p image

/-- The result of a member that was selected for use at a type and kept by closing is assignable
to that type exactly when its declared type is closed or it is of the expected type itself. What
is assured of an open result type is the reverse: the expected type is assignable to what it
becomes. -/
theorem WellFormed.result_isAssignable_iff (sound : registry.WellFormed) {flags : BindingFlags}
    {site : CallSite} {expected : Ty} {resolved : Resolved}
    (applied : ∀ type ∈ site.types, registry.wellApplied type = true)
    (wanted : site.expected = some expected) (notObject : expected ≠ .object)
    (valued : site.kind = .method ∨ site.kind = .property)
    (found : registry.resolveMember flags site = .ok resolved)
    (kept : resolved.member.id = resolved.candidate.id) :
    (registry.isAssignable resolved.member.type expected = true ↔
      (resolved.candidate.type.isOpen = true → resolved.member.type = expected)) ∧
    ((∀ type ∈ offeredTypes site.receiver site.arguments (.ofResult site.expected),
        type.isOpen = false) →
      (∀ p ∈ site.type.occurrences, p.isMethodLevel = false) →
      resolved.candidate.type.isOpen = true →
        registry.isAssignable expected resolved.member.type = true) := by
  obtain ⟨selection, closing⟩ := resolveMember_eq_ok found
  obtain ⟨id, arguments, bindings, selects⟩ := sound.resolve_selects applied selection
  obtain ⟨_, unclosed, _⟩ := declared_facts selects.declared
  have closedMember := (sound.close_keeps_iff selects.applied selects.declared selects.unified
    closing).2 kept
  have closedType : resolved.member.type = (resolved.candidate.type.replace
      bindings.typeLevel).replace
        (.ofParameters resolved.candidate.methodParameters resolved.matched.methodArguments) := by
    rw [closedMember, Member.closeMethod_type, Member.seenAs_type, Member.methodParameters_seenAs]
  have expectation : Expectation.ofResult site.expected = .returns expected := by
    rw [wanted, Expectation.ofResult, if_neg]
    cases expected <;> simp_all [Ty.isObject]
  have hasValue : resolved.candidate.hasValueFor (.ofResult site.expected) = true := by
    rcases valued with method | property
    · simp [Member.hasValueFor, selects.kind, method]
    · simp [Member.hasValueFor, selects.kind, property]
  obtain ⟨whenOpen, whenClosed⟩ := selects.unified.returned hasValue expected expectation
  have bound : ∀ p ∈ resolved.candidate.type.occurrences,
      ∃ image, bindings.bound? p = some image := fun p occurs =>
    sound.bound_of_mentioned selects.applied selects.declared selects.unified (Or.inl rfl) occurs
  refine ⟨⟨fun admitted opened => ?_, fun asExpected => ?_⟩, fun closed plain opened => ?_⟩
  · apply sound.eq_of_isAssignable_of_alike notObject admitted (whenOpen opened)
    rw [closedType]
    exact selects.unified.alike_closed unclosed bound
  · cases opened : resolved.candidate.type.isOpen with
    | true => rw [asExpected opened, isAssignable_self]
    | false =>
      rw [closedType, Ty.replace_of_closed _ opened, Ty.replace_of_closed _ opened]
      exact whenClosed opened
  · have offered := fun type member => applied type (CallSite.mem_types_of_offered member)
    have seenPlain : ∀ p ∈ (Ty.named id arguments).occurrences, p.isMethodLevel = false :=
      fun p occurs => plain p (sound.occurrences_of_reaches
        (applied site.type List.mem_cons_self) selects.reached occurs)
    rw [closedMember, sound.closedForm_type selects.applied selects.declared selects.unified
      (selects.unified.bound_closed sound offered closed) seenPlain]
    exact whenOpen opened

/-- A box of any type, from which its content is taken. -/
def boxes : Registry := .ofDefinitions
  [{ name := "Box", kind := .classType, generics := ["T"]
     declarations :=
      [{ name := "take", kind := .method, type := .parameter ⟨.definition ⟨0⟩, 0⟩
         body := .native .self }] }]

/-- The box mentions its own parameter only. -/
theorem boxes_wellFormed : boxes.WellFormed :=
  .of_definitions _ (by decide) (by decide)

/-- The content of a box of objects is used as an integer. -/
def boxSite : CallSite where
  type := boxes.openType ⟨0⟩
  name := "take"
  kind := .method
  receiver := some (.named ⟨0⟩ [.object])
  arguments := []
  expected := some .i32

/-- It resolves, though its result is an object. -/
theorem boxes_take_isAssignable_reversed :
    boxes.WellFormed ∧ ∃ resolved, boxes.resolveMember .all boxSite = .ok resolved ∧
      resolved.member.id = resolved.candidate.id ∧
      boxes.isAssignable resolved.member.type .i32 = false ∧
      boxes.isAssignable .i32 resolved.member.type = true := by
  have facts : (boxes.resolveMember .all boxSite).toOption.map (fun resolved =>
      (resolved.candidate.id, resolved.member.id, resolved.candidate.type.isOpen,
        resolved.member.type)) = some (⟨⟨0⟩, 0⟩, ⟨⟨0⟩, 0⟩, true, .object) := by decide
  cases found : boxes.resolveMember .all boxSite with
  | error error => simp [found, Except.toOption] at facts
  | ok resolved =>
    obtain ⟨candidate, member, opened, object⟩ : resolved.candidate.id = ⟨⟨0⟩, 0⟩ ∧
        resolved.member.id = ⟨⟨0⟩, 0⟩ ∧ resolved.candidate.type.isOpen = true ∧
        resolved.member.type = .object := by simpa [found, Except.toOption] using facts
    have kept := member.trans candidate.symm
    obtain ⟨exactly, reversed⟩ := boxes_wellFormed.result_isAssignable_iff (by decide) rfl
      (by simp) (Or.inl rfl) found kept
    refine ⟨boxes_wellFormed, resolved, rfl, kept, ?_, reversed (by decide) (by decide) opened⟩
    rw [← Bool.not_eq_true, exactly, object]
    simp [opened]

end Registry

end LateBinding
