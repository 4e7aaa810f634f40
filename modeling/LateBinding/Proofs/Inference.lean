import LateBinding.Proofs.Closing
import LateBinding.Proofs.Acceptance

/-!
# Inference through a receiver

A receiver that reaches one instantiation of a generic definition fixes the arguments of that
definition before anything else is matched. From there on every parameter is bound, and each
match comes down to assignability under the bindings. So a member of the open definition matches
a receiver and arguments exactly when the host accepts the arguments on the member of the
instantiation, although the one works through the arguments with bindings and the other
substitutes first.
-/
namespace LateBinding

namespace Registry.WellFormed

variable {registry : Registry} (sound : registry.WellFormed)
include sound

/-! ## Once every parameter is bound -/

/-- Arguments that fit under the bindings match, and leave every binding as it is. -/
theorem matchParameters_complete {declared : List Ty} {actual : List (Option Ty)}
    {before : Bindings} (accepted : List.Forall₂ (registry.Accepts before) declared actual)
    (bound : ∀ type ∈ declared, before.Binds type)
    (declaredApplied : ∀ type ∈ declared, registry.wellApplied type = true)
    (typed : ∀ type, some type ∈ actual →
      registry.wellApplied type = true ∧ registry.SingleInstances type)
    (distinct : before.keys.Nodup) (position : Nat) :
    ∃ after resolved, registry.matchParameters position declared actual before =
      .ok (after, resolved) ∧ Bindings.Grows (fun _ _ => True) before after := by
  suffices general : ∀ between : Bindings, Bindings.Grows (fun _ _ => True) before between →
      ∃ after resolved, registry.matchParameters position declared actual between =
        .ok (after, resolved) ∧ Bindings.Grows (fun _ _ => True) before after from
    general before (.refl before)
  induction accepted generalizing position with
  | nil => exact fun between grows => ⟨between, [], by simp [matchParameters], grows⟩
  | @cons type argument rest others fits _ inductionHypothesis =>
    intro between grows
    have restBound := fun type inside => bound type (List.mem_cons_of_mem _ inside)
    have restApplied := fun type inside => declaredApplied type (List.mem_cons_of_mem _ inside)
    have othersTyped := fun type inside => typed type (List.mem_cons_of_mem _ inside)
    have later := inductionHypothesis restBound restApplied othersTyped (position + 1)
    cases argument with
    | none =>
      obtain ⟨after, resolved, matched, further⟩ := later between grows
      exact ⟨after, type :: resolved,
        matchParameters_none_eq_ok.mpr ⟨fits, resolved, matched, rfl⟩, further⟩
    | some actual =>
      obtain ⟨applied, single⟩ := typed actual List.mem_cons_self
      have binds := bound type List.mem_cons_self
      have betweenDistinct := grows.distinct distinct
      have admitted : registry.isAssignable actual (type.replace between.all) = true := by
        rw [Bindings.replace_all_of_grows grows distinct binds]
        exact fits
      obtain ⟨head, next, here⟩ := (sound.matchType_iff_of_binds (grows.binds binds) betweenDistinct
        (declaredApplied type List.mem_cons_self) applied single).mpr admitted
      have step := sound.matchType_grows false type actual between
      rw [here] at step
      obtain ⟨after, resolved, matched, further⟩ :=
        later next (grows.trans (step.mono fun _ _ _ => trivial))
      exact ⟨after, head :: resolved,
        matchParameters_some_eq_ok.mpr ⟨head, next, resolved, here, matched, rfl⟩, further⟩

/-- Nothing is expected of the member's type, or a value is assigned that fits it. -/
theorem matchResult_complete {member : Member} {expectation : Expectation} {before : Bindings}
    (expected : expectation = .any ∨ ∃ value, expectation = .accepts value ∧
      registry.Accepts before member.type value ∧ ∀ type, value = some type →
        registry.wellApplied type = true ∧ registry.SingleInstances type)
    (bound : before.Binds member.type) (typeApplied : registry.wellApplied member.type = true)
    (distinct : before.keys.Nodup) (position : Nat) :
    ∃ after, registry.matchResult member expectation position before = .ok after ∧
      Bindings.Grows (fun _ _ => True) before after := by
  rcases expected with rfl | ⟨value, rfl, fits, typed⟩
  · exact ⟨before, matchResult_eq_ok.mpr (Or.inl ⟨Or.inr rfl, rfl⟩), .refl before⟩
  · cases valued : member.hasValueFor (.accepts value) with
    | false => exact ⟨before, matchResult_eq_ok.mpr (Or.inl ⟨Or.inl valued, rfl⟩), .refl before⟩
    | true =>
      cases value with
      | none =>
        have admitted : registry.matchResult member (.accepts none) position before = .ok before :=
          matchResult_eq_ok.mpr (Or.inr ⟨valued, Or.inr (Or.inr ⟨rfl, fits, rfl⟩)⟩)
        exact ⟨before, admitted, .refl before⟩
      | some actual =>
        obtain ⟨applied, single⟩ := typed actual rfl
        obtain ⟨resolved, after, here⟩ :=
          (sound.matchType_iff_of_binds bound distinct typeApplied applied single).mpr fits
        have admitted : registry.matchResult member (.accepts (some actual)) position before =
            .ok after :=
          matchResult_eq_ok.mpr (Or.inr ⟨valued, Or.inr (Or.inl ⟨actual, resolved, rfl, here⟩)⟩)
        have grows := sound.matchType_grows false member.type actual before
        rw [here] at grows
        exact ⟨after, admitted, grows.mono fun _ _ _ => trivial⟩

end Registry.WellFormed

namespace Registry

/-! ## The receiver -/

/-- A receiver that fixes the arguments of the open definition that an instance member without
own parameters is declared on. -/
structure Fixes (registry : Registry) (id : DefinitionId) (definition : Definition)
    (receiver : Ty) (types : List Ty) (member : Member) : Prop where
  found : registry.definition? id = some definition
  declared : member ∈ registry.declaredMembers (registry.openType id)
  isInstance : member.isStatic = false
  called : member.kind ≠ .constructor
  generics : member.generics = []
  applied : registry.wellApplied receiver = true
  reached : registry.Reaches receiver (.named id types)
  only : ∀ {others}, registry.Reaches receiver (.named id others) → others = types

namespace Fixes

variable {registry : Registry} {id : DefinitionId} {definition : Definition} {receiver : Ty}
  {types : List Ty} {member : Member}
  (fixes : registry.Fixes id definition receiver types member)
include fixes

/-- The open type of the definition is applied to its own parameters. -/
theorem openType_eq :
    registry.openType id = .named id ((definition.parameters id).map .parameter) := by
  rw [openType, parameters, fixes.found, Option.elim_some]

/-- The member is declared there. -/
theorem declaring_eq :
    member.declaring = .named id ((definition.parameters id).map .parameter) :=
  (declared_facts fixes.declared).1.trans fixes.openType_eq

/-- The open type is well applied. -/
theorem applied_openType :
    registry.wellApplied (.named id ((definition.parameters id).map .parameter)) = true := by
  refine (registry.wellApplied_named_iff _ _).mpr ⟨⟨definition, fixes.found, by simp⟩, ?_⟩
  intro argument inside
  obtain ⟨p, _, rfl⟩ := List.mem_map.mp inside
  rfl

/-- The parameters of the definition are all that has to be inferred. -/
theorem mem_wantedParameters {p : Parameter} :
    p ∈ member.wantedParameters ↔ p ∈ definition.parameters id := by
  obtain ⟨_, unclosed, _⟩ := declared_facts fixes.declared
  have noneOwn : member.methodParameters = [] := by
    simp [Member.methodParameters, fixes.generics]
  rw [Member.wantedParameters, Member.wantedMethodParameters_eq unclosed, noneOwn,
    List.append_nil, Ty.mem_parameters, fixes.declaring_eq]
  simp

section Sound

variable (sound : registry.WellFormed)
include sound

/-- The receiver has an argument for each parameter of the definition. -/
theorem count : definition.generics.length = types.length := by
  have applied := sound.wellApplied_of_reaches fixes.applied fixes.reached
  exact length_of_wellApplied applied fixes.found

/-- The arguments take the places of the definition's parameters. -/
theorem map_images : ((definition.parameters id).map Ty.parameter).map
    (Ty.replace (definition.images id types)) = types := by
  rw [List.map_map]
  exact Definition.map_images (fixes.count sound)

/-- The member as it is declared on the instantiation that the receiver reaches. -/
theorem form_declared : member.seenAs (definition.images id types) (.named id types) ∈
    registry.declaredMembers (.named id types) := by
  have declared := fixes.declared
  rw [fixes.openType_eq] at declared
  have form := sound.specialize_declared fixes.applied_openType declared
    (definition.keepsMethodLevel_images id types)
  rwa [fixes.map_images sound] at form

/-- The member's signature mentions the parameters of the definition only. -/
theorem mentioned_mem {mentioned : Ty}
    (inside : mentioned = member.type ∨ mentioned ∈ member.parameters) {p : Parameter}
    (occurs : p ∈ mentioned.occurrences) : p ∈ definition.parameters id := by
  have declared := fixes.declared
  rw [fixes.openType_eq] at declared
  have scope := sound.scoped_of_declared fixes.applied_openType declared inside occurs
  simpa [Member.methodParameters, fixes.generics] using scope

/-- Every type the member mentions is well applied. -/
theorem member_applied : member.Applied registry :=
  sound.applied_of_declared (fixes.openType_eq ▸ fixes.applied_openType) fixes.declared

/-- Matching the receiver succeeds and binds every parameter of the definition to its argument,
after which nothing waits any longer. -/
theorem matchReceiver_complete : ∃ received,
    registry.matchReceiver member (some receiver) (.seedAll .empty member.wantedParameters) =
      .ok received ∧ received.keys.Nodup ∧ (∀ p, received.get? p ≠ some none) ∧
      ∀ p ∈ definition.parameters id,
        received.bound? p = some ((definition.images id types).image p) := by
  obtain ⟨noneBound, asked, seededDistinct⟩ := Bindings.seedAll_empty member.wantedParameters
  have path : registry.Reaches receiver ((Ty.named id
      ((definition.parameters id).map .parameter)).replace (definition.images id types)) := by
    rw [Ty.replace_named, fixes.map_images sound]
    exact fixes.reached
  have instantiated : registry.instantiation? receiver id = some
      (((definition.parameters id).map Ty.parameter).map
        (Ty.replace (definition.images id types))) := by
    obtain ⟨others, first⟩ := sound.instantiation?_isSome fixes.reached
    rw [first, fixes.map_images sound, fixes.only (sound.reaches_of_instantiation? first)]
  have seededAgrees : (Bindings.seedAll .empty member.wantedParameters).Agrees
      (definition.images id types) := by
    intro p type bound
    simp [noneBound] at bound
  obtain ⟨received, matched, recovers⟩ :=
    sound.matchType_named_complete path instantiated seededAgrees
  have grows := sound.matchType_grows false
    (.named id ((definition.parameters id).map .parameter)) receiver
    (.seedAll .empty member.wantedParameters)
  rw [matched] at grows
  have bound : ∀ p ∈ definition.parameters id,
      received.bound? p = some ((definition.images id types).image p) :=
    fun p own => recovers.bound (by simpa using own)
  refine ⟨received, ?_, grows.distinct seededDistinct, fun p waits => ?_, bound⟩
  · rw [← fixes.declaring_eq] at matched
    exact matchReceiver_eq_ok.mpr (Or.inr ⟨receiver, _, rfl, fixes.isInstance, fixes.called,
      matched⟩)
  · have seeded : p ∈ (Bindings.seedAll .empty member.wantedParameters).keys :=
      (OrderedMap.mem_keys_iff _ _).mpr ⟨none, grows.waiting waits⟩
    have found := bound p (fixes.mem_wantedParameters.mp ((asked p).mp seeded))
    rw [Bindings.bound?_eq_some_iff, waits] at found
    simp at found

/-- What fits the form fits the open member once the receiver is matched. -/
theorem replace_all {bindings : Bindings} (distinct : bindings.keys.Nodup)
    (bound : ∀ p ∈ definition.parameters id,
      bindings.bound? p = some ((definition.images id types).image p)) {mentioned : Ty}
    (inside : mentioned = member.type ∨ mentioned ∈ member.parameters) :
    mentioned.replace bindings.all = mentioned.replace (definition.images id types) :=
  Ty.replace_congr mentioned fun p occurs =>
    Bindings.image_all distinct (bound p (fixes.mentioned_mem sound inside occurs))

/-- The same said of all parameter types at once. -/
theorem forall₂_admitsType {bindings : Bindings} (distinct : bindings.keys.Nodup)
    (bound : ∀ p ∈ definition.parameters id,
      bindings.bound? p = some ((definition.images id types).image p))
    (arguments : List (Option Ty)) :
    List.Forall₂ (fun type argument =>
        registry.admitsType (type.replace bindings.all) argument = true)
        member.parameters arguments ↔
      List.Forall₂ (fun type argument => registry.admitsType type argument = true)
        (member.seenAs (definition.images id types) (.named id types)).parameters arguments := by
  have same : member.parameters.map (Ty.replace (definition.images id types)) =
      member.parameters.map (Ty.replace bindings.all) :=
    List.map_congr_left fun type inside =>
      (fixes.replace_all sound distinct bound (Or.inr inside)).symm
  rw [Member.seenAs_parameters, same, List.forall₂_map_left_iff]

/-- Arguments, and an assigned value, that fit the form unify with the open member. -/
theorem unifyWith_complete {arguments : List (Option Ty)} {expectation : Expectation}
    (typed : ∀ type, some type ∈ arguments →
      registry.wellApplied type = true ∧ registry.SingleInstances type)
    (admitted : List.Forall₂ (fun type argument => registry.admitsType type argument = true)
      (member.seenAs (definition.images id types) (.named id types)).parameters arguments)
    (expected : expectation = .any ∨ ∃ value, expectation = .accepts value ∧
      registry.admitsType (member.type.replace (definition.images id types)) value = true ∧
      ∀ type, value = some type →
        registry.wellApplied type = true ∧ registry.SingleInstances type) :
    ∃ matched, registry.unifyWith member (some receiver) arguments expectation = .ok matched := by
  obtain ⟨received, first, distinct, settled, bound⟩ := fixes.matchReceiver_complete sound
  have applied := fixes.member_applied sound
  have binds : ∀ mentioned, mentioned = member.type ∨ mentioned ∈ member.parameters →
      received.Binds mentioned := fun mentioned inside p occurs =>
    ⟨_, bound p (fixes.mentioned_mem sound inside occurs)⟩
  have count : member.parameters.length = arguments.length := by
    simpa using admitted.length_eq
  -- the result
  have fits : expectation = .any ∨ ∃ value, expectation = .accepts value ∧
      registry.Accepts received member.type value ∧ ∀ type, value = some type →
        registry.wellApplied type = true ∧ registry.SingleInstances type := by
    apply expected.imp_right
    rintro ⟨value, same, admits, valueTyped⟩
    refine ⟨value, same, ?_, valueTyped⟩
    rw [← fixes.replace_all sound distinct bound (Or.inl rfl)] at admits
    cases value with
    | none =>
      rw [admitsType, Bool.not_eq_true', isValueType_replace_eq_false_iff] at admits
      exact admits.1
    | some type => exact admits
  obtain ⟨between, second, toBetween⟩ := sound.matchResult_complete fits (binds _ (Or.inl rfl))
    applied.type distinct arguments.length
  -- the arguments
  have betweenDistinct := toBetween.distinct distinct
  have betweenBound := fun p own => toBetween.kept (bound p own)
  obtain ⟨accepts, _⟩ := (forall₂_admitsType_iff between).mp
    ((fixes.forall₂_admitsType sound betweenDistinct betweenBound arguments).mpr admitted)
  obtain ⟨final, resolved, third, toFinal⟩ := sound.matchParameters_complete accepts
    (fun type inside => toBetween.binds (binds type (Or.inr inside))) applied.parameters typed
    betweenDistinct 0
  -- nothing is left over
  have grows := toBetween.trans toFinal
  have finalDistinct := grows.distinct distinct
  have finalBound := fun p own => grows.kept (bound p own)
  have unbound : final.firstUnbound? = none :=
    (Bindings.firstUnbound?_eq_none_iff finalDistinct).mpr fun p waits =>
      settled p (grows.waiting waits)
  have passes : ∀ entry ∈ deferredNulls member arguments expectation,
      registry.isValueType (entry.2.replace final.all) = false := by
    refine (forall_deferredNulls_iff fun type =>
      registry.isValueType (type.replace final.all) = false).mpr ⟨?_, ?_⟩
    · rintro _ rfl _
      obtain ⟨value, ⟨⟩, admits, _⟩ := expected.resolve_left (by simp)
      rw [fixes.replace_all sound finalDistinct finalBound (Or.inl rfl)]
      simpa [admitsType] using admits
    · have again := (fixes.forall₂_admitsType sound finalDistinct finalBound arguments).mpr admitted
      exact ((forall₂_admitsType_iff final).mp again).2
  exact ⟨_, unifyWith_eq_ok.mpr
    ⟨count, received, between, final, resolved, first, second, third, unbound, passes, rfl⟩⟩

/-- What unifies infers the arguments that the receiver was fixed to, and fits the form. -/
theorem unifyWith_sound {arguments : List (Option Ty)} {expectation : Expectation}
    (receiverClosed : receiver.isOpen = false)
    (offered : ∀ type ∈ offeredTypes (some receiver) arguments expectation,
      registry.wellApplied type = true) {matched : Match}
    (unified : registry.unifyWith member (some receiver) arguments expectation = .ok matched) :
    (matched.typeArguments = types ∧ matched.methodArguments = [] ∧
      matched.parameterTypes =
        (member.seenAs (definition.images id types) (.named id types)).parameters) ∧
    List.Forall₂ (fun type argument => registry.admitsType type argument = true)
      (member.seenAs (definition.images id types) (.named id types)).parameters arguments ∧
    (member.hasValueFor expectation = true → ∀ value, expectation = .accepts value →
      registry.admitsType (member.type.replace (definition.images id types)) value = true) := by
  obtain ⟨bindings, facts⟩ := sound.unifyWith_unified (fixes.member_applied sound) offered unified
  have inferred : ((definition.parameters id).map Ty.parameter).map (Ty.replace bindings.all) =
      types := by
    have admitted := facts.received receiver rfl fixes.isInstance fixes.called
    rw [fixes.declaring_eq, Ty.replace_named] at admitted
    exact fixes.only ((sound.isAssignable_iff.mp admitted).resolve_left (by simp))
  have bound : ∀ p ∈ definition.parameters id,
      bindings.bound? p = some ((definition.images id types).image p) := by
    intro p own
    obtain ⟨type, found⟩ := facts.bound p (fixes.mem_wantedParameters.mpr own)
    rw [← fixes.map_images sound, List.map_map, List.map_map] at inferred
    have same := List.map_inj_left.mp inferred p own
    simp only [Function.comp_apply, Ty.replace_parameter] at same
    rw [found, ← same, Bindings.image_all facts.distinct found]
  have typeLevel : ∀ p ∈ definition.parameters id,
      bindings.typeLevel.image p = (definition.images id types).image p := by
    intro p own
    rw [Bindings.image_typeLevel facts.distinct (bound p own), resolvedParameter, if_neg]
    simp [Definition.isMethodLevel_of_mem_parameters own]
  have boundClosed : ∀ p ∈ definition.parameters id,
      ((definition.images id types).image p).isOpen = false := by
    intro p own
    have instanceClosed : (Ty.named id types).isOpen = false :=
      sound.isOpen_of_reaches fixes.applied receiverClosed fixes.reached
    rw [Ty.isOpen_named, List.any_eq_false] at instanceClosed
    simpa using instanceClosed _ (Definition.image_mem (fixes.count sound) own)
  refine ⟨⟨?_, ?_, ?_⟩, ?_, fun valued value same => ?_⟩
  · conv_rhs => rw [← fixes.map_images sound]
    rw [facts.typeArguments, fixes.declaring_eq, Ty.arguments, List.map_map, List.map_map]
    exact List.map_congr_left fun p own => typeLevel p own
  · obtain ⟨_, unclosed, _⟩ := declared_facts fixes.declared
    have count := facts.length_methodArguments unclosed
    rw [fixes.generics] at count
    exact List.length_eq_zero_iff.mp count.symm
  · rw [facts.parameterTypes_of_closed, Member.seenAs_parameters]
    · apply List.map_congr_left
      intro type inside
      apply Ty.replace_congr
      intro p occurs
      exact typeLevel p (fixes.mentioned_mem sound (Or.inr inside) occurs)
    · intro type inside p occurs image found
      have own := fixes.mentioned_mem sound (Or.inr inside) occurs
      obtain rfl := Option.some.inj (found.symm.trans (bound p own))
      exact boundClosed p own
  · exact (fixes.forall₂_admitsType sound facts.distinct bound arguments).mp facts.admitted
  · rw [← fixes.replace_all sound facts.distinct bound (Or.inl rfl)]
    exact facts.assigned valued value same

end Sound

end Fixes

variable {registry : Registry}

/-- The host's check of a value passes exactly what its declared type admits. -/
theorem checkValue_eq_ok_iff {declared : Ty} {value : Value} :
    registry.checkValue declared value = .ok () ↔
      registry.admitsType declared value.type? = true := by
  rw [checkValue, ← admits_eq_admitsType]
  cases registry.admits declared value <;> simp

/-- Whether the type of a value is well applied and reaches no definition twice. -/
def Plain (registry : Registry) (value : Value) : Prop :=
  ∀ type, value.type? = some type →
    registry.wellApplied type = true ∧ registry.SingleInstances type

/-- A member of an open definition unifies with a receiver that fixes the definition's arguments,
and with arguments, exactly when the host accepts the arguments on the form that the member has
on the instantiation reached. A property that is assigned a value unifies exactly when the host
accepts the indices and the value. A match consists of the arguments of that instantiation and
the parameter types of that form. -/
theorem unify_iff_checkArguments (sound : registry.WellFormed) {id : DefinitionId}
    {member : Member} (declared : member ∈ registry.declaredMembers (registry.openType id))
    (valued : member.kind = .method ∨ member.kind = .property)
    (isInstance : member.isStatic = false) (generics : member.generics = []) {receiver : Ty}
    (applied : registry.wellApplied receiver = true) (closed : receiver.isOpen = false)
    {types : List Ty} (reached : registry.Reaches receiver (.named id types))
    (only : ∀ {others}, registry.Reaches receiver (.named id others) → others = types)
    (arguments : List Value) (plain : ∀ value ∈ arguments, registry.Plain value) :
    ∃ form ∈ registry.declaredMembers (.named id types), form.id = member.id ∧
      ((∃ matched, registry.unify member (some receiver) (argumentTypes arguments) none =
          .ok matched) ↔ registry.checkArguments form arguments = .ok ()) ∧
      (∀ matched, registry.unify member (some receiver) (argumentTypes arguments) none =
          .ok matched → matched = ⟨types, [], form.parameters⟩) ∧
      (member.kind = .property → ∀ value : Value, registry.Plain value →
        ((∃ matched, registry.unifyAssignment member (some receiver) (argumentTypes arguments)
            value.type? = .ok matched) ↔
          registry.checkArguments form arguments = .ok () ∧
            registry.checkValue form.type value = .ok ()) ∧
        ∀ matched, registry.unifyAssignment member (some receiver) (argumentTypes arguments)
          value.type? = .ok matched → matched = ⟨types, [], form.parameters⟩) := by
  obtain ⟨_, _, definition, _, _, same, found, _, _⟩ := mem_declaredMembers_iff.mp declared
  obtain ⟨rfl, -⟩ := Ty.named.inj same
  have called : member.kind ≠ .constructor := by
    rcases valued with method | property
    · simp [method]
    · simp [property]
  have fixes : registry.Fixes id definition receiver types member :=
    { found, declared, isInstance, called, generics, applied, reached, only }
  have typed : ∀ type, some type ∈ argumentTypes arguments →
      registry.wellApplied type = true ∧ registry.SingleInstances type := by
    intro type inside
    obtain ⟨value, given, sameType⟩ := List.mem_map.mp inside
    exact plain value given type sameType
  have offered : ∀ expectation : Expectation, (∀ type, expectation.type? = some type →
      registry.wellApplied type = true) →
      ∀ type ∈ offeredTypes (some receiver) (argumentTypes arguments) expectation,
        registry.wellApplied type = true := by
    intro expectation expected
    refine forall_mem_offeredTypes.mpr ⟨?_, expected, fun type inside => (typed type inside).1⟩
    rintro _ ⟨⟩
    exact applied
  refine ⟨_, fixes.form_declared sound, rfl, ⟨?_, ?_⟩, ?_, ?_⟩
  · rintro ⟨matched, unified⟩
    exact checkArguments_eq_ok_iff.mpr
      (fixes.unifyWith_sound sound closed (offered .any (by simp [Expectation.type?])) unified).2.1
  · intro accepted
    exact fixes.unifyWith_complete sound typed (checkArguments_eq_ok_iff.mp accepted) (Or.inl rfl)
  · intro matched unified
    obtain ⟨⟨typeArguments, methodArguments, parameterTypes⟩, _⟩ :=
      fixes.unifyWith_sound sound closed (offered .any (by simp [Expectation.type?])) unified
    rw [← parameterTypes, ← typeArguments, ← methodArguments]
  · intro property value valuePlain
    have offeredValue := offered (.accepts value.type?) fun type same => (valuePlain type same).1
    have hasValue : member.hasValueFor (.accepts value.type?) = true := by
      simp [Member.hasValueFor, property]
    refine ⟨⟨?_, ?_⟩, ?_⟩
    · rintro ⟨matched, unified⟩
      obtain ⟨-, admitted, assigned⟩ := fixes.unifyWith_sound sound closed offeredValue unified
      refine ⟨checkArguments_eq_ok_iff.mpr admitted, checkValue_eq_ok_iff.mpr ?_⟩
      rw [Member.seenAs_type]
      exact assigned hasValue value.type? rfl
    · rintro ⟨accepted, valueAccepted⟩
      have admitted := checkValue_eq_ok_iff.mp valueAccepted
      rw [Member.seenAs_type] at admitted
      exact fixes.unifyWith_complete sound typed (checkArguments_eq_ok_iff.mp accepted)
        (Or.inr ⟨_, rfl, admitted, valuePlain⟩)
    · intro matched unified
      obtain ⟨⟨typeArguments, methodArguments, parameterTypes⟩, _⟩ :=
        fixes.unifyWith_sound sound closed offeredValue unified
      rw [← parameterTypes, ← typeArguments, ← methodArguments]

/-- A list of any type, into which values are inserted, and lists of integers below it. -/
def lists : Registry := .ofDefinitions
  [{ name := "List", kind := .classType, generics := ["T"]
     declarations :=
      [{ name := "insert", kind := .method, parameters := [.i32, .parameter ⟨.definition ⟨0⟩, 0⟩]
         body := .native .self }] },
   { name := "IntList", kind := .classType, base := some (.named ⟨0⟩ [.i32]) }]

/-- No parameter is out of place in the lists, and the hierarchy has two levels. -/
theorem lists_wellFormed : lists.WellFormed :=
  .of_definitions _ (by decide) (by decide)

/-- An integer list reaches one instantiation of lists, that of integers. -/
theorem reaches_lists_iff {type : Ty} : lists.Reaches (.named ⟨1⟩ []) type ↔
    type = .named ⟨1⟩ [] ∨ type = .named ⟨0⟩ [.i32] := by
  have listed : lists.supertypes (.named ⟨1⟩ []) = [.named ⟨1⟩ [], .named ⟨0⟩ [.i32]] := by
    decide
  rw [← lists_wellFormed.mem_supertypes_iff, listed]
  simp

/-- The open method unifies with an integer list, a position and an integer. -/
theorem lists_insert_unifies :
    ∃ member ∈ lists.declaredMembers (lists.openType ⟨0⟩), ∃ matched,
      lists.unify member (some (.named ⟨1⟩ [])) [some .i32, some .i32] none = .ok matched ∧
        matched = ⟨[.i32], [], [.i32, .i32]⟩ := by
  have plain : ∀ value ∈ [Value.int 0, Value.int 5], lists.Plain value := by
    intro value inside type same
    obtain ⟨n, rfl⟩ : ∃ n, value = .int n := by
      rcases (by simpa using inside : value = .int 0 ∨ value = .int 5) with rfl | rfl
      · exact ⟨0, rfl⟩
      · exact ⟨5, rfl⟩
    obtain rfl : .i32 = type := Option.some.inj same
    refine ⟨rfl, fun left _ => ?_⟩
    simpa using eq_of_reaches_of_not_named left rfl
  cases stored : (lists.declaredMembers (lists.openType ⟨0⟩))[0]? with
  | none =>
    have absent : (lists.declaredMembers (lists.openType ⟨0⟩))[0]?.isSome = true := by decide
    simp [stored] at absent
  | some member =>
    have facts : ((lists.declaredMembers (lists.openType ⟨0⟩))[0]?.map fun member =>
        (member.kind, member.isStatic, member.generics)) = some (.method, false, []) := by decide
    obtain ⟨kind, isInstance, generics⟩ : member.kind = .method ∧ member.isStatic = false ∧
        member.generics = [] := by simpa [stored] using facts
    have reached : lists.Reaches (.named ⟨1⟩ []) (.named ⟨0⟩ [.i32]) :=
      reaches_lists_iff.mpr (Or.inr rfl)
    have openForm := List.mem_of_getElem? stored
    obtain ⟨form, declared, sameId, agree, content, _⟩ :=
      unify_iff_checkArguments lists_wellFormed openForm (Or.inl kind) isInstance generics
        (by decide) (by decide) reached (fun path => by simpa using reaches_lists_iff.mp path)
        [.int 0, .int 5] plain
    have parameters : ∀ form ∈ lists.declaredMembers (.named ⟨0⟩ [.i32]),
        form.parameters = [.i32, .i32] := by decide
    have admitted : lists.checkArguments form [.int 0, .int 5] = .ok () := by
      rw [checkArguments_eq_ok_iff, parameters form declared]
      exact .cons (by decide) (.cons (by decide) .nil)
    obtain ⟨matched, unified⟩ := agree.mpr admitted
    refine ⟨member, openForm, matched, unified, ?_⟩
    rw [content matched unified, parameters form declared]

end Registry

end LateBinding
