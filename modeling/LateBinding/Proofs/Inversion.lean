import LateBinding.Proofs.Closing

/-!
# Inference inverts instantiation

A substitution makes a call site of a member: a receiver, arguments and perhaps an expected
result that have exactly the types of the member under the substitution. Unifying the member
with that call site gives the substitution back, as far as the call site shows it. Each step of
the unification is a match of a declared type with its instance, so the bindings agree with the
substitution throughout, and what is matched is bound; the steps only differ in the types that
they match.

The own parameters of a member stay in the parameter types of the match, and their images are
answered apart.
-/
namespace LateBinding

namespace Member

/-- Whether a receiver takes part in unification: instance members other than constructors have
one. -/
def hasReceiver (member : Member) : Bool :=
  !member.isStatic && member.kind ≠ .constructor

/-- The type of the receiver at the call site that a substitution makes of a member. -/
def receiverUnder (member : Member) (images : Substitution) : Option Ty :=
  if member.hasReceiver then some (member.declaring.replace images) else none

/-- The types of the arguments at that call site. -/
def argumentsUnder (member : Member) (images : Substitution) : List (Option Ty) :=
  member.parameters.map fun type => some (type.replace images)

/-- The types of a member that are matched with a call site, its result type only where a result
is expected. -/
def matchedTypes (member : Member) (expected : Option Ty) : List Ty :=
  (if member.hasReceiver then [member.declaring] else []) ++
    ((if expected.isSome then [member.type] else []) ++ member.parameters)

end Member

namespace Expectation

/-- Any type but the one of all objects is a demand on the result. -/
theorem ofResult_of_ne {type : Ty} (notObject : type ≠ .object) :
    ofResult (some type) = .returns type := by
  cases type with
  | object => exact absurd rfl notObject
  | primitive _ | delegate | parameter _ | named _ _ => rfl

/-- A result that is expected is not assigned. -/
theorem ofResult_ne_accepts (expected : Option Ty) (value : Option Ty) :
    ofResult expected ≠ .accepts value := by
  cases expected with
  | none => simp [ofResult]
  | some type => cases type <;> simp [ofResult, Ty.isObject]

end Expectation

/-- Growth of bindings within a substitution, by which the parameters of some types are bound. -/
structure Bindings.Recovery (images : Substitution) (types : List Ty)
    (before after : Bindings) : Prop where
  grows : Grows (fun _ _ => True) before after
  agrees : after.Agrees images
  binds : ∀ type ∈ types, after.Binds type

namespace Bindings.Recovery

variable {images : Substitution} {types others : List Ty} {before between after : Bindings}

/-- Without types nothing has to be bound. -/
theorem none (agrees : before.Agrees images) : Recovery images [] before before :=
  ⟨.refl before, agrees, by simp⟩

/-- Growth for some types and then for others binds the parameters of all of them. -/
theorem trans (first : Recovery images types before between)
    (second : Recovery images others between after) :
    Recovery images (types ++ others) before after where
  grows := first.grows.trans second.grows
  agrees := second.agrees
  binds := by
    intro type inside
    rcases List.mem_append.mp inside with earlier | later
    · exact second.grows.binds (first.binds type earlier)
    · exact second.binds type later

/-- What occurs in one of the types is bound to its image. -/
theorem bound (recovery : Recovery images types before after) {type : Ty} (inside : type ∈ types)
    {p : Parameter} (occurs : p ∈ type.occurrences) :
    after.bound? p = some (images.image p) :=
  Recovers.bound ⟨recovery.agrees, recovery.binds type inside⟩ occurs

end Bindings.Recovery

namespace Registry

variable {registry : Registry} {images : Substitution}

namespace WellFormed

variable (sound : registry.WellFormed)
include sound

/-! ## The steps -/

/-- A declared type matches its instance, which recovers the substitution on it. -/
theorem matchType_recovery (contravariant : Bool) (declared : Ty) {before : Bindings}
    (agrees : before.Agrees images) :
    ∃ after, registry.matchType contravariant declared (declared.replace images) before =
        (.ok (declared.replace images.typeLevel), after) ∧
      before.Recovery images [declared] after := by
  obtain ⟨after, matched, recovers⟩ := sound.matchType_complete contravariant declared agrees
  have grows := sound.matchType_grows contravariant declared (declared.replace images) before
  rw [matched] at grows
  refine ⟨after, matched, grows.mono fun _ _ _ => trivial, recovers.agrees, ?_⟩
  simpa using recovers.binds

/-- The receiver of the call site matches, and recovers the substitution on the declaring type.
Where the member has no receiver, there is nothing to recover. -/
theorem matchReceiver_recovery (member : Member) {before : Bindings}
    (agrees : before.Agrees images) :
    ∃ after, registry.matchReceiver member (member.receiverUnder images) before = .ok after ∧
      before.Recovery images (if member.hasReceiver then [member.declaring] else []) after := by
  cases called : member.hasReceiver with
  | false =>
    refine ⟨before, ?_, .none agrees⟩
    simp [matchReceiver, Member.receiverUnder, called]
  | true =>
    obtain ⟨isInstance, notConstructor⟩ : member.isStatic = false ∧ member.kind ≠ .constructor :=
      by simpa [Member.hasReceiver] using called
    obtain ⟨after, matched, recovery⟩ := sound.matchType_recovery false member.declaring agrees
    refine ⟨after, matchReceiver_eq_ok.mpr (Or.inr ?_), by simpa using recovery⟩
    exact ⟨_, _, by simp [Member.receiverUnder, called], isInstance, notConstructor, matched⟩

/-- Nothing is expected, or the type that the result has under the substitution. -/
theorem matchResult_recovery {member : Member} {expected : Option Ty}
    (asked : ∀ type, expected = some type → (member.kind = .method ∨ member.kind = .property) ∧
      type = member.type.replace images ∧ type ≠ .object) (position : Nat) {before : Bindings}
    (agrees : before.Agrees images) :
    ∃ after, registry.matchResult member (.ofResult expected) position before = .ok after ∧
      before.Recovery images (if expected.isSome then [member.type] else []) after := by
  cases expected with
  | none => exact ⟨before, matchResult_eq_ok.mpr (Or.inl ⟨Or.inr rfl, rfl⟩), .none agrees⟩
  | some type =>
    obtain ⟨kind, rfl, notObject⟩ := asked type rfl
    have valued : member.hasValueFor (.returns (member.type.replace images)) = true := by
      rcases kind with method | property
      · simp [Member.hasValueFor, method]
      · simp [Member.hasValueFor, property]
    obtain ⟨after, matched, recovery⟩ := sound.matchType_recovery true member.type agrees
    rw [Expectation.ofResult_of_ne notObject]
    have returned : registry.matchResult member (.returns (member.type.replace images)) position
        before = .ok after :=
      matchResult_eq_ok.mpr (Or.inr ⟨valued, Or.inl ⟨_, _, rfl, matched⟩⟩)
    exact ⟨after, returned, by simpa using recovery⟩

/-- The parameter types are resolved to what they are under the type-level part of the
substitution. -/
theorem matchParameters_recovery (declared : List Ty) (position : Nat) {before : Bindings}
    (agrees : before.Agrees images) :
    ∃ after, registry.matchParameters position declared
        (declared.map fun type => some (type.replace images)) before =
          .ok (after, declared.map (Ty.replace images.typeLevel)) ∧
      before.Recovery images declared after := by
  induction declared generalizing position before with
  | nil => exact ⟨before, by simp [matchParameters], .none agrees⟩
  | cons first rest inductionHypothesis =>
    obtain ⟨between, here, recovery⟩ := sound.matchType_recovery false first agrees
    obtain ⟨after, later, further⟩ := inductionHypothesis (position + 1) recovery.agrees
    exact ⟨after, matchParameters_some_eq_ok.mpr ⟨_, between, _, here, later, rfl⟩,
      recovery.trans further⟩

/-- All the steps, one after the other. -/
theorem steps_recovery {member : Member} {expected : Option Ty}
    (asked : ∀ type, expected = some type → (member.kind = .method ∨ member.kind = .property) ∧
      type = member.type.replace images ∧ type ≠ .object) (position : Nat) {before : Bindings}
    (agrees : before.Agrees images) :
    ∃ received result after,
      registry.matchReceiver member (member.receiverUnder images) before = .ok received ∧
      registry.matchResult member (.ofResult expected) position received = .ok result ∧
      registry.matchParameters 0 member.parameters (member.argumentsUnder images) result =
        .ok (after, member.parameters.map (Ty.replace images.typeLevel)) ∧
      before.Recovery images (member.matchedTypes expected) after := by
  obtain ⟨received, first, toReceived⟩ := sound.matchReceiver_recovery member agrees
  obtain ⟨result, second, toResult⟩ := sound.matchResult_recovery asked position toReceived.agrees
  obtain ⟨after, third, toEnd⟩ :=
    sound.matchParameters_recovery member.parameters 0 toResult.agrees
  exact ⟨received, result, after, first, second, third, toReceived.trans (toResult.trans toEnd)⟩

end WellFormed

/-! ## What is read off the bindings -/

section Read

variable {bindings : Bindings} {p : Parameter}

/-- At the level of types a definition's parameter is sent to its image. -/
theorem image_typeLevel_of_bound (distinct : bindings.keys.Nodup)
    (bound : bindings.bound? p = some (images.image p)) (level : p.isMethodLevel = false) :
    bindings.typeLevel.image p = images.image p := by
  rw [Bindings.image_typeLevel distinct bound, resolvedParameter, level]
  rfl

/-- A type that is resolved with closed images is not changed by resolving it again. -/
theorem replace_typeLevel_settled (distinct : bindings.keys.Nodup) {type : Ty}
    (closed : ∀ p ∈ type.occurrences, (images.image p).isOpen = false) :
    (type.replace images.typeLevel).replace bindings.typeLevel =
      type.replace images.typeLevel := by
  apply Ty.replace_replace
  intro p occurs
  rw [Substitution.image_typeLevel, resolvedParameter]
  cases level : p.isMethodLevel with
  | true =>
    have kept : bindings.typeLevel.image p = .parameter p :=
      Bindings.keepsMethodLevel_typeLevel distinct p level
    simp [kept]
  | false => exact Ty.replace_of_closed _ (closed p occurs)

/-- No argument is null, so none is looked at again. -/
theorem forall_deferredNulls_under (member : Member) (expected : Option Ty)
    (passes : Ty → Prop) :
    ∀ entry ∈ deferredNulls member (member.argumentsUnder images) (.ofResult expected),
      passes entry.2 := by
  apply (forall_deferredNulls_iff passes).mpr
  constructor
  · exact fun _ assigned => absurd assigned (Expectation.ofResult_ne_accepts expected _)
  · apply (forall_openNulls_iff passes).mpr
    intro place inside absent
    obtain ⟨type, _, same⟩ := List.mem_map.mp (List.of_mem_zip inside).2
    simp [absent] at same

end Read

/-! ## The match -/

section Recovered

variable {bindings : Bindings} (distinct : bindings.keys.Nodup) {member : Member}
  (bound : ∀ p ∈ member.wantedParameters, bindings.bound? p = some (images.image p))
include distinct bound

/-- The arguments of the declaring type are their images, as all its parameters are wanted. -/
theorem typeArguments_recovered (declared : member ∈ registry.declaredMembers member.declaring)
    (typeLevel : ∀ p ∈ member.declaring.occurrences, p.isMethodLevel = false) :
    member.declaring.arguments.map (Ty.replace images) =
      member.declaring.arguments.map (Ty.replace bindings.typeLevel) := by
  obtain ⟨id, arguments, _, _, _, same, _⟩ := mem_declaredMembers_iff.mp declared
  rw [same]
  apply List.map_congr_left
  intro argument inside
  apply Ty.replace_congr
  intro p occurs
  have mentions : p ∈ member.declaring.occurrences := by
    rw [same, Ty.occurrences_named]
    exact List.mem_flatMap.mpr ⟨argument, inside, occurs⟩
  have wanted : p ∈ member.wantedParameters :=
    List.mem_append_left _ ((Ty.mem_parameters _ _).mpr mentions)
  exact (image_typeLevel_of_bound distinct (bound p wanted) (typeLevel p mentions)).symm

omit distinct in
/-- The member's own parameters are bound to their images, in order. -/
theorem methodArguments_recovered (unclosed : member.methodArguments = []) :
    bindings.resolve? member.wantedMethodParameters =
      some (member.methodParameters.map images.image) := by
  rw [Bindings.resolve?_eq_some_iff, Member.wantedMethodParameters_eq unclosed,
    List.forall₂_map_right_iff, List.forall₂_same]
  intro p own
  apply bound p (List.mem_append_right _ _)
  rwa [Member.wantedMethodParameters_eq unclosed]

omit bound in
/-- Parameter types that the substitution has resolved are resolved for good, since no image is
open. -/
theorem parameterTypes_recovered (sound : registry.WellFormed)
    (applied : registry.wellApplied member.declaring = true)
    (declared : member ∈ registry.declaredMembers member.declaring)
    (closed : ∀ p ∈ member.wantedParameters, (images.image p).isOpen = false) :
    member.parameters.map (Ty.replace images.typeLevel) =
      (member.parameters.map (Ty.replace images.typeLevel)).map
        (Ty.replace bindings.typeLevel) := by
  obtain ⟨-, unclosed, -⟩ := declared_facts declared
  rw [List.map_map]
  apply List.map_congr_left
  intro parameter inside
  refine (replace_typeLevel_settled distinct fun p occurs => closed p ?_).symm
  rw [Member.wantedParameters, Member.wantedMethodParameters_eq unclosed, List.mem_append,
    Ty.mem_parameters]
  exact sound.scoped_of_declared applied declared (Or.inr inside) occurs

end Recovered

/-- Unification inverts instantiation. Take a candidate of a type whose parameters are those of
definitions, and a substitution that sends the candidate's parameters to closed types. At the
call site that the substitution makes of the candidate the candidate matches, provided that each
of its parameters occurs in what is matched there. Of a method or a property the type of the
result may be expected as well, unless this is `object`. The match
has the images of the arguments of the declaring type, the images of the member's own parameters
in order, and the parameter types with only the type-level images put in. -/
theorem unify_instance (sound : registry.WellFormed) {type : Ty}
    (applied : registry.wellApplied type = true)
    (typeLevel : ∀ p ∈ type.occurrences, p.isMethodLevel = false) {flags : BindingFlags}
    {name : String} {kind : MemberKind} {member : Member}
    (listed : member ∈ registry.candidates flags type name kind)
    (closed : ∀ p ∈ member.wantedParameters, (images.image p).isOpen = false)
    {expected : Option Ty}
    (asked : ∀ result, expected = some result → (kind = .method ∨ kind = .property) ∧
      result = member.type.replace images ∧ result ≠ .object)
    (shown : ∀ p ∈ member.wantedParameters, ∃ mentioned ∈ member.matchedTypes expected,
      p ∈ mentioned.occurrences) :
    registry.unify member (member.receiverUnder images) (member.argumentsUnder images) expected =
      .ok
        { typeArguments := member.declaring.arguments.map (Ty.replace images)
          methodArguments := member.methodParameters.map images.image
          parameterTypes := member.parameters.map (Ty.replace images.typeLevel) } := by
  obtain ⟨_, rfl, seen, path, declared⟩ := mem_candidates listed
  obtain ⟨rfl, unclosed, _⟩ := declared_facts declared
  have declaringApplied := sound.wellApplied_of_reaches applied path
  -- the steps
  obtain ⟨noneBound, seeded, seededDistinct⟩ := Bindings.seedAll_empty member.wantedParameters
  have seededAgrees : (Bindings.seedAll .empty member.wantedParameters).Agrees images := by
    intro p bound found
    simp [noneBound] at found
  obtain ⟨received, result, bindings, first, second, third, recovery⟩ :=
    sound.steps_recovery asked (member.argumentsUnder images).length seededAgrees
  have distinct := recovery.grows.distinct seededDistinct
  -- every parameter is bound to its image
  have bound : ∀ p ∈ member.wantedParameters, bindings.bound? p = some (images.image p) := by
    intro p wanted
    obtain ⟨mentioned, inside, occurs⟩ := shown p wanted
    exact recovery.bound inside occurs
  have unbound : bindings.firstUnbound? = none := by
    apply (Bindings.firstUnbound?_eq_none_iff distinct).mpr
    intro p waits
    have wanted := (seeded p).mp
      ((OrderedMap.mem_keys_iff _ _).mpr ⟨none, recovery.grows.waiting waits⟩)
    have found := (Bindings.bound?_eq_some_iff _ _ _).mp (bound p wanted)
    simp [waits] at found
  -- so the match is the substitution
  have plain : ∀ p ∈ member.declaring.occurrences, p.isMethodLevel = false :=
    fun p mentions => typeLevel p (sound.occurrences_of_reaches applied path mentions)
  have typeArguments := typeArguments_recovered distinct bound declared plain
  have methodArguments := methodArguments_recovered bound unclosed
  have parameterTypes := parameterTypes_recovered distinct sound declaringApplied declared closed
  have count : member.parameters.length = (member.argumentsUnder images).length := by
    simp [Member.argumentsUnder]
  have passes : ∀ entry ∈ deferredNulls member (member.argumentsUnder images)
      (.ofResult expected), registry.isValueType (entry.2.replace bindings.all) = false :=
    forall_deferredNulls_under member expected
      fun type => registry.isValueType (type.replace bindings.all) = false
  refine unifyWith_eq_ok.mpr ⟨count, received, result, bindings, _, first, second, third, unbound,
    passes, ?_⟩
  rw [typeArguments, methodArguments, ← parameterTypes, Option.getD_some]

/-- A box of any type, from which a box of another type can be made. The type parameter occurs
in the receiver and in an argument, the method's own parameter in the result only. -/
def boxFactory : Registry := .ofDefinitions
  [{ name := "Box", kind := .classType, generics := ["T"]
     declarations :=
      [{ name := "make", kind := .method, generics := ["U"]
         parameters := [.named ⟨0⟩ [.parameter ⟨.definition ⟨0⟩, 0⟩]]
         type := .named ⟨0⟩ [.parameter ⟨.member ⟨⟨0⟩, 0⟩, 0⟩]
         body := .native .self }] }]

/-- The box has no base, and its method mentions the parameter of the box and its own. -/
theorem boxFactory_wellFormed : boxFactory.WellFormed :=
  .of_definitions _ (by decide) (by decide)

/-- Making a box of integers from boxes of texts infers both parameters. -/
theorem boxFactory_make_unifies :
    ∃ make ∈ boxFactory.candidates .all (boxFactory.openType ⟨0⟩) "make" .method,
      boxFactory.unify make (some (.named ⟨0⟩ [.str])) [some (.named ⟨0⟩ [.str])]
          (some (.named ⟨0⟩ [.i32])) =
        .ok
          { typeArguments := [.str]
            methodArguments := [.i32]
            parameterTypes := [.named ⟨0⟩ [.str]] } := by
  let images : Substitution :=
    .ofParameters [⟨.definition ⟨0⟩, 0⟩, ⟨.member ⟨⟨0⟩, 0⟩, 0⟩] [.str, .i32]
  obtain ⟨make, listed⟩ : ∃ make,
      make ∈ boxFactory.candidates .all (boxFactory.openType ⟨0⟩) "make" .method :=
    List.exists_mem_of_length_pos (by decide)
  have facts : ∀ make ∈ boxFactory.candidates .all (boxFactory.openType ⟨0⟩) "make" .method,
      make.wantedParameters = [⟨.definition ⟨0⟩, 0⟩, ⟨.member ⟨⟨0⟩, 0⟩, 0⟩] ∧
        make.matchedTypes (some (.named ⟨0⟩ [.i32])) =
          [.named ⟨0⟩ [.parameter ⟨.definition ⟨0⟩, 0⟩],
            .named ⟨0⟩ [.parameter ⟨.member ⟨⟨0⟩, 0⟩, 0⟩],
            .named ⟨0⟩ [.parameter ⟨.definition ⟨0⟩, 0⟩]] ∧
        make.type.replace images = .named ⟨0⟩ [.i32] ∧
        make.receiverUnder images = some (.named ⟨0⟩ [.str]) ∧
        make.argumentsUnder images = [some (.named ⟨0⟩ [.str])] ∧
        make.declaring.arguments.map (Ty.replace images) = [.str] ∧
        make.methodParameters.map images.image = [.i32] ∧
        make.parameters.map (Ty.replace images.typeLevel) = [.named ⟨0⟩ [.str]] := by decide
  obtain ⟨wanted, mentioned, type, receiver, arguments, typeArguments, methodArguments,
    parameterTypes⟩ := facts make listed
  have unified : boxFactory.unify make (make.receiverUnder images) (make.argumentsUnder images)
      (some (.named ⟨0⟩ [.i32])) = _ :=
    unify_instance boxFactory_wellFormed (by decide) (by decide) listed
      (by rw [wanted]; decide) (by rintro _ ⟨⟩; simp [type]) (by rw [wanted, mentioned]; decide)
  rw [receiver, arguments, typeArguments, methodArguments, parameterTypes] at unified
  exact ⟨make, listed, unified⟩

end Registry

end LateBinding
