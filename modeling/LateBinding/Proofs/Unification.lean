import LateBinding.Error
import LateBinding.Proofs.Completeness
import LateBinding.Proofs.Enumeration

/-!
# What unification establishes

Unification threads one set of bindings through the receiver, the result and the arguments. The
bindings only grow on the way, and what they bind is drawn from the types that the call site
offers. When it succeeds, every parameter asked for is bound, and under the final bindings the
declaring type admits the receiver and each parameter type admits its argument, nulls included:
`Registry.Unified` collects these facts, and `unifyWith_unified` proves them.
-/
namespace LateBinding

/-- The type that an access expects something of. -/
def Expectation.type? : Expectation → Option Ty
  | .any => none
  | .returns type => some type
  | .accepts value => value

/-- The types that a call site offers, from which everything inferred is drawn. -/
def offeredTypes (receiver : Option Ty) (arguments : List (Option Ty))
    (expectation : Expectation) : List Ty :=
  receiver.toList ++ expectation.type?.toList ++ arguments.filterMap id

/-- The types of a call site are those of the receiver, of the arguments and of what is expected. -/
theorem mem_offeredTypes {receiver : Option Ty} {arguments : List (Option Ty)}
    {expectation : Expectation} {type : Ty} :
    type ∈ offeredTypes receiver arguments expectation ↔
      receiver = some type ∨ expectation.type? = some type ∨ some type ∈ arguments := by
  simp [offeredTypes]

/-- What holds of all types offered holds of the receiver, the expectation and the arguments. -/
theorem forall_mem_offeredTypes {receiver : Option Ty} {arguments : List (Option Ty)}
    {expectation : Expectation} {holds : Ty → Prop} :
    (∀ type ∈ offeredTypes receiver arguments expectation, holds type) ↔
      (∀ type, receiver = some type → holds type) ∧
        (∀ type, expectation.type? = some type → holds type) ∧
        ∀ type, some type ∈ arguments → holds type := by
  simp only [mem_offeredTypes, or_imp, forall_and]

namespace Registry

/-- Whether a declared type admits something of a type, or null where there is none. -/
def admitsType (registry : Registry) (declared : Ty) : Option Ty → Bool
  | none => !registry.isValueType declared
  | some actual => registry.isAssignable actual declared

/-- Whether a declared type fits an argument under the bindings made so far. Null only has to
fit the type as it is declared; it is looked at again later. -/
def Accepts (registry : Registry) (bindings : Bindings) (declared : Ty) : Option Ty → Prop
  | none => registry.isValueType declared = false
  | some actual => registry.isAssignable actual (declared.replace bindings.all) = true

/-- Every binding is a part of one of some types. -/
def Draws (registry : Registry) (types : List Ty) (_ : Parameter) (part : Ty) : Prop :=
  ∃ actual ∈ types, registry.Part actual part

variable {registry : Registry}

/-- Only a parameter can turn out to be a value type under a substitution. -/
theorem isValueType_replace {type : Ty} (images : Substitution)
    (value : registry.isValueType type = true) :
    registry.isValueType (type.replace images) = true := by
  cases type with
  | primitive p => exact value
  | object => simp [isValueType] at value
  | delegate => simp [isValueType] at value
  | parameter p => simp [isValueType] at value
  | named id arguments =>
    rw [Ty.replace_named]
    exact value

/-- Null is admitted after a substitution if it is admitted before it and where the type is
open it is looked at again. -/
theorem isValueType_replace_eq_false_iff {type : Ty} (images : Substitution) :
    registry.isValueType (type.replace images) = false ↔
      registry.isValueType type = false ∧
        (type.isOpen = true → registry.isValueType (type.replace images) = false) := by
  constructor
  · intro admitted
    refine ⟨?_, fun _ => admitted⟩
    cases value : registry.isValueType type with
    | false => rfl
    | true => simp [isValueType_replace images value] at admitted
  · rintro ⟨before, again⟩
    cases opened : type.isOpen with
    | true => exact again opened
    | false => rwa [Ty.replace_of_closed images opened]

/-! ## The nulls to look at again -/

/-- Looking at every open null again is looking at each place where one is. -/
theorem forall_openNulls_iff {declared : List Ty} {actual : List (Option Ty)}
    (passes : Ty → Prop) :
    (∀ entry ∈ openNulls declared actual, passes entry.2) ↔
      ∀ place ∈ declared.zip actual, place.2 = none → place.1.isOpen = true → passes place.1 := by
  constructor
  · rintro all ⟨type, argument⟩ inside absent opened
    obtain ⟨position, bounded, at?⟩ := List.mem_iff_getElem.mp inside
    refine all (position, type) (List.mem_filterMap.mpr ⟨((type, argument), position), ?_, ?_⟩)
    · rw [List.mk_mem_zipIdx_iff_getElem?]
      exact List.getElem?_eq_some_iff.mpr ⟨bounded, at?⟩
    · exact if_pos ⟨absent, opened⟩
  · rintro each ⟨position, type⟩ listed
    obtain ⟨⟨⟨declaredType, argument⟩, place⟩, inside, chosen⟩ := List.mem_filterMap.mp listed
    obtain ⟨⟨absent, opened⟩, same⟩ := Option.ite_none_right_eq_some.mp chosen
    obtain ⟨-, rfl⟩ := Prod.mk.inj (Option.some.inj same)
    have there := List.mem_of_getElem? (List.mk_mem_zipIdx_iff_getElem?.mp inside)
    exact each _ there absent opened

/-- Under the final bindings each place admits what is supplied, once the open nulls have been
looked at again. -/
theorem forall₂_admitsType_iff {declared : List Ty} {actual : List (Option Ty)}
    (bindings : Bindings) :
    List.Forall₂ (fun type argument =>
        registry.admitsType (type.replace bindings.all) argument = true) declared actual ↔
      List.Forall₂ (registry.Accepts bindings) declared actual ∧
        ∀ entry ∈ openNulls declared actual,
          registry.isValueType (entry.2.replace bindings.all) = false := by
  rw [forall_openNulls_iff fun type => registry.isValueType (type.replace bindings.all) = false,
    List.forall₂_iff_zip, List.forall₂_iff_zip]
  constructor
  · rintro ⟨count, each⟩
    refine ⟨⟨count, ?_⟩, ?_⟩
    · intro type argument inside
      have admitted := each inside
      cases argument with
      | some actual => exact admitted
      | none =>
        rw [admitsType, Bool.not_eq_true', isValueType_replace_eq_false_iff] at admitted
        exact admitted.1
    · rintro ⟨type, argument⟩ inside absent _
      have admitted := each inside
      simp only at absent
      subst absent
      simpa [admitsType] using admitted
  · rintro ⟨⟨count, each⟩, again⟩
    refine ⟨count, ?_⟩
    intro type argument inside
    have accepted := each inside
    cases argument with
    | some actual => exact accepted
    | none =>
      rw [admitsType, Bool.not_eq_true', isValueType_replace_eq_false_iff]
      exact ⟨accepted, again _ inside rfl⟩

/-! ## The steps -/

/-- A null is passed over when its declared type is no value type. -/
theorem matchParameters_none_eq_ok {position : Nat} {declared : Ty} {rest : List Ty}
    {actual : List (Option Ty)} {before after : Bindings} {resolved : List Ty} :
    registry.matchParameters position (declared :: rest) (none :: actual) before =
        .ok (after, resolved) ↔
      registry.isValueType declared = false ∧ ∃ others,
        registry.matchParameters (position + 1) rest actual before = .ok (after, others) ∧
        resolved = declared :: others := by
  rw [matchParameters]
  cases registry.isValueType declared with
  | true => simp
  | false =>
    cases registry.matchParameters (position + 1) rest actual before with
    | error failure => simp
    | ok outcome =>
      obtain ⟨final, others⟩ := outcome
      simp only [Bool.false_eq_true, if_false, Except.ok.injEq, Prod.mk.injEq, true_and]
      constructor
      · rintro ⟨rfl, rfl⟩
        exact ⟨others, ⟨rfl, rfl⟩, rfl⟩
      · rintro ⟨same, ⟨rfl, rfl⟩, rfl⟩
        exact ⟨rfl, rfl⟩

/-- An argument is matched with its declared type, and the rest with what that leaves. -/
theorem matchParameters_some_eq_ok {position : Nat} {declared actual : Ty} {rest : List Ty}
    {others : List (Option Ty)} {before after : Bindings} {resolved : List Ty} :
    registry.matchParameters position (declared :: rest) (some actual :: others) before =
        .ok (after, resolved) ↔
      ∃ first between later, registry.matchType false declared actual before =
          (.ok first, between) ∧
        registry.matchParameters (position + 1) rest others between = .ok (after, later) ∧
        resolved = first :: later := by
  rw [matchParameters]
  obtain ⟨verdict, between⟩ := registry.matchType false declared actual before
  cases verdict with
  | error mismatch => simp
  | ok first =>
    simp only [Prod.mk.injEq, Except.ok.injEq]
    cases rest? : registry.matchParameters (position + 1) rest others between with
    | error failure =>
      constructor
      · simp
      · rintro ⟨_, _, _, ⟨rfl, rfl⟩, found, _⟩
        simp [rest?] at found
    | ok outcome =>
      obtain ⟨final, tail⟩ := outcome
      simp only [Except.ok.injEq, Prod.mk.injEq]
      constructor
      · rintro ⟨rfl, rfl⟩
        exact ⟨first, between, tail, ⟨rfl, rfl⟩, rest?, rfl⟩
      · rintro ⟨_, _, _, ⟨rfl, rfl⟩, found, rfl⟩
        obtain ⟨rfl, rfl⟩ := Prod.mk.inj (Except.ok.inj (rest?.symm.trans found))
        exact ⟨rfl, rfl⟩

/-- The receiver is matched with the declaring type of an instance member. -/
theorem matchReceiver_eq_ok {member : Member} {receiver : Option Ty} {before after : Bindings} :
    registry.matchReceiver member receiver before = .ok after ↔
      (receiver = none ∨ member.isStatic = true ∨ member.kind = .constructor) ∧ after = before ∨
      ∃ type resolved, receiver = some type ∧ member.isStatic = false ∧
        member.kind ≠ .constructor ∧
        registry.matchType false member.declaring type before = (.ok resolved, after) := by
  cases receiver with
  | none => simp [matchReceiver, @eq_comm Bindings after]
  | some type =>
    simp only [matchReceiver]
    by_cases skipped : member.isStatic = true ∨ member.kind = .constructor
    · rw [if_pos skipped]
      constructor
      · intro same
        exact Or.inl ⟨Or.inr skipped, (Except.ok.inj same).symm⟩
      · rintro (⟨_, rfl⟩ | ⟨_, _, _, isInstance, notConstructor, _⟩)
        · rfl
        · simp [isInstance, notConstructor] at skipped
    · obtain ⟨isInstance, notConstructor⟩ : member.isStatic = false ∧ member.kind ≠ .constructor :=
        by simpa using skipped
      rcases matched : registry.matchType false member.declaring type before with
        ⟨mismatch | resolved, between⟩
      · simp [isInstance, notConstructor, matched]
      · simp [isInstance, notConstructor, matched]

/-- What is expected of the member's type decides how that type is matched. -/
theorem matchResult_eq_ok {member : Member} {expectation : Expectation} {position : Nat}
    {before after : Bindings} :
    registry.matchResult member expectation position before = .ok after ↔
      (member.hasValueFor expectation = false ∨ expectation = .any) ∧ after = before ∨
      member.hasValueFor expectation = true ∧
        ((∃ type resolved, expectation = .returns type ∧
            registry.matchType true member.type type before = (.ok resolved, after)) ∨
          (∃ type resolved, expectation = .accepts (some type) ∧
            registry.matchType false member.type type before = (.ok resolved, after)) ∨
          expectation = .accepts none ∧ registry.isValueType member.type = false ∧
            after = before) := by
  unfold matchResult
  cases valued : member.hasValueFor expectation with
  | false => simp [@eq_comm Bindings after]
  | true =>
    cases expectation with
    | any => simp [@eq_comm Bindings after]
    | returns type =>
      rcases matched : registry.matchType true member.type type before with
        ⟨mismatch | resolved, between⟩
      · simp [matched]
      · simp [matched]
    | accepts value =>
      cases value with
      | none => cases value : registry.isValueType member.type <;> simp [@eq_comm Bindings after]
      | some type =>
        rcases matched : registry.matchType false member.type type before with
          ⟨mismatch | resolved, between⟩
        · simp [matched]
        · simp [matched]

/-- Unification succeeds when the counts agree, every step does, no parameter is left unbound,
and every null that is looked at again is admitted. -/
theorem unifyWith_eq_ok {member : Member} {receiver : Option Ty} {arguments : List (Option Ty)}
    {expectation : Expectation} {matched : Match} :
    registry.unifyWith member receiver arguments expectation = .ok matched ↔
      member.parameters.length = arguments.length ∧
      ∃ received expected bindings resolved,
        registry.matchReceiver member receiver (.seedAll .empty member.wantedParameters) =
          .ok received ∧
        registry.matchResult member expectation arguments.length received = .ok expected ∧
        registry.matchParameters 0 member.parameters arguments expected =
          .ok (bindings, resolved) ∧
        bindings.firstUnbound? = none ∧
        (∀ entry ∈ deferredNulls member arguments expectation,
          registry.isValueType (entry.2.replace bindings.all) = false) ∧
        matched =
          { typeArguments := member.declaring.arguments.map (Ty.replace bindings.typeLevel)
            methodArguments := (bindings.resolve? member.wantedMethodParameters).getD []
            parameterTypes := resolved.map (Ty.replace bindings.typeLevel) } := by
  rw [unifyWith]
  by_cases count : member.parameters.length = arguments.length
  · rw [if_neg (by simpa using count)]
    constructor
    · intro succeeded
      obtain ⟨received, first, later⟩ := bind_eq_ok.mp succeeded
      obtain ⟨expected, second, later⟩ := bind_eq_ok.mp later
      obtain ⟨⟨bindings, resolved⟩, third, later⟩ := bind_eq_ok.mp later
      cases unbound : bindings.firstUnbound? with
      | some parameter => simp [unbound, bind_eq_ok, throw, throwThe, MonadExceptOf.throw] at later
      | none =>
        cases refused : (deferredNulls member arguments expectation).find? fun entry =>
            registry.isValueType (entry.2.replace bindings.all) with
        | some entry => simp [unbound, refused, throw, throwThe, MonadExceptOf.throw] at later
        | none =>
          have passes : ∀ entry ∈ deferredNulls member arguments expectation,
              registry.isValueType (entry.2.replace bindings.all) = false :=
            fun entry listed => by simpa using List.find?_eq_none.mp refused entry listed
          simp only [Ty.substitute_eq_replace, Ty.substitute_fun_eq_replace, unbound,
            refused] at later
          exact ⟨count, received, expected, bindings, resolved, first, second, third, unbound,
            passes, (Except.ok.inj later).symm⟩
    · rintro ⟨-, received, expected, bindings, resolved, first, second, third, unbound, passes,
        rfl⟩
      have passed : (deferredNulls member arguments expectation).find? (fun entry =>
          registry.isValueType (entry.2.replace bindings.all)) = none := by
        simpa using fun position type => passes (position, type)
      refine bind_eq_ok.mpr ⟨received, first, bind_eq_ok.mpr ⟨expected, second,
        bind_eq_ok.mpr ⟨(bindings, resolved), third, ?_⟩⟩⟩
      simp only [Ty.substitute_eq_replace, Ty.substitute_fun_eq_replace, unbound, passed]
      rfl
  · simp [count, throw, throwThe, MonadExceptOf.throw, bind, Except.bind]

/-! ## From the steps to the whole -/

namespace WellFormed

variable (sound : registry.WellFormed)
include sound

/-- What a match binds is drawn from the actual type. -/
theorem matchType_draws (contravariant : Bool) (declared : Ty) {actual : Ty} {types : List Ty}
    (offered : actual ∈ types) (bindings : Bindings) :
    Bindings.Grows (registry.Draws types) bindings
      (registry.matchType contravariant declared actual bindings).2 :=
  (sound.matchType_grows contravariant declared actual bindings).mono
    fun _ _ allowed => ⟨actual, offered, allowed.2⟩

/-- The arguments grow the bindings, and under what they grow to each parameter type fits its
argument. The type answered for a place is the declared one, resolved where there is an
argument. -/
theorem matchParameters_sound {declared : List Ty} {actual : List (Option Ty)} {types : List Ty}
    (declaredApplied : ∀ type ∈ declared, registry.wellApplied type = true)
    (applied : ∀ type, some type ∈ actual → type ∈ types ∧ registry.wellApplied type = true)
    (count : declared.length = actual.length) {position : Nat} {before after : Bindings}
    {resolved : List Ty} (distinct : before.keys.Nodup)
    (matched : registry.matchParameters position declared actual before =
      .ok (after, resolved)) :
    Bindings.Grows (registry.Draws types) before after ∧
      List.Forall₂ (registry.Accepts after) declared actual ∧
      List.Forall₂ (fun type answer => answer = type ∨ answer = type.replace after.typeLevel)
        declared resolved := by
  induction declared generalizing actual position before resolved with
  | nil =>
    obtain rfl : actual = [] := by simpa using count.symm
    obtain ⟨rfl, rfl⟩ : before = after ∧ [] = resolved := by
      simpa [matchParameters] using matched
    exact ⟨.refl _, .nil, .nil⟩
  | cons first rest inductionHypothesis =>
    cases actual with
    | nil => simp at count
    | cons argument others =>
      have restApplied := fun type member => declaredApplied type (List.mem_cons_of_mem _ member)
      have othersApplied := fun type member => applied type (List.mem_cons_of_mem _ member)
      cases argument with
      | none =>
        obtain ⟨nullable, tail, later, rfl⟩ := matchParameters_none_eq_ok.mp matched
        obtain ⟨grows, accepts, answers⟩ := inductionHypothesis restApplied othersApplied
          (by simpa using count) distinct later
        exact ⟨grows, .cons nullable accepts, .cons (Or.inl rfl) answers⟩
      | some type =>
        obtain ⟨head, between, tail, here, later, rfl⟩ := matchParameters_some_eq_ok.mp matched
        obtain ⟨offered, typeApplied⟩ := applied type List.mem_cons_self
        have firstApplied := declaredApplied first List.mem_cons_self
        have toBetween := sound.matchType_draws false first offered before
        rw [here] at toBetween
        have betweenDistinct := toBetween.distinct distinct
        have settled := sound.matchType_settles firstApplied typeApplied distinct here
        have admitted := sound.isAssignable_of_matchType firstApplied typeApplied distinct here
        obtain ⟨grows, accepts, answers⟩ := inductionHypothesis restApplied othersApplied
          (by simpa using count) betweenDistinct later
        refine ⟨toBetween.trans grows, .cons ?_ accepts, .cons (Or.inr ?_) answers⟩
        · have kept := Bindings.replace_all_of_grows grows betweenDistinct settled.binds
          rwa [Accepts, kept]
        · rw [settled.resolved,
            Bindings.replace_typeLevel_of_grows grows betweenDistinct settled.binds]

/-- The receiver grows the bindings, and under what they grow to the declaring type of an
instance member admits it. -/
theorem matchReceiver_sound {member : Member} {receiver : Option Ty} {types : List Ty}
    (declaringApplied : registry.wellApplied member.declaring = true)
    (applied : ∀ type, receiver = some type → type ∈ types ∧ registry.wellApplied type = true)
    {before after : Bindings} (distinct : before.keys.Nodup)
    (matched : registry.matchReceiver member receiver before = .ok after) :
    Bindings.Grows (registry.Draws types) before after ∧
      ∀ type, receiver = some type → member.isStatic = false → member.kind ≠ .constructor →
        after.Binds member.declaring ∧
          registry.isAssignable type (member.declaring.replace after.all) = true := by
  rcases matchReceiver_eq_ok.mp matched with
    ⟨skipped, rfl⟩ | ⟨type, resolved, rfl, _, _, here⟩
  · refine ⟨.refl _, ?_⟩
    rintro type rfl isInstance notConstructor
    simp [isInstance, notConstructor] at skipped
  · obtain ⟨offered, typeApplied⟩ := applied type rfl
    have grows := sound.matchType_draws false member.declaring offered before
    rw [here] at grows
    refine ⟨grows, ?_⟩
    rintro _ ⟨⟩ _ _
    have settled := sound.matchType_settles declaringApplied typeApplied distinct here
    have admitted := sound.isAssignable_of_matchType declaringApplied typeApplied distinct here
    exact ⟨settled.binds, admitted⟩

/-- What is expected of the member's type grows the bindings. An assigned value fits the type
under what they grow to. A result is used at a type that an open result type admits under the
bindings, whereas a closed result type is assignable to the type it is used at. -/
theorem matchResult_sound {member : Member} {expectation : Expectation} {types : List Ty}
    (typeApplied : registry.wellApplied member.type = true)
    (applied : ∀ type, expectation.type? = some type →
      type ∈ types ∧ registry.wellApplied type = true)
    {position : Nat} {before after : Bindings} (distinct : before.keys.Nodup)
    (matched : registry.matchResult member expectation position before = .ok after) :
    Bindings.Grows (registry.Draws types) before after ∧
      (member.hasValueFor expectation = true →
        (∀ type, expectation = .returns type →
          (member.type.isOpen = true → after.Binds member.type ∧
            registry.isAssignable type (member.type.replace after.all) = true) ∧
          (member.type.isOpen = false → registry.isAssignable member.type type = true)) ∧
        ∀ value, expectation = .accepts value →
          registry.Accepts after member.type value ∧ (value.isSome → after.Binds member.type)) := by
  rcases matchResult_eq_ok.mp matched with ⟨skipped, rfl⟩ | ⟨valued, taken⟩
  · refine ⟨.refl _, fun valued => ⟨?_, ?_⟩⟩
    · rintro type rfl
      simp [valued] at skipped
    · rintro value rfl
      simp [valued] at skipped
  · rcases taken with ⟨type, resolved, rfl, here⟩ | ⟨type, resolved, rfl, here⟩ |
      ⟨rfl, nullable, rfl⟩
    · obtain ⟨offered, expectedApplied⟩ := applied type rfl
      have grows := sound.matchType_draws true member.type offered before
      rw [here] at grows
      refine ⟨grows, fun _ => ⟨?_, by simp⟩⟩
      rintro _ ⟨⟩
      refine ⟨fun opened => ?_, fun closed => ?_⟩
      · have settled := sound.matchType_settles typeApplied expectedApplied distinct here
        rw [matchType_of_open opened] at here
        exact ⟨settled.binds, (sound.matchOpen_admits typeApplied expectedApplied distinct here).2⟩
      · simpa using (matchType_closed_eq_ok closed here).2.2
    · obtain ⟨offered, valueApplied⟩ := applied type rfl
      have grows := sound.matchType_draws false member.type offered before
      rw [here] at grows
      refine ⟨grows, fun _ => ⟨by simp, ?_⟩⟩
      rintro _ ⟨⟩
      have settled := sound.matchType_settles typeApplied valueApplied distinct here
      have admitted := sound.isAssignable_of_matchType typeApplied valueApplied distinct here
      exact ⟨admitted, fun _ => settled.binds⟩
    · refine ⟨.refl _, fun _ => ⟨by simp, ?_⟩⟩
      rintro _ ⟨⟩
      exact ⟨nullable, by simp⟩

end WellFormed

/-! ## A successful unification -/

/-- What the final bindings of a successful unification say of the member and the call site,
and how the match is read off them. -/
structure Unified (registry : Registry) (member : Member) (receiver : Option Ty)
    (arguments : List (Option Ty)) (expectation : Expectation) (bindings : Bindings)
    (matched : Match) : Prop where
  distinct : bindings.keys.Nodup
  bound : ∀ p ∈ member.wantedParameters, ∃ type, bindings.bound? p = some type
  drawn : ∀ {p type}, bindings.bound? p = some type →
    registry.Draws (offeredTypes receiver arguments expectation) p type
  received : ∀ type, receiver = some type → member.isStatic = false →
    member.kind ≠ .constructor →
    registry.isAssignable type (member.declaring.replace bindings.all) = true
  admitted : List.Forall₂ (fun type argument =>
    registry.admitsType (type.replace bindings.all) argument = true) member.parameters arguments
  returned : member.hasValueFor expectation = true → ∀ type, expectation = .returns type →
    (member.type.isOpen = true →
      registry.isAssignable type (member.type.replace bindings.all) = true) ∧
    (member.type.isOpen = false → registry.isAssignable member.type type = true)
  assigned : member.hasValueFor expectation = true → ∀ value, expectation = .accepts value →
    registry.admitsType (member.type.replace bindings.all) value = true
  typeArguments : matched.typeArguments =
    member.declaring.arguments.map (Ty.replace bindings.typeLevel)
  methodArguments : bindings.resolve? member.wantedMethodParameters =
    some matched.methodArguments
  answers : ∃ resolved, List.Forall₂ (fun type answer =>
      answer = type ∨ answer = type.replace bindings.typeLevel) member.parameters resolved ∧
    matched.parameterTypes = resolved.map (Ty.replace bindings.typeLevel)

/-- Looking at the deferred nulls again is looking at the assigned null and at the open nulls
among the arguments. -/
theorem forall_deferredNulls_iff {member : Member} {arguments : List (Option Ty)}
    {expectation : Expectation} (passes : Ty → Prop) :
    (∀ entry ∈ deferredNulls member arguments expectation, passes entry.2) ↔
      (member.hasValueFor expectation = true → expectation = .accepts none →
        member.type.isOpen = true → passes member.type) ∧
      ∀ entry ∈ openNulls member.parameters arguments, passes entry.2 := by
  rw [deferredNulls, List.forall_mem_append]
  apply and_congr_left
  intro _
  by_cases again : member.hasValueFor expectation ∧ expectation = .accepts none ∧
      member.type.isOpen
  · obtain ⟨valued, rfl, opened⟩ := again
    simp [valued, opened]
  · rw [if_neg again]
    exact ⟨fun _ valued assigned opened => absurd ⟨valued, assigned, opened⟩ again, by simp⟩

/-- Everything the steps of a successful unification say of the bindings they end with. -/
theorem WellFormed.unified_of_steps (sound : registry.WellFormed) {member : Member}
    (applied : member.Applied registry) {receiver : Option Ty} {arguments : List (Option Ty)}
    {expectation : Expectation}
    (offered : ∀ type ∈ offeredTypes receiver arguments expectation,
      registry.wellApplied type = true)
    (count : member.parameters.length = arguments.length)
    {received expected bindings : Bindings} {resolved : List Ty}
    (first : registry.matchReceiver member receiver (.seedAll .empty member.wantedParameters) =
      .ok received)
    (second : registry.matchResult member expectation arguments.length received = .ok expected)
    (third : registry.matchParameters 0 member.parameters arguments expected =
      .ok (bindings, resolved))
    (unbound : bindings.firstUnbound? = none)
    (passes : ∀ entry ∈ deferredNulls member arguments expectation,
      registry.isValueType (entry.2.replace bindings.all) = false) :
    registry.Unified member receiver arguments expectation bindings
      { typeArguments := member.declaring.arguments.map (Ty.replace bindings.typeLevel)
        methodArguments := (bindings.resolve? member.wantedMethodParameters).getD []
        parameterTypes := resolved.map (Ty.replace bindings.typeLevel) } := by
  obtain ⟨noneBound, asked, seededDistinct⟩ := Bindings.seedAll_empty member.wantedParameters
  -- each step with the types it draws from
  obtain ⟨ofReceiver, ofExpectation, ofArguments⟩ := forall_mem_offeredTypes.mp
    fun type listed => And.intro listed (offered type listed)
  obtain ⟨toReceived, receives⟩ :=
    sound.matchReceiver_sound applied.declaring ofReceiver seededDistinct first
  have receivedDistinct := toReceived.distinct seededDistinct
  obtain ⟨toExpected, expects⟩ :=
    sound.matchResult_sound applied.type ofExpectation receivedDistinct second
  have expectedDistinct := toExpected.distinct receivedDistinct
  obtain ⟨toEnd, accepts, answers⟩ :=
    sound.matchParameters_sound applied.parameters ofArguments count expectedDistinct third
  have distinct := toEnd.distinct expectedDistinct
  have grows := (toReceived.trans toExpected).trans toEnd
  obtain ⟨assignedAgain, nullsAgain⟩ := (forall_deferredNulls_iff fun type =>
    registry.isValueType (type.replace bindings.all) = false).mp passes
  have bound : ∀ p ∈ member.wantedParameters, ∃ type, bindings.bound? p = some type :=
    fun p wanted => Bindings.bound_of_firstUnbound?_eq_none distinct unbound
      (grows.tracked ((asked p).mpr wanted))
  refine
    { distinct := distinct
      bound := bound
      drawn := fun found => (grows.fresh found).resolve_left (by simp [noneBound])
      received := ?_
      admitted := (forall₂_admitsType_iff bindings).mpr ⟨accepts, nullsAgain⟩
      returned := ?_
      assigned := ?_
      typeArguments := rfl
      methodArguments := ?_
      answers := ⟨resolved, answers, rfl⟩ }
  · intro type same isInstance notConstructor
    obtain ⟨binds, admitted⟩ := receives type same isInstance notConstructor
    rwa [Bindings.replace_all_of_grows (toExpected.trans toEnd) receivedDistinct binds]
  · intro valued type same
    obtain ⟨openCase, closedCase⟩ := (expects valued).1 type same
    refine ⟨fun opened => ?_, closedCase⟩
    obtain ⟨binds, admitted⟩ := openCase opened
    rwa [Bindings.replace_all_of_grows toEnd expectedDistinct binds]
  · intro valued value same
    obtain ⟨accepted, binds⟩ := (expects valued).2 value same
    cases value with
    | none =>
      rw [admitsType, Bool.not_eq_true', isValueType_replace_eq_false_iff]
      exact ⟨accepted, fun opened => assignedAgain valued same opened⟩
    | some type =>
      rw [admitsType, Bindings.replace_all_of_grows toEnd expectedDistinct (binds rfl)]
      exact accepted
  · have own : ∀ p ∈ member.wantedMethodParameters, ∃ type, bindings.bound? p = some type :=
      fun p wanted => bound p (List.mem_append_right _ wanted)
    obtain ⟨types, found⟩ := Bindings.exists_resolve? own
    simp [found]

/-- Everything a successful unification says. -/
theorem WellFormed.unifyWith_unified (sound : registry.WellFormed) {member : Member}
    (applied : member.Applied registry) {receiver : Option Ty} {arguments : List (Option Ty)}
    {expectation : Expectation}
    (offered : ∀ type ∈ offeredTypes receiver arguments expectation,
      registry.wellApplied type = true)
    {matched : Match}
    (unified : registry.unifyWith member receiver arguments expectation = .ok matched) :
    ∃ bindings, registry.Unified member receiver arguments expectation bindings matched := by
  obtain ⟨count, received, expected, bindings, resolved, first, second, third, unbound, passes,
    rfl⟩ := unifyWith_eq_ok.mp unified
  exact ⟨bindings, sound.unified_of_steps applied offered count first second third unbound passes⟩

/-- Types that are resolved in part are resolved by replacing once more, if that changes nothing
where they have been resolved. -/
theorem map_replace_of_answers {images : Substitution} {declared resolved : List Ty}
    (answers : List.Forall₂ (fun type answer => answer = type ∨ answer = type.replace images)
      declared resolved)
    (settled : ∀ type ∈ declared, (type.replace images).replace images = type.replace images) :
    resolved.map (Ty.replace images) = declared.map (Ty.replace images) := by
  induction answers with
  | nil => rfl
  | cons answer _ inductionHypothesis =>
    have rest := inductionHypothesis fun type inside => settled type (List.mem_cons_of_mem _ inside)
    rw [List.map_cons, List.map_cons, rest]
    rcases answer with rfl | rfl
    · rfl
    · rw [settled _ List.mem_cons_self]

section Read

variable {member : Member} {receiver : Option Ty} {arguments : List (Option Ty)}
  {expectation : Expectation} {bindings : Bindings} {matched : Match}
  (unified : registry.Unified member receiver arguments expectation bindings matched)

include unified

/-- What is inferred from closed types is closed. -/
theorem Unified.bound_closed (sound : registry.WellFormed)
    (applied : ∀ type ∈ offeredTypes receiver arguments expectation,
      registry.wellApplied type = true)
    (closed : ∀ type ∈ offeredTypes receiver arguments expectation, type.isOpen = false)
    {p : Parameter} {type : Ty} (bound : bindings.bound? p = some type) : type.isOpen = false := by
  obtain ⟨actual, offered, deep⟩ := unified.drawn bound
  exact sound.isOpen_part (applied actual offered) (closed actual offered) deep

/-- Where what the parameter types mention is inferred to be closed, the parameter types of the
match are the declared ones under the type-level bindings, whether an argument was there or
null. -/
theorem Unified.parameterTypes_of_closed
    (closed : ∀ type ∈ member.parameters, ∀ p ∈ type.occurrences, ∀ image,
      bindings.bound? p = some image → image.isOpen = false) :
    matched.parameterTypes = member.parameters.map (Ty.replace bindings.typeLevel) := by
  obtain ⟨resolved, answers, same⟩ := unified.answers
  rw [same]
  apply map_replace_of_answers answers
  intro type inside
  exact Bindings.replace_typeLevel_twice unified.distinct (closed type inside)

end Read

end Registry

end LateBinding
