import LateBinding.Proofs.Specialization
import LateBinding.Proofs.Unification

/-!
# Closing a matched member

Closing a member of an open type looks it up again, on the closed type, by kind, name and the
parameter types of the match. `Registry.Recalls` is the condition under which this finds the
member itself: seen from the closed type it has those parameter types, and no declaration before
it answers to the same question. Two overloads that the arguments make alike do not pass it.

Where the member itself is found, closing substitutes the inferred arguments and changes nothing
else.
-/
namespace LateBinding

namespace Registry

/-- Whether no declaration before a member's has the given parameter types when it is seen from
the type, among those of the same kind and, constructors apart, of the same name. -/
def Unprecedented (registry : Registry) (type : Ty) (member : Member) (parameters : List Ty) :
    Prop :=
  ∀ other ∈ registry.declaredMembers type, other.id.index < member.id.index →
    other.kind = member.kind → (member.kind = .constructor ∨ other.name = member.name) →
    other.parameters ≠ parameters

/-- Whether looking a member up on a type, by its kind, its name and some parameter types, finds
that member: it has these parameter types when it is seen from the type, and nothing declared
before it has them. -/
def Recalls (registry : Registry) (type : Ty) (member : Member) (parameters : List Ty) : Prop :=
  (∃ form ∈ registry.declaredMembers type, form.id = member.id ∧ form.parameters = parameters) ∧
    registry.Unprecedented type member parameters

variable {registry : Registry}

/-- The question that a member is looked up by, put to the members of a type itself. -/
def answersAgain (kind : MemberKind) (name : String) (parameters : List Ty) (member : Member) :
    Bool :=
  member.kind = kind && (kind = .constructor || member.name = name) &&
    member.parameters = parameters

/-- What is looked up again has the candidate's kind and the parameter types of the match. It has
the candidate's name too, unless it is a constructor. -/
theorem answersAgain_iff {kind : MemberKind} {name : String} {parameters : List Ty}
    {member : Member} : answersAgain kind name parameters member = true ↔
      member.kind = kind ∧ (kind = .constructor ∨ member.name = name) ∧
        member.parameters = parameters := by
  simp [answersAgain, and_assoc]

/-- What a type of lower elevation declares is declared by another definition. -/
theorem id_ne_of_elevation_lt {id : DefinitionId} {arguments : List Ty} {base : Ty}
    (lower : registry.elevation base < registry.elevation (.named id arguments))
    {member : Member} (declared : member ∈ registry.declaredMembers base) :
    member.id.definition ≠ id := by
  obtain ⟨other, otherArguments, _, _, _, rfl, _, _, rfl⟩ := mem_declaredMembers_iff.mp declared
  rintro rfl
  exact Nat.lt_irrefl _ lower

/-- A type that recalls a member finds it among its own. -/
theorem find?_of_recalls {type : Ty} {member form : Member} {parameters : List Ty}
    (declared : form ∈ registry.declaredMembers type) (sameId : form.id = member.id)
    (sameKind : form.kind = member.kind) (sameName : form.name = member.name)
    (recalls : registry.Recalls type member parameters) :
    (registry.declaredMembers type).find? (answersAgain member.kind member.name parameters) =
      some form := by
  obtain ⟨⟨other, otherDeclared, otherId, alike⟩, unprecedented⟩ := recalls
  obtain rfl : other = form := eq_of_id_eq otherDeclared declared (otherId.trans sameId.symm)
  apply find?_declaredMembers_iff.mpr
  refine ⟨declared, answersAgain_iff.mpr ⟨sameKind, Or.inr sameName, alike⟩, ?_⟩
  intro earlierMember earlierDeclared earlier
  apply Bool.eq_false_iff.mpr
  intro answers
  obtain ⟨kinds, names, same⟩ := answersAgain_iff.mp answers
  exact unprecedented earlierMember earlierDeclared (sameId ▸ earlier) kinds names same

namespace WellFormed

variable (sound : registry.WellFormed)
include sound

/-- Looking a member up on a type puts the question to the type's own members first. What it
finds else is inherited from another definition. -/
theorem findMember?_named (id : DefinitionId) (arguments : List Ty) (kind : MemberKind)
    (name : String) (parameters : List Ty) :
    ∃ inherited : Option Member, (∀ found, inherited = some found → found.id.definition ≠ id) ∧
      registry.findMember? (.named id arguments) kind name parameters =
        ((registry.declaredMembers (.named id arguments)).find?
          (answersAgain kind name parameters)).or inherited := by
  let question : Member → Bool := fun member =>
    member.kind = kind && member.parameters = parameters
  by_cases constructors : kind = .constructor
  · refine ⟨none, by simp, ?_⟩
    rw [findMember?, if_pos constructors, Registry.constructors, List.find?_filter, Option.or_none]
    refine congrArg (List.find? · _) (funext fun member => ?_)
    by_cases sameKind : member.kind = kind
    · simp [answersAgain, constructors, sameKind]
    · simp [answersAgain, sameKind]
  · obtain ⟨bases, chain, lower⟩ := sound.baseChain_eq_cons (.named id arguments)
    let inherited := bases.flatMap fun type => (registry.declaredMembers type).filter
      fun member => answersTo name .all member && member.visibility ≠ .privateAccess
    refine ⟨inherited.find? question, ?_, ?_⟩
    · intro found first
      obtain ⟨base, above, inside⟩ := List.mem_flatMap.mp (List.mem_of_find?_eq_some first)
      exact id_ne_of_elevation_lt (lower base above) (List.mem_filter.mp inside).1
    · rw [findMember?, if_neg constructors, members, chain, membersAlong, List.find?_append,
        List.find?_filter]
      refine congrArg (fun own => (List.find? own _).or _) (funext fun member => ?_)
      by_cases sameKind : member.kind = kind
      · simp [answersAgain, answersTo, sameKind, constructors]
      · simp [answersAgain, sameKind]

/-- Looking a member up on a type that declares it finds it exactly when the type recalls it. -/
theorem findMember?_id_iff (member : Member) {id : DefinitionId} {arguments : List Ty}
    {form found : Member} {parameters : List Ty}
    (declared : form ∈ registry.declaredMembers (.named id arguments))
    (sameId : form.id = member.id) (sameKind : form.kind = member.kind)
    (sameName : form.name = member.name) (home : member.id.definition = id)
    (lookedUp : registry.findMember? (.named id arguments) member.kind member.name parameters =
      some found) :
    (found.id = member.id ↔ registry.Recalls (.named id arguments) member parameters) ∧
      (found.id = member.id → found = form) := by
  obtain ⟨inherited, elsewhere, searched⟩ :=
    sound.findMember?_named id arguments member.kind member.name parameters
  rw [lookedUp] at searched
  have own : found.id = member.id → (registry.declaredMembers (.named id arguments)).find?
      (answersAgain member.kind member.name parameters) = some found := by
    intro same
    rcases Option.or_eq_some_iff.mp searched.symm with here | ⟨_, above⟩
    · exact here
    · exact absurd (by rw [same, home]) (elsewhere found above)
  refine ⟨⟨?_, ?_⟩, ?_⟩
  · intro same
    obtain ⟨foundDeclared, answers, before⟩ := find?_declaredMembers_iff.mp (own same)
    refine ⟨⟨found, foundDeclared, same, (answersAgain_iff.mp answers).2.2⟩, ?_⟩
    intro other otherDeclared earlier kinds names alike
    have refused := before other otherDeclared (same ▸ earlier)
    rw [answersAgain_iff.mpr ⟨kinds, names, alike⟩] at refused
    simp at refused
  · intro recalls
    have first := find?_of_recalls declared sameId sameKind sameName recalls
    obtain rfl : found = form := by simpa [first] using searched
    exact sameId
  · intro same
    exact eq_of_id_eq (List.mem_of_find?_eq_some (own same)) declared (same.trans sameId.symm)

end WellFormed

end Registry

/-! ## The last step -/

/-- The type-level part of bindings leaves the own parameters of members in place. -/
theorem Bindings.keepsMethodLevel_typeLevel {bindings : Bindings}
    (distinct : bindings.keys.Nodup) : bindings.typeLevel.KeepsMethodLevel := by
  intro p methodLevel
  apply Substitution.image_of_get?_none
  rw [typeLevel, get?_toSubstitution distinct, methodLevel]
  rfl

namespace Member

/-- A member that is given arguments for its own parameters stays the same member. -/
@[simp] theorem closeMethod_id (member : Member) (arguments : List Ty) :
    (member.closeMethod arguments).id = member.id := rfl

/-- It is seen from the same type as before. -/
@[simp] theorem closeMethod_declaring (member : Member) (arguments : List Ty) :
    (member.closeMethod arguments).declaring = member.declaring := rfl

/-- The arguments are put in place of the member's own parameters in each parameter type, and
nowhere else. -/
@[simp] theorem closeMethod_parameters (member : Member) (arguments : List Ty) :
    (member.closeMethod arguments).parameters = member.parameters.map
      (Ty.replace (.ofParameters member.methodParameters arguments)) := by
  simp [closeMethod, specialize]

/-- They are put in place in the member's type as well. -/
@[simp] theorem closeMethod_type (member : Member) (arguments : List Ty) :
    (member.closeMethod arguments).type =
      member.type.replace (.ofParameters member.methodParameters arguments) := by
  simp [closeMethod, specialize]

/-- A member that was given as many arguments as it has own parameters waits for none. -/
theorem hasOpenMethodParameters_closeMethod {member : Member} {arguments : List Ty}
    (count : member.generics.length = arguments.length) :
    (member.closeMethod arguments).hasOpenMethodParameters = false := by
  simp only [hasOpenMethodParameters, closeMethod, specialize]
  cases arguments with
  | nil => simp [List.length_eq_zero_iff.mp count]
  | cons first rest => simp

/-- Where there is nothing to close, nothing changes. -/
theorem closeMethod_nil {member : Member} (unclosed : member.methodArguments = []) :
    member.closeMethod [] = member := by
  have idle : ∀ type : Ty, type.replace (.ofParameters member.methodParameters []) = type := by
    intro type
    apply Ty.replace_eq_self
    intro p _
    apply Substitution.image_of_get?_none
    simp [Substitution.ofParameters, OrderedMap.ofList, OrderedMap.get?, OrderedMap.find?,
      OrderedMap.empty]
  have idleAll : member.parameters.map
      (Ty.replace (.ofParameters member.methodParameters [])) = member.parameters :=
    (List.map_congr_left fun type _ => idle type).trans (List.map_id' _)
  simp only [closeMethod, specialize, Ty.substitute_eq_replace, Ty.substitute_fun_eq_replace, idle,
    idleAll]
  rw [← unclosed]

/-- All own parameters of an unclosed member are wanted. -/
theorem wantedMethodParameters_eq {member : Member} (unclosed : member.methodArguments = []) :
    member.wantedMethodParameters = member.methodParameters := by
  rw [wantedMethodParameters, hasOpenMethodParameters, methodParameters, unclosed]
  cases member.generics <;> rfl

/-- No own parameter is listed twice, so that the arguments of a match bind each of them once. -/
theorem methodParameters_nodup (member : Member) : member.methodParameters.Nodup :=
  member.toDeclaration.methodParameters_nodup member.id

end Member

namespace Registry

variable {registry : Registry}

/-- A member is closed with as many arguments as it has own parameters. -/
theorem closeMethod_eq_ok_iff {member closed : Member} {arguments : List Ty} :
    registry.closeMethod member arguments = .ok closed ↔
      member.generics.length = arguments.length ∧ member.closeMethod arguments = closed := by
  rw [closeMethod]
  by_cases count : member.generics.length = arguments.length
  · simp [count]
  · simp [count]

/-- A member whose own parameters wait for as many arguments as there are is given them. -/
theorem closeMethod_step (closed : Member) {member : Member} {arguments : List Ty}
    (unclosed : closed.methodArguments = []) (none? : closed.generics = [] → arguments = []) :
    (if closed.hasOpenMethodParameters then registry.closeMethod closed arguments
        else pure closed) = Except.ok member ↔
      closed.generics.length = arguments.length ∧ closed.closeMethod arguments = member := by
  cases generics : closed.generics with
  | nil =>
    rw [if_neg (by simp [Member.hasOpenMethodParameters, generics]), none? generics,
      Member.closeMethod_nil unclosed]
    simp [pure, Except.pure]
  | cons first rest =>
    rw [if_pos (by simp [Member.hasOpenMethodParameters, generics, unclosed]), closeMethod]
    by_cases count : closed.generics.length = arguments.length
    · rw [if_pos count]
      simp [← generics, count]
    · rw [if_neg count]
      simp [← generics, count]

/-- The last step keeps the identity of a member and the type from which it is seen. -/
theorem closeMethod_step_keeps {closed member : Member} {arguments : List Ty}
    (stepped : (if closed.hasOpenMethodParameters then registry.closeMethod closed arguments
        else pure closed) = Except.ok member) :
    member.id = closed.id ∧ member.declaring = closed.declaring := by
  split at stepped
  · obtain ⟨-, rfl⟩ := closeMethod_eq_ok_iff.mp stepped
    exact ⟨rfl, rfl⟩
  · obtain rfl := Except.ok.inj stepped
    exact ⟨rfl, rfl⟩

/-- A member is looked up again on its definition applied to the type arguments of the match. -/
theorem reopen_eq_ok_iff {member closed : Member} {matched : Match} {home : DefinitionId}
    (named : member.declaring.definition? = some home) :
    registry.reopen member matched = .ok closed ↔
      (registry.parameters home).length = matched.typeArguments.length ∧
        registry.findMember? (.named home matched.typeArguments) member.kind member.name
          matched.parameterTypes = some closed := by
  simp only [reopen, named, bind_eq_ok, closeType]
  constructor
  · rintro ⟨type, applied, lookedUp⟩
    by_cases count : (registry.parameters home).length = matched.typeArguments.length
    · rw [if_pos count] at applied
      obtain rfl := Except.ok.inj applied
      refine ⟨count, ?_⟩
      cases first : registry.findMember? (.named home matched.typeArguments) member.kind
          member.name matched.parameterTypes with
      | some found =>
        rw [first] at lookedUp
        rw [Except.ok.inj lookedUp]
      | none =>
        rw [first] at lookedUp
        cases lookedUp
    · rw [if_neg count] at applied
      cases applied
  · rintro ⟨count, first⟩
    exact ⟨_, if_pos count, by rw [first]; rfl⟩

section Own

variable {member : Member} {receiver : Option Ty} {arguments : List (Option Ty)}
  {expectation : Expectation} {bindings : Bindings} {matched : Match}
  (unified : registry.Unified member receiver arguments expectation bindings matched)
  (unclosed : member.methodArguments = [])

include unified unclosed

/-- The method arguments of a match are what the member's own parameters are bound to. -/
theorem Unified.bound_methodArguments : List.Forall₂
    (fun p type => bindings.bound? p = some type) member.methodParameters
      matched.methodArguments := by
  rw [← Bindings.resolve?_eq_some_iff, ← Member.wantedMethodParameters_eq unclosed]
  exact unified.methodArguments

/-- A match has an argument for each own parameter. -/
theorem Unified.length_methodArguments :
    member.generics.length = matched.methodArguments.length := by
  rw [← (unified.bound_methodArguments unclosed).length_eq]
  simp [Member.methodParameters]

/-- Closing puts what a parameter is bound to in its place. -/
theorem Unified.image_methodArguments {p : Parameter} (own : p ∈ member.methodParameters)
    {type : Ty} (bound : bindings.bound? p = some type) :
    (Substitution.ofParameters member.methodParameters matched.methodArguments).image p = type := by
  have each := unified.bound_methodArguments unclosed
  obtain ⟨place, inside, rfl⟩ := List.mem_iff_getElem.mp own
  have bounded : place < matched.methodArguments.length := each.length_eq ▸ inside
  have there := (List.forall₂_iff_get.mp each).2 place inside bounded
  have same : matched.methodArguments[place] = type := by
    simpa [bound, eq_comm] using there
  refine Substitution.image_of_get? (OrderedMap.get?_writes_of_mem _ _ ?_ ?_)
  · rw [List.map_fst_zip each.length_eq.le]
    exact member.methodParameters_nodup
  · rw [List.mem_iff_getElem]
    exact ⟨place, by simp [inside, bounded], by simp [same]⟩

/-- Every parameter of the declaring type and every own parameter is bound. -/
theorem Unified.bound_of_scoped {p : Parameter}
    (scope : p ∈ member.declaring.occurrences ∨ p ∈ member.methodParameters) :
    ∃ type, bindings.bound? p = some type := by
  refine unified.bound p (List.mem_append.mpr (scope.imp (Ty.mem_parameters _ p).mpr fun own => ?_))
  rwa [Member.wantedMethodParameters_eq unclosed]

/-- Where what is bound is closed, closing in two steps puts every binding in its place. -/
theorem Unified.replace_replace_of_closed
    (closed : ∀ {p type}, bindings.bound? p = some type → type.isOpen = false) {type : Ty}
    (bound : ∀ p ∈ type.occurrences, ∃ image, bindings.bound? p = some image)
    (own : ∀ p ∈ type.occurrences, p.isMethodLevel = true → p ∈ member.methodParameters) :
    (type.replace bindings.typeLevel).replace
        (.ofParameters member.methodParameters matched.methodArguments) =
      type.replace bindings.all := by
  apply Ty.replace_replace
  intro p occurs
  obtain ⟨image, found⟩ := bound p occurs
  rw [Bindings.image_all unified.distinct found, Bindings.image_typeLevel unified.distinct found,
    resolvedParameter]
  cases level : p.isMethodLevel with
  | false => exact Ty.replace_of_closed _ (closed found)
  | true =>
    rw [if_pos rfl, Ty.replace_parameter]
    exact unified.image_methodArguments unclosed (own p occurs level) found

end Own

/-- Closing a member of a closed type gives the method its arguments, and cannot fail. -/
theorem Unified.close_of_closed {type : Ty} {candidate : Member} {receiver : Option Ty}
    {arguments : List (Option Ty)} {expectation : Expectation} {bindings : Bindings}
    {matched : Match} (declared : candidate ∈ registry.declaredMembers type)
    (closed : type.isOpen = false)
    (unified : registry.Unified candidate receiver arguments expectation bindings matched) :
    registry.close candidate matched = .ok (candidate.closeMethod matched.methodArguments) := by
  obtain ⟨sameType, unclosed, _⟩ := declared_facts declared
  have count := unified.length_methodArguments unclosed
  rw [close, sameType, if_neg (by simp [closed]), pure_bind]
  refine (closeMethod_step candidate unclosed ?_).mpr ⟨count, rfl⟩
  intro noGenerics
  simpa [noGenerics] using count.symm

section Seen

variable {id : DefinitionId} {declaringArguments : List Ty} {member : Member}
  {receiver : Option Ty} {arguments : List (Option Ty)} {expectation : Expectation}
  {bindings : Bindings} {matched : Match}
  (declared : member ∈ registry.declaredMembers (.named id declaringArguments))
  (unified : registry.Unified member receiver arguments expectation bindings matched)

include declared unified

/-- The closed declaring type is the declared one under the type-level bindings. -/
theorem Unified.named_typeArguments : Ty.named id matched.typeArguments =
    (Ty.named id declaringArguments).replace bindings.typeLevel := by
  rw [unified.typeArguments, (declared_facts declared).1, Ty.arguments, Ty.replace_named]

/-- It has an argument for each parameter of its definition. -/
theorem Unified.length_typeArguments
    (applied : registry.wellApplied (.named id declaringArguments) = true) :
    (registry.parameters id).length = matched.typeArguments.length := by
  obtain ⟨⟨definition, found, arity⟩, _⟩ := (registry.wellApplied_named_iff _ _).mp applied
  rw [unified.typeArguments, (declared_facts declared).1, Ty.arguments, List.length_map, ← arity,
    parameters, found]
  simp

/-- The closed declaring type has no parameter left when every binding is closed. Parameters of
methods, which no binding replaces here, do not occur in it. -/
theorem Unified.isOpen_typeArguments
    (plain : ∀ p ∈ (Ty.named id declaringArguments).occurrences, p.isMethodLevel = false)
    (closed : ∀ {p type}, bindings.bound? p = some type → type.isOpen = false) :
    (Ty.named id matched.typeArguments).isOpen = false := by
  rw [unified.named_typeArguments declared]
  obtain ⟨sameType, unclosed, _⟩ := declared_facts declared
  refine Ty.isOpen_replace_eq_false_iff.mpr fun p occurs => ?_
  obtain ⟨image, bound⟩ := unified.bound_of_scoped unclosed (Or.inl (sameType ▸ occurs))
  rw [Bindings.image_typeLevel unified.distinct bound, resolvedParameter,
    if_neg (by simp [plain p occurs])]
  exact closed bound

end Seen

namespace WellFormed

variable (sound : registry.WellFormed)
include sound

section Closing

variable {id : DefinitionId} {declaringArguments : List Ty} {candidate : Member}
  {receiver : Option Ty} {arguments : List (Option Ty)} {expectation : Expectation}
  {bindings : Bindings} {matched : Match}
  (applied : registry.wellApplied (.named id declaringArguments) = true)
  (declared : candidate ∈ registry.declaredMembers (.named id declaringArguments))
  (unified : registry.Unified candidate receiver arguments expectation bindings matched)

include applied declared unified

/-- The closed declaring type is well applied, as the types are from which its arguments were
inferred. -/
theorem applied_typeArguments
    (offered : ∀ type ∈ offeredTypes receiver arguments expectation,
      registry.wellApplied type = true) :
    registry.wellApplied (.named id matched.typeArguments) = true := by
  rw [unified.named_typeArguments declared]
  obtain ⟨sameType, unclosed, _⟩ := declared_facts declared
  refine wellApplied_replace applied fun p occurs => ?_
  obtain ⟨image, bound⟩ := unified.bound_of_scoped unclosed (Or.inl (sameType ▸ occurs))
  obtain ⟨actual, inside, deep⟩ := unified.drawn bound
  rw [Bindings.image_typeLevel unified.distinct bound, resolvedParameter]
  split
  · rfl
  · exact sound.wellApplied_part (offered actual inside) deep

/-- The matched member as it is seen from the closed declaring type. -/
theorem form_declared : candidate.seenAs bindings.typeLevel
      (candidate.declaring.withArguments matched.typeArguments) ∈
    registry.declaredMembers (candidate.declaring.withArguments matched.typeArguments) := by
  obtain ⟨_, _, definition, index, declaration, ⟨⟩, found, stored, rfl⟩ :=
    mem_declaredMembers_iff.mp declared
  have typeArguments := unified.typeArguments
  simp only [seenFrom_declaring, Ty.arguments] at typeArguments
  rw [seenFrom_declaring, Ty.withArguments, typeArguments]
  exact sound.specialize_declared applied declared
    (Bindings.keepsMethodLevel_typeLevel unified.distinct)

/-- Closing keeps the member that was matched exactly when its declaring type is closed already
or recalls it, and then closes it with what was inferred. -/
theorem close_keeps_iff {member : Member}
    (closed : registry.close candidate matched = .ok member) :
    (member.id = candidate.id ↔ (candidate.declaring.isOpen = true →
        registry.Recalls (candidate.declaring.withArguments matched.typeArguments) candidate
          matched.parameterTypes)) ∧
      (member.id = candidate.id → member = (candidate.seenAs bindings.typeLevel
        (candidate.declaring.withArguments matched.typeArguments)).closeMethod
          matched.methodArguments) := by
  obtain ⟨sameType, unclosed, home⟩ := declared_facts declared
  have form := sound.form_declared applied declared unified
  have count := unified.length_methodArguments unclosed
  cases opened : candidate.declaring.isOpen with
  | false =>
    rw [unified.close_of_closed declared (sameType ▸ opened)] at closed
    obtain rfl := Except.ok.inj closed
    refine ⟨by simp, fun _ => congrArg (Member.closeMethod · _) ?_⟩
    have sameForm : candidate.declaring.withArguments matched.typeArguments =
        .named id declaringArguments := by
      rw [sameType] at opened ⊢
      rw [Ty.withArguments, unified.typeArguments, sameType, Ty.arguments, ← Ty.replace_named,
        Ty.replace_of_closed _ opened]
    rw [sameForm] at form ⊢
    exact eq_of_id_eq declared form rfl
  | true =>
    rw [close, if_pos opened] at closed
    obtain ⟨found, reopened, stepped⟩ := bind_eq_ok.mp closed
    obtain ⟨-, lookedUp⟩ := (reopen_eq_ok_iff (by rw [sameType]; rfl)).mp reopened
    rw [sameType, Ty.withArguments] at form
    obtain rfl : id = candidate.id.definition := Option.some.inj home
    obtain ⟨recalled, same⟩ :=
      sound.findMember?_id_iff candidate form rfl rfl rfl rfl lookedUp
    rw [(closeMethod_step_keeps stepped).1, sameType, Ty.withArguments]
    refine ⟨by simpa using recalled, fun sameId => ?_⟩
    rw [same sameId] at stepped
    have noneGiven : candidate.generics = [] → matched.methodArguments = [] := by
      intro generics
      simpa [generics] using count.symm
    exact ((closeMethod_step (candidate.seenAs _ _) unclosed noneGiven).mp
      stepped).2.symm

/-- Every parameter that the member's signature mentions is bound. -/
theorem bound_of_mentioned {mentioned : Ty}
    (inside : mentioned = candidate.type ∨ mentioned ∈ candidate.parameters) {p : Parameter}
    (occurs : p ∈ mentioned.occurrences) : ∃ image, bindings.bound? p = some image := by
  obtain ⟨sameType, unclosed, _⟩ := declared_facts declared
  exact unified.bound_of_scoped unclosed
    (sameType ▸ sound.scoped_of_declared applied declared inside occurs)

/-- Where what is bound is closed and the declaring type mentions no method's parameters, closing
puts the bindings in the places of a signature's parameters. -/
theorem closed_signature
    (closed : ∀ {p type}, bindings.bound? p = some type → type.isOpen = false)
    (plain : ∀ p ∈ (Ty.named id declaringArguments).occurrences, p.isMethodLevel = false)
    {mentioned : Ty} (inside : mentioned = candidate.type ∨ mentioned ∈ candidate.parameters) :
    (mentioned.replace bindings.typeLevel).replace
        (.ofParameters candidate.methodParameters matched.methodArguments) =
      mentioned.replace bindings.all := by
  obtain ⟨_, unclosed, _⟩ := declared_facts declared
  refine unified.replace_replace_of_closed unclosed closed
    (fun p occurs => sound.bound_of_mentioned applied declared unified inside occurs) ?_
  intro p occurs level
  apply (sound.scoped_of_declared applied declared inside occurs).resolve_left
  intro inherited
  simp [plain p inherited] at level

/-- No parameter is left in the types a member mentions once all are bound to closed types. -/
theorem isOpen_replace_of_mentioned
    (closed : ∀ {p type}, bindings.bound? p = some type → type.isOpen = false) {mentioned : Ty}
    (inside : mentioned = candidate.type ∨ mentioned ∈ candidate.parameters) :
    (mentioned.replace bindings.all).isOpen = false := by
  apply Ty.isOpen_replace_eq_false_iff.mpr
  intro p occurs
  obtain ⟨image, bound⟩ := sound.bound_of_mentioned applied declared unified inside occurs
  rw [Bindings.image_all unified.distinct bound]
  exact closed bound

/-- The closed form has the parameter types and the type that the bindings make of the declared
ones. -/
theorem closedForm_parameters
    (closed : ∀ {p type}, bindings.bound? p = some type → type.isOpen = false)
    (plain : ∀ p ∈ (Ty.named id declaringArguments).occurrences, p.isMethodLevel = false)
    (declaring : Ty) :
    ((candidate.seenAs bindings.typeLevel declaring).closeMethod
        matched.methodArguments).parameters =
      candidate.parameters.map (Ty.replace bindings.all) := by
  rw [Member.closeMethod_parameters, Member.seenAs_parameters, Member.methodParameters_seenAs,
    List.map_map]
  apply List.map_congr_left
  intro written inside
  exact sound.closed_signature applied declared unified closed plain (Or.inr inside)

/-- The same of the type. The two steps, for the parameters of the definition and for the member's
own, come to one replacement by all the bindings. -/
theorem closedForm_type
    (closed : ∀ {p type}, bindings.bound? p = some type → type.isOpen = false)
    (plain : ∀ p ∈ (Ty.named id declaringArguments).occurrences, p.isMethodLevel = false)
    (declaring : Ty) :
    ((candidate.seenAs bindings.typeLevel declaring).closeMethod matched.methodArguments).type =
      candidate.type.replace bindings.all := by
  rw [Member.closeMethod_type, Member.seenAs_type, Member.methodParameters_seenAs]
  exact sound.closed_signature applied declared unified closed plain (Or.inl rfl)

/-- What is inferred from closed types gives the form its parameter types, so it is recalled
unless a declaration before it is made like it. -/
theorem recalls_iff_of_closed
    (bound : ∀ {p type}, bindings.bound? p = some type → type.isOpen = false) :
    registry.Recalls (candidate.declaring.withArguments matched.typeArguments) candidate
        matched.parameterTypes ↔
      registry.Unprecedented (candidate.declaring.withArguments matched.typeArguments) candidate
        matched.parameterTypes := by
  refine ⟨And.right, fun unprecedented =>
    ⟨⟨_, sound.form_declared applied declared unified, rfl, ?_⟩, unprecedented⟩⟩
  rw [unified.parameterTypes_of_closed fun _ _ _ _ _ found => bound found,
    Member.seenAs_parameters]

/-- Where what is inferred is closed, the matched member answers, as it is seen from the closed
type, to the question that it is looked up by. -/
theorem form_answersAgain
    (closed : ∀ {p type}, bindings.bound? p = some type → type.isOpen = false) :
    ∃ form ∈ registry.declaredMembers (.named id matched.typeArguments),
      answersAgain candidate.kind candidate.name matched.parameterTypes form = true := by
  have form := sound.form_declared applied declared unified
  rw [(declared_facts declared).1, Ty.withArguments] at form
  refine ⟨_, form, answersAgain_iff.mpr ⟨rfl, Or.inr rfl, ?_⟩⟩
  rw [unified.parameterTypes_of_closed fun _ _ _ _ _ bound => closed bound,
    Member.seenAs_parameters]

/-- So looking it up finds a member of the closed type itself, with the parameter types of the
match. -/
theorem exists_lookedUp (closed : ∀ {p type}, bindings.bound? p = some type → type.isOpen = false) :
    ∃ found, registry.findMember? (.named id matched.typeArguments) candidate.kind candidate.name
        matched.parameterTypes = some found ∧
      found ∈ registry.declaredMembers (.named id matched.typeArguments) ∧
      found.parameters = matched.parameterTypes := by
  obtain ⟨form, formDeclared, answers⟩ := sound.form_answersAgain applied declared unified closed
  obtain ⟨found, first⟩ :=
    Option.isSome_iff_exists.mp (List.find?_isSome.mpr ⟨form, formDeclared, answers⟩)
  obtain ⟨inherited, -, searched⟩ := sound.findMember?_named id matched.typeArguments
    candidate.kind candidate.name matched.parameterTypes
  refine ⟨found, by rw [searched, first, Option.some_or], List.mem_of_find?_eq_some first, ?_⟩
  exact (answersAgain_iff.mp (List.find?_some first)).2.2

end Closing

end WellFormed

end Registry

end LateBinding
