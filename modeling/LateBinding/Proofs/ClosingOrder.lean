import LateBinding.Proofs.Closing
import LateBinding.Proofs.Completeness

/-!
# Closing a method before its type

A method of a generic type that has parameters of its own is closed in two steps: the type first,
then the method. A descriptor whose own parameters were given their arguments beforehand is unified
all the same. Nothing asks for its own parameters any more, and it matches the same call site with
the same type arguments: what the unification of the method binds is bound again, except for the own
parameters (`Registry.Shadows`).

Closing that descriptor is another matter. The member is looked up on the closed type by the
parameter types of the match, in which the own parameters are expected to be still in place. There
they are gone, so the member itself is never found. Where the declaring type is closed already
nothing is looked up, and the two orders agree.
-/
namespace LateBinding

/-- One substitution is a closed part of another: it puts the same closed types in the places of
some parameters and leaves the others alone. -/
def Substitution.ClosedPart (given images : Substitution) : Prop :=
  ∀ p, given.image p = .parameter p ∨
    given.image p = images.image p ∧ (images.image p).isOpen = false

namespace Substitution.ClosedPart

variable {given images : Substitution} (part : given.ClosedPart images)
include part

/-- What is left may be put in its place afterwards. -/
theorem replace_replace (type : Ty) :
    (type.replace given).replace images = type.replace images := by
  apply Ty.replace_replace
  intro p _
  rcases part p with left | ⟨same, closed⟩
  · rw [left, Ty.replace_parameter]
  · rw [same, Ty.replace_of_closed _ closed]

/-- A parameter that is left in a type is one that was there and was not given. -/
theorem mem_occurrences_iff {type : Ty} {p : Parameter} :
    p ∈ (type.replace given).occurrences ↔
      p ∈ type.occurrences ∧ given.image p = .parameter p := by
  rw [Ty.occurrences_replace, List.mem_flatMap]
  constructor
  · rintro ⟨original, occurs, inside⟩
    rcases part original with left | ⟨same, closed⟩
    · rw [left, Ty.occurrences_parameter, List.mem_singleton] at inside
      exact inside ▸ ⟨occurs, left⟩
    · rw [same, (Ty.isOpen_eq_false_iff _).mp closed] at inside
      simp at inside
  · rintro ⟨occurs, left⟩
    exact ⟨p, occurs, by simp [left]⟩

end Substitution.ClosedPart

/-- A parameter of a definition is none of a member's own. -/
theorem Member.not_mem_methodParameters {member : Member} {p : Parameter}
    (level : p.isMethodLevel = false) : p ∉ member.methodParameters := by
  intro own
  simp [Declaration.isMethodLevel_of_mem_methodParameters own] at level

/-- A member that was given its arguments waits for none. -/
theorem Member.wantedMethodParameters_closeMethod {member : Member} {arguments : List Ty}
    (count : member.generics.length = arguments.length) :
    (member.closeMethod arguments).wantedMethodParameters = [] := by
  rw [wantedMethodParameters, hasOpenMethodParameters_closeMethod count,
    if_neg Bool.false_ne_true]

namespace Registry

variable {registry : Registry} {given images : Substitution}

/-- Bindings of a unification in which some parameters were given beforehand: they say nothing but
what the images say, and bind whatever else is bound in the unification without it. -/
structure Shadows (given images : Substitution) (bindings rest : Bindings) : Prop where
  agrees : rest.Agrees images
  same : ∀ p, given.image p = .parameter p →
    ((∃ type, bindings.bound? p = some type) ↔ ∃ type, rest.bound? p = some type)

namespace Shadows

variable {bindings rest : Bindings} (shadows : Shadows given images bindings rest)
include shadows

/-- What is left of a type whose parameters are bound has its parameters bound, to their images. -/
theorem recovers (part : given.ClosedPart images) {type : Ty} (bound : bindings.Binds type) :
    rest.Recovers images (type.replace given) := by
  refine ⟨shadows.agrees, fun p occurs => ?_⟩
  obtain ⟨before, left⟩ := part.mem_occurrences_iff.mp occurs
  exact (shadows.same p left).mp (bound p before)

/-- Under these bindings what is left of a type becomes what the images make of the type. -/
theorem replace_all (part : given.ClosedPart images) (distinct : rest.keys.Nodup) {type : Ty}
    (bound : bindings.Binds type) :
    (type.replace given).replace rest.all = type.replace images := by
  rw [← part.replace_replace type]
  exact (shadows.recovers part bound).replace_all distinct

/-- So it does at the level of types, if no parameter of a member is left. -/
theorem replace_typeLevel (part : given.ClosedPart images) (distinct : rest.keys.Nodup)
    {type : Ty} (bound : bindings.Binds type)
    (level : ∀ p ∈ (type.replace given).occurrences, p.isMethodLevel = false) :
    (type.replace given).replace rest.typeLevel = type.replace images := by
  rw [← part.replace_replace type]
  apply Ty.replace_congr
  intro p occurs
  rw [Bindings.image_typeLevel distinct ((shadows.recovers part bound).bound occurs),
    resolvedParameter, if_neg (by simp [level p occurs])]

/-- A match of a declared type, and one of what is left of it, leave bindings that correspond. -/
theorem step (part : given.ClosedPart images) {declared : Ty} {after later : Bindings}
    {allowed others : Parameter → Ty → Prop}
    (grows : Bindings.Grows (fun p type => p ∈ declared.occurrences ∧ allowed p type) bindings
      after)
    (restGrows : Bindings.Grows (fun p type => p ∈ (declared.replace given).occurrences ∧
      others p type) rest later)
    (binds : after.Binds declared) (recovers : later.Recovers images (declared.replace given)) :
    Shadows given images after later := by
  refine ⟨recovers.agrees, fun p left => ⟨?_, ?_⟩⟩
  · rintro ⟨type, found⟩
    rcases grows.fresh found with old | ⟨occurs, -⟩
    · obtain ⟨image, kept⟩ := (shadows.same p left).mp ⟨type, old⟩
      exact ⟨image, restGrows.kept kept⟩
    · exact recovers.binds p (part.mem_occurrences_iff.mpr ⟨occurs, left⟩)
  · rintro ⟨type, found⟩
    rcases restGrows.fresh found with old | ⟨occurs, -⟩
    · obtain ⟨image, kept⟩ := (shadows.same p left).mpr ⟨type, old⟩
      exact ⟨image, grows.kept kept⟩
    · exact binds p (part.mem_occurrences_iff.mp occurs).1

/-- A parameter that is left is met for the first time here where it is met for the first time
there, and admits the same types later. -/
theorem matchParameter {p : Parameter} (left : given.image p = .parameter p)
    {actual resolved : Ty} {after : Bindings}
    (matched : registry.matchParameter false p actual bindings = (.ok resolved, after))
    (agrees : after.Agrees images) :
    ∃ answer later, registry.matchParameter false p actual rest = (.ok answer, later) ∧
      later.Recovers images (.parameter p) := by
  cases found : bindings.bound? p with
  | none =>
    rw [Registry.matchParameter, found] at matched
    obtain ⟨-, rfl⟩ := Prod.mk.inj matched
    have image := agrees p actual (bindings.bound?_bind_self p actual)
    obtain ⟨later, again, recovers⟩ :=
      registry.matchParameter_complete false p shadows.agrees
    exact ⟨_, later, image ▸ again, recovers⟩
  | some bound =>
    simp only [Registry.matchParameter, found, true_and] at matched
    by_cases holds : bound = actual ∨ registry.isAssignable actual bound = true
    · rw [if_pos holds] at matched
      obtain ⟨-, rfl⟩ := Prod.mk.inj matched
      obtain ⟨image, there⟩ := (shadows.same p left).mp ⟨bound, found⟩
      obtain rfl : image = bound :=
        (shadows.agrees p image there).trans (agrees p bound found).symm
      refine ⟨resolvedParameter p image, rest,
        by simp only [Registry.matchParameter, there, true_and, if_pos holds], shadows.agrees, ?_⟩
      intro q occurs
      obtain rfl : q = p := by simpa using occurs
      exact ⟨image, there⟩
    · rw [if_neg holds] at matched
      cases (Prod.mk.inj matched).1

end Shadows

namespace WellFormed

variable (sound : registry.WellFormed)
include sound

/-! ## The steps once more -/

/-- What matches an open form of a definition matches what is left of it, since it instantiates the
definition with the images of the arguments. -/
theorem matchType_named_given (part : given.ClosedPart images) {id : DefinitionId}
    {arguments : List Ty} {actual resolved : Ty} {before after rest : Bindings}
    (opened : (Ty.named id arguments).isOpen = true)
    (declaredApplied : registry.wellApplied (.named id arguments) = true)
    (applied : registry.wellApplied actual = true) (distinct : before.keys.Nodup)
    (matched : registry.matchType false (.named id arguments) actual before =
      (.ok resolved, after))
    (recovers : after.Recovers images (.named id arguments)) (agrees : rest.Agrees images) :
    ∃ answer later, registry.matchType false ((Ty.named id arguments).replace given) actual rest =
        (.ok answer, later) ∧ later.Recovers images ((Ty.named id arguments).replace given) := by
  have grows := sound.matchType_grows false (.named id arguments) actual before
  rw [matched] at grows
  have whole : (Ty.named id arguments).replace after.all =
      ((Ty.named id arguments).replace given).replace images := by
    rw [recovers.replace_all (grows.distinct distinct), part.replace_replace]
  rw [Ty.replace_named, Ty.replace_named, Ty.replace_named, Ty.named.injEq] at whole
  have found := sound.instantiation?_of_matchType declaredApplied applied distinct opened matched
  rw [whole.2] at found
  have path := sound.reaches_of_instantiation? found
  rw [← Ty.replace_named] at path
  rw [Ty.replace_named]
  obtain ⟨later, again, recovered⟩ := sound.matchType_named_complete path found agrees
  exact ⟨_, later, again, recovered⟩

/-- What matches a declared type matches what is left of it, and recovers the images of the
parameters that are left. A closed type is left alone by the images, a parameter that is left is
matched as it was, and a form of a definition is found in the same place. -/
theorem matchType_recovers_left (part : given.ClosedPart images) {declared actual resolved : Ty}
    {before after rest : Bindings} (declaredApplied : registry.wellApplied declared = true)
    (applied : registry.wellApplied actual = true) (distinct : before.keys.Nodup)
    (matched : registry.matchType false declared actual before = (.ok resolved, after))
    (recovers : after.Recovers images declared) (shadows : Shadows given images before rest) :
    ∃ answer later, registry.matchType false (declared.replace given) actual rest =
        (.ok answer, later) ∧ later.Recovers images (declared.replace given) := by
  cases opened : (declared.replace given).isOpen with
  | false =>
    have grows := sound.matchType_grows false declared actual before
    rw [matched] at grows
    have whole : declared.replace after.all = declared.replace given := by
      rw [recovers.replace_all (grows.distinct distinct), ← part.replace_replace declared,
        Ty.replace_of_closed _ opened]
    have admitted := sound.isAssignable_of_matchType declaredApplied applied distinct matched
    rw [whole] at admitted
    exact ⟨_, rest, matchType_of_closed opened admitted rest,
      (recovers_of_closed opened shadows.agrees).2.2⟩
  | true =>
    cases declared with
    | primitive p => simp [Ty.replace, Ty.isOpen] at opened
    | object => simp [Ty.replace, Ty.isOpen] at opened
    | delegate => simp [Ty.replace, Ty.isOpen] at opened
    | parameter p =>
      rw [Ty.replace_parameter] at opened ⊢
      rcases part p with left | ⟨same, closed⟩
      · rw [left] at opened ⊢
        rw [matchType_of_open opened, matchOpen] at matched ⊢
        exact shadows.matchParameter left matched recovers.agrees
      · rw [same, closed] at opened
        simp at opened
    | named id arguments =>
      have declaredOpened : (Ty.named id arguments).isOpen = true := by
        by_contra closed
        rw [Bool.not_eq_true] at closed
        rw [Ty.replace_of_closed _ closed, closed] at opened
        simp at opened
      exact sound.matchType_named_given part declaredOpened declaredApplied applied distinct
        matched recovers shadows.agrees

/-- What matches a declared type matches what is left of it when some of its parameters have been
given. -/
theorem matchType_given (part : given.ClosedPart images) {declared actual resolved : Ty}
    {before after rest : Bindings} (declaredApplied : registry.wellApplied declared = true)
    (applied : registry.wellApplied actual = true) (distinct : before.keys.Nodup)
    (matched : registry.matchType false declared actual before = (.ok resolved, after))
    (agrees : after.Agrees images) (shadows : Shadows given images before rest) :
    ∃ answer later, registry.matchType false (declared.replace given) actual rest =
        (.ok answer, later) ∧ Shadows given images after later := by
  have settled := sound.matchType_settles declaredApplied applied distinct matched
  obtain ⟨answer, later, again, recovers⟩ := sound.matchType_recovers_left part declaredApplied
    applied distinct matched ⟨agrees, settled.binds⟩ shadows
  have grows := sound.matchType_grows false declared actual before
  rw [matched] at grows
  have restGrows := sound.matchType_grows false (declared.replace given) actual rest
  rw [again] at restGrows
  exact ⟨answer, later, again, shadows.step part grows restGrows settled.binds recovers⟩

/-- The receiver is matched with the declaring type, once with all its parameters and once with
those that are left. A member without a receiver has nothing to match in either case. -/
theorem matchReceiver_given (part : given.ClosedPart images) {member : Member} (once : Member)
    (declaring : once.declaring = member.declaring.replace given)
    (sameStatic : once.isStatic = member.isStatic) (sameKind : once.kind = member.kind)
    {receiver : Option Ty} (declaringApplied : registry.wellApplied member.declaring = true)
    (applied : ∀ type, receiver = some type → registry.wellApplied type = true)
    {before after rest : Bindings} (distinct : before.keys.Nodup)
    (matched : registry.matchReceiver member receiver before = .ok after)
    (agrees : after.Agrees images) (shadows : Shadows given images before rest) :
    ∃ later, registry.matchReceiver once receiver rest = .ok later ∧
      Shadows given images after later := by
  rcases matchReceiver_eq_ok.mp matched with
    ⟨skipped, rfl⟩ | ⟨type, resolved, rfl, isInstance, notConstructor, here⟩
  · exact ⟨rest, matchReceiver_eq_ok.mpr (Or.inl ⟨by rwa [sameStatic, sameKind], rfl⟩), shadows⟩
  · obtain ⟨answer, later, again, corresponds⟩ := sound.matchType_given part declaringApplied
      (applied type rfl) distinct here agrees shadows
    refine ⟨later, matchReceiver_eq_ok.mpr (Or.inr ⟨type, answer, rfl, ?_, ?_, ?_⟩), corresponds⟩
    · rwa [sameStatic]
    · rwa [sameKind]
    · rwa [declaring]

/-- The arguments are matched one after the other. The induction keeps the two bindings alike on the
parameters that are left, and where those given beforehand stand, the admitted argument is
assignable to what replaced them. -/
theorem matchParameters_given (part : given.ClosedPart images) {types : List Ty}
    {declared : List Ty} {actual : List (Option Ty)}
    (declaredApplied : ∀ type ∈ declared, registry.wellApplied type = true)
    (applied : ∀ type, some type ∈ actual → type ∈ types ∧ registry.wellApplied type = true)
    (admitted : List.Forall₂ (fun type argument =>
      registry.admitsType (type.replace images) argument = true) declared actual)
    {position : Nat} {before after rest : Bindings} {resolved : List Ty}
    (distinct : before.keys.Nodup)
    (matched : registry.matchParameters position declared actual before = .ok (after, resolved))
    (agrees : after.Agrees images) (shadows : Shadows given images before rest) :
    ∃ answers later, registry.matchParameters position (declared.map (Ty.replace given)) actual
        rest = .ok (later, answers) ∧ Shadows given images after later := by
  induction admitted generalizing position before rest resolved with
  | nil =>
    obtain ⟨rfl, rfl⟩ : before = after ∧ [] = resolved := by
      simpa [matchParameters] using matched
    exact ⟨[], rest, by simp [matchParameters], shadows⟩
  | @cons first argument others arguments fits othersFit inductionHypothesis =>
    have restApplied := fun type member => declaredApplied type (List.mem_cons_of_mem _ member)
    have othersApplied := fun type member => applied type (List.mem_cons_of_mem _ member)
    rw [List.map_cons]
    cases argument with
    | none =>
      obtain ⟨-, tail, later, rfl⟩ := matchParameters_none_eq_ok.mp matched
      obtain ⟨answers, final, again, corresponds⟩ :=
        inductionHypothesis restApplied othersApplied distinct later shadows
      have nullable : registry.isValueType (first.replace given) = false := by
        rw [admitsType, Bool.not_eq_true', ← part.replace_replace] at fits
        exact (isValueType_replace_eq_false_iff images).mp fits |>.1
      exact ⟨_, final, matchParameters_none_eq_ok.mpr ⟨nullable, answers, again, rfl⟩, corresponds⟩
    | some type =>
      obtain ⟨head, between, tail, here, later, rfl⟩ := matchParameters_some_eq_ok.mp matched
      obtain ⟨offered, typeApplied⟩ := applied type List.mem_cons_self
      have toBetween := sound.matchType_draws false first offered before
      rw [here] at toBetween
      have betweenDistinct := toBetween.distinct distinct
      obtain ⟨toAfter, -, -⟩ := sound.matchParameters_sound restApplied othersApplied
        othersFit.length_eq betweenDistinct later
      obtain ⟨answer, further, again, corresponds⟩ := sound.matchType_given part
        (declaredApplied first List.mem_cons_self) typeApplied distinct here
        (agrees.of_grows toAfter) shadows
      obtain ⟨answers, final, onwards, corresponds⟩ :=
        inductionHypothesis restApplied othersApplied betweenDistinct later corresponds
      exact ⟨_, final, matchParameters_some_eq_ok.mpr
        ⟨answer, further, answers, again, onwards, rfl⟩, corresponds⟩

/-- What the parameters of a call bind is mentioned in a parameter type. -/
theorem mentioned_of_matchParameters {declared : List Ty} {actual : List (Option Ty)}
    {position : Nat} {before after : Bindings} {resolved : List Ty}
    (matched : registry.matchParameters position declared actual before = .ok (after, resolved))
    {p : Parameter} {type : Ty} (bound : after.bound? p = some type) :
    before.bound? p = some type ∨ ∃ written ∈ declared, p ∈ written.occurrences := by
  induction declared generalizing actual position before resolved with
  | nil =>
    obtain ⟨rfl, -⟩ : before = after ∧ [] = resolved := by
      simpa [matchParameters] using matched
    exact Or.inl bound
  | cons first rest inductionHypothesis =>
    have further : (∃ written ∈ rest, p ∈ written.occurrences) →
        ∃ written ∈ first :: rest, p ∈ written.occurrences := by
      rintro ⟨written, inside, occurs⟩
      exact ⟨written, List.mem_cons_of_mem _ inside, occurs⟩
    cases actual with
    | nil =>
      obtain ⟨rfl, -⟩ : before = after ∧ [] = resolved := by
        simpa [matchParameters] using matched
      exact Or.inl bound
    | cons argument others =>
      cases argument with
      | none =>
        obtain ⟨-, tail, later, rfl⟩ := matchParameters_none_eq_ok.mp matched
        exact (inductionHypothesis later).imp_right further
      | some actual =>
        obtain ⟨head, between, tail, here, later, rfl⟩ := matchParameters_some_eq_ok.mp matched
        rcases inductionHypothesis later with known | mentioned
        · have grows := sound.matchType_grows false first actual before
          rw [here] at grows
          rcases grows.fresh known with old | ⟨occurs, -⟩
          · exact Or.inl old
          · exact Or.inr ⟨first, List.mem_cons_self, occurs⟩
        · exact Or.inr (further mentioned)

end WellFormed

/-! ## A method that has its arguments -/

section Given

variable {type : Ty} {member : Member} {receiver : Option Ty} {arguments : List (Option Ty)}
  {bindings : Bindings} {matched : Match}
  (declared : member ∈ registry.declaredMembers type)
  (unified : registry.Unified member receiver arguments .any bindings matched)

include declared unified

/-- The own arguments of a match are a closed part of what was inferred, if that is closed. -/
theorem Unified.closedPart
    (closed : ∀ {p type}, bindings.bound? p = some type → type.isOpen = false) :
    (Substitution.ofParameters member.methodParameters matched.methodArguments).ClosedPart
      bindings.all := by
  obtain ⟨_, unclosed, _⟩ := declared_facts declared
  intro p
  by_cases own : p ∈ member.methodParameters
  · obtain ⟨type, bound⟩ := unified.bound_of_scoped unclosed (Or.inr own)
    rw [unified.image_methodArguments unclosed own bound,
      Bindings.image_all unified.distinct bound]
    exact Or.inr ⟨rfl, closed bound⟩
  · exact Or.inl (Substitution.image_ofParameters_of_not_mem own _)

/-- What is left when they are given is none of the member's own parameters. -/
theorem Unified.not_own_of_left
    (closed : ∀ {p type}, bindings.bound? p = some type → type.isOpen = false) {p : Parameter}
    (left : (Substitution.ofParameters member.methodParameters matched.methodArguments).image p =
      .parameter p) : p ∉ member.methodParameters := by
  obtain ⟨_, unclosed, _⟩ := declared_facts declared
  intro own
  obtain ⟨image, bound⟩ := unified.bound_of_scoped unclosed (Or.inr own)
  rw [unified.image_methodArguments unclosed own bound] at left
  have never := closed bound
  simp [left, Ty.isOpen] at never

/-- The parameters of the declaring type are bound alike with the own arguments given. -/
theorem Unified.bound_alike (plain : ∀ p ∈ type.occurrences, p.isMethodLevel = false)
    {later : Bindings} (shadows : Shadows
      (.ofParameters member.methodParameters matched.methodArguments) bindings.all bindings later)
    {p : Parameter} (occurs : p ∈ type.occurrences) :
    ∃ image, bindings.bound? p = some image ∧ later.bound? p = some image := by
  obtain ⟨sameType, unclosed, _⟩ := declared_facts declared
  obtain ⟨image, found⟩ := unified.bound_of_scoped unclosed (Or.inl (sameType ▸ occurs))
  have foreign : p ∉ member.methodParameters := Member.not_mem_methodParameters (plain p occurs)
  have left := Substitution.image_ofParameters_of_not_mem foreign matched.methodArguments
  obtain ⟨other, there⟩ := (shadows.same p left).mp ⟨image, found⟩
  refine ⟨image, found, ?_⟩
  rw [there, shadows.agrees p other there, Bindings.image_all unified.distinct found]

namespace WellFormed

variable (sound : registry.WellFormed)
include sound

/-- With its own arguments given, the member still mentions well-applied types only. -/
theorem applied_closeMethod (applied : registry.wellApplied type = true)
    (offered : ∀ type ∈ offeredTypes receiver arguments .any, registry.wellApplied type = true) :
    (member.closeMethod matched.methodArguments).Applied registry := by
  obtain ⟨_, unclosed, _⟩ := declared_facts declared
  have written := sound.applied_of_declared applied declared
  have given : ∀ p, registry.wellApplied ((Substitution.ofParameters member.methodParameters
      matched.methodArguments).image p) = true := by
    intro p
    by_cases own : p ∈ member.methodParameters
    · obtain ⟨image, bound⟩ := unified.bound_of_scoped unclosed (Or.inr own)
      obtain ⟨actual, inside, deep⟩ := unified.drawn bound
      rw [unified.image_methodArguments unclosed own bound]
      exact sound.wellApplied_part (offered actual inside) deep
    · rw [Substitution.image_ofParameters_of_not_mem own, wellApplied_parameter]
  refine ⟨written.declaring, ?_, ?_⟩
  · intro parameter inside
    rw [Member.closeMethod_parameters] at inside
    obtain ⟨original, there, rfl⟩ := List.mem_map.mp inside
    exact wellApplied_replace (written.parameters original there) fun p _ => given p
  · rw [Member.closeMethod_type]
    exact wellApplied_replace written.type fun p _ => given p

variable (plain : ∀ p ∈ type.occurrences, p.isMethodLevel = false)
  {received : Bindings} {resolved : List Ty}
  (first : registry.matchReceiver member receiver (.seedAll .empty member.wantedParameters) =
    .ok received)
  (second : registry.matchParameters 0 member.parameters arguments received =
    .ok (bindings, resolved))

include plain first second

/-- The own parameters are mentioned in the member's parameter types, where alone they can be
inferred from. -/
theorem own_mentioned {p : Parameter} (own : p ∈ member.methodParameters) :
    ∃ written ∈ member.parameters, p ∈ written.occurrences := by
  obtain ⟨sameType, unclosed, _⟩ := declared_facts declared
  obtain ⟨image, found⟩ := unified.bound_of_scoped unclosed (Or.inr own)
  refine (sound.mentioned_of_matchParameters second found).resolve_left fun early => ?_
  have unbound := (Bindings.seedAll_empty member.wantedParameters).1 p
  rcases matchReceiver_eq_ok.mp first with ⟨-, rfl⟩ | ⟨actual, answer, -, -, -, here⟩
  · simp [unbound] at early
  · have grows := sound.matchType_grows false member.declaring actual
      (.seedAll .empty member.wantedParameters)
    rw [here] at grows
    rcases grows.fresh early with old | ⟨occurs, -⟩
    · simp [unbound] at old
    · exact Member.not_mem_methodParameters (plain p (sameType ▸ occurs)) own

/-- The receiver and the arguments match once more when the own arguments are given, with bindings
that correspond. -/
theorem steps_closeMethod (applied : registry.wellApplied type = true)
    (offered : ∀ type ∈ offeredTypes receiver arguments .any, registry.wellApplied type = true)
    (part : (Substitution.ofParameters member.methodParameters matched.methodArguments).ClosedPart
      bindings.all) :
    ∃ again later answers,
      registry.matchReceiver (member.closeMethod matched.methodArguments) receiver
        (.seedAll .empty (member.closeMethod matched.methodArguments).wantedParameters) =
          .ok again ∧
      registry.matchParameters 0 (member.closeMethod matched.methodArguments).parameters arguments
        again = .ok (later, answers) ∧
      Bindings.Grows (registry.Draws (offeredTypes receiver arguments .any))
        (.seedAll .empty (member.closeMethod matched.methodArguments).wantedParameters) later ∧
      Shadows (.ofParameters member.methodParameters matched.methodArguments) bindings.all bindings
        later := by
  obtain ⟨sameType, _, _⟩ := declared_facts declared
  have onceApplied := sound.applied_closeMethod declared unified applied offered
  have written := sound.applied_of_declared applied declared
  obtain ⟨ofReceiver, -, ofArguments⟩ := forall_mem_offeredTypes.mp
    fun type listed => And.intro listed (offered type listed)
  obtain ⟨noneBound, -, seededDistinct⟩ := Bindings.seedAll_empty member.wantedParameters
  obtain ⟨noneBoundAgain, -, onceDistinct⟩ := Bindings.seedAll_empty
    (member.closeMethod matched.methodArguments).wantedParameters
  obtain ⟨toReceived, -⟩ :=
    sound.matchReceiver_sound written.declaring ofReceiver seededDistinct first
  have receivedDistinct := toReceived.distinct seededDistinct
  obtain ⟨toEnd, -, -⟩ := sound.matchParameters_sound written.parameters ofArguments
    unified.admitted.length_eq receivedDistinct second
  have agrees := Bindings.agrees_all unified.distinct
  have unmoved : member.declaring = member.declaring.replace
      (.ofParameters member.methodParameters matched.methodArguments) := by
    refine (Ty.replace_eq_self _ fun p occurs => ?_).symm
    exact Substitution.image_ofParameters_of_not_mem
      (Member.not_mem_methodParameters (plain p (sameType ▸ occurs))) _
  have start : Shadows (.ofParameters member.methodParameters matched.methodArguments) bindings.all
      (.seedAll .empty member.wantedParameters)
      (.seedAll .empty (member.closeMethod matched.methodArguments).wantedParameters) :=
    ⟨fun p type found => by simp [noneBoundAgain] at found,
      fun p _ => by simp [noneBound, noneBoundAgain]⟩
  obtain ⟨again, firstAgain, between⟩ := sound.matchReceiver_given part
    (member.closeMethod matched.methodArguments) unmoved rfl rfl written.declaring
    (fun type same => (ofReceiver type same).2) seededDistinct first (agrees.of_grows toEnd) start
  obtain ⟨answers, later, secondAgain, final⟩ := sound.matchParameters_given part
    written.parameters ofArguments unified.admitted receivedDistinct second agrees between
  rw [← Member.closeMethod_parameters] at secondAgain
  obtain ⟨toAgain, -⟩ :=
    sound.matchReceiver_sound onceApplied.declaring ofReceiver onceDistinct firstAgain
  obtain ⟨toLater, -, -⟩ := sound.matchParameters_sound onceApplied.parameters ofArguments
    (by simpa using unified.admitted.length_eq) (toAgain.distinct onceDistinct) secondAgain
  exact ⟨again, later, answers, firstAgain, secondAgain, toAgain.trans toLater, final⟩

/-- So the descriptor with its arguments given matches the call site. -/
theorem unified_closeMethod (count : member.parameters.length = arguments.length)
    (applied : registry.wellApplied type = true)
    (offered : ∀ type ∈ offeredTypes receiver arguments .any, registry.wellApplied type = true)
    (closed : ∀ {p type}, bindings.bound? p = some type → type.isOpen = false) :
    ∃ once later,
      registry.unify (member.closeMethod matched.methodArguments) receiver arguments none =
        .ok once ∧
      registry.Unified (member.closeMethod matched.methodArguments) receiver arguments .any later
        once ∧
      Shadows (.ofParameters member.methodParameters matched.methodArguments) bindings.all bindings
        later := by
  have part := unified.closedPart declared closed
  obtain ⟨again, later, answers, firstAgain, secondAgain, grows, shadows⟩ :=
    sound.steps_closeMethod declared unified plain first second applied offered part
  obtain ⟨sameType, unclosed, named⟩ := declared_facts declared
  obtain ⟨declaringArguments, rfl⟩ := Ty.definition?_eq_some_iff.mp named
  obtain ⟨-, asked, seededDistinct⟩ := Bindings.seedAll_empty
    (member.closeMethod matched.methodArguments).wantedParameters
  have distinct := grows.distinct seededDistinct
  have onceCount : (member.closeMethod matched.methodArguments).parameters.length =
      arguments.length := by simpa using count
  have noResult : registry.matchResult (member.closeMethod matched.methodArguments) .any
      arguments.length again = .ok again := matchResult_eq_ok.mpr (Or.inl ⟨Or.inr rfl, rfl⟩)
  -- Only the parameters of the declaring type are asked for, and these are bound as before.
  have unbound : later.firstUnbound? = none := by
    refine (Bindings.firstUnbound?_eq_none_iff distinct).mpr fun p waiting => ?_
    have inside := (asked p).mp ((OrderedMap.mem_keys_iff _ _).mpr ⟨_, grows.waiting waiting⟩)
    rw [Member.wantedParameters, Member.wantedMethodParameters_closeMethod
      (unified.length_methodArguments unclosed), List.append_nil, Ty.mem_parameters,
      Member.closeMethod_declaring, sameType] at inside
    obtain ⟨image, -, there⟩ := unified.bound_alike declared plain shadows inside
    simp [Bindings.bound?, waiting] at there
  have admitted : List.Forall₂ (fun type argument =>
      registry.admitsType (type.replace later.all) argument = true)
      (member.closeMethod matched.methodArguments).parameters arguments := by
    rw [Member.closeMethod_parameters, List.forall₂_map_left_iff]
    have fits := unified.admitted
    rw [List.forall₂_iff_zip] at fits ⊢
    refine ⟨fits.1, fun {written argument} inside => ?_⟩
    rw [shadows.replace_all part distinct fun p occurs => sound.bound_of_mentioned applied declared
      unified (Or.inr (List.of_mem_zip inside).1) occurs]
    exact fits.2 inside
  have passes : ∀ entry ∈ deferredNulls (member.closeMethod matched.methodArguments) arguments
      .any, registry.isValueType (entry.2.replace later.all) = false :=
    (forall_deferredNulls_iff fun type => registry.isValueType (type.replace later.all) = false).mpr
      ⟨by simp, ((forall₂_admitsType_iff later).mp admitted).2⟩
  have onceApplied := sound.applied_closeMethod declared unified applied offered
  have unifiedOnce := sound.unified_of_steps onceApplied offered onceCount firstAgain noResult
    secondAgain unbound passes
  exact ⟨_, later, unifyWith_eq_ok.mpr ⟨onceCount, again, again, later, answers, firstAgain,
    noResult, secondAgain, unbound, passes, rfl⟩, unifiedOnce, shadows⟩

end WellFormed

/-- A match with corresponding bindings has the same type arguments, no own arguments, and the
parameter types in which everything is replaced. -/
theorem Unified.match_closeMethod (plain : ∀ p ∈ type.occurrences, p.isMethodLevel = false)
    (sound : registry.WellFormed) (applied : registry.wellApplied type = true)
    (closed : ∀ {p type}, bindings.bound? p = some type → type.isOpen = false)
    {once : Match} {later : Bindings}
    (unifiedOnce : registry.Unified (member.closeMethod matched.methodArguments) receiver arguments
      .any later once)
    (onceClosed : ∀ {p type}, later.bound? p = some type → type.isOpen = false)
    (shadows : Shadows (.ofParameters member.methodParameters matched.methodArguments) bindings.all
      bindings later) :
    once.typeArguments = matched.typeArguments ∧ once.methodArguments = [] ∧
      once.parameterTypes = member.parameters.map (Ty.replace bindings.all) := by
  obtain ⟨sameType, unclosed, named⟩ := declared_facts declared
  obtain ⟨declaringArguments, rfl⟩ := Ty.definition?_eq_some_iff.mp named
  refine ⟨?_, ?_, ?_⟩
  · rw [unifiedOnce.typeArguments, unified.typeArguments, Member.closeMethod_declaring, sameType]
    apply List.map_congr_left
    intro argument inside
    apply Ty.replace_congr
    intro p occurs
    obtain ⟨image, found, there⟩ := unified.bound_alike declared plain shadows
      (Ty.occurrences_named _ _ ▸ List.mem_flatMap.mpr ⟨argument, inside, occurs⟩)
    rw [Bindings.image_typeLevel unifiedOnce.distinct there,
      Bindings.image_typeLevel unified.distinct found]
  · have none := unifiedOnce.methodArguments
    rw [Member.wantedMethodParameters_closeMethod (unified.length_methodArguments unclosed)] at none
    simpa [Bindings.resolve?] using none.symm
  · rw [unifiedOnce.parameterTypes_of_closed fun _ _ _ _ _ found => onceClosed found,
      Member.closeMethod_parameters, List.map_map]
    apply List.map_congr_left
    intro written inside
    have part := unified.closedPart declared closed
    have binds : ∀ p ∈ written.occurrences, ∃ image, bindings.bound? p = some image :=
      fun p occurs => sound.bound_of_mentioned applied declared unified (Or.inr inside) occurs
    refine shadows.replace_typeLevel part unifiedOnce.distinct binds fun p occurs => ?_
    obtain ⟨mentioned, left⟩ := part.mem_occurrences_iff.mp occurs
    have scope := sound.scoped_of_declared applied declared (Or.inr inside) mentioned
    exact plain p (scope.resolve_right (unified.not_own_of_left declared closed left))

end Given

/-- A member that matches closed types matches them with its own arguments given, too. The match
has the same type arguments, and its parameter types are closed. -/
theorem WellFormed.unify_closeMethod (sound : registry.WellFormed) {type : Ty} {member : Member}
    {receiver : Option Ty} {arguments : List (Option Ty)} {matched : Match}
    (applied : registry.wellApplied type = true)
    (plain : ∀ p ∈ type.occurrences, p.isMethodLevel = false)
    (declared : member ∈ registry.declaredMembers type)
    (offered : ∀ type ∈ offeredTypes receiver arguments .any, registry.wellApplied type = true)
    (closed : ∀ type ∈ offeredTypes receiver arguments .any, type.isOpen = false)
    (unifies : registry.unify member receiver arguments none = .ok matched) :
    ∃ bindings once, registry.Unified member receiver arguments .any bindings matched ∧
      (∀ {p type}, bindings.bound? p = some type → type.isOpen = false) ∧
      (∀ p ∈ member.methodParameters, ∃ written ∈ member.parameters, p ∈ written.occurrences) ∧
      registry.unify (member.closeMethod matched.methodArguments) receiver arguments none =
        .ok once ∧
      once.typeArguments = matched.typeArguments ∧ once.methodArguments = [] ∧
      once.parameterTypes = member.parameters.map (Ty.replace bindings.all) := by
  obtain ⟨count, received, expected, bindings, resolved, first, second, third, unbound, passes,
    same⟩ := unifyWith_eq_ok.mp unifies
  have unified := sound.unified_of_steps (sound.applied_of_declared applied declared) offered count
    first second third unbound passes
  rw [← same] at unified
  obtain rfl : expected = received := by
    simpa [Expectation.ofResult] using matchResult_eq_ok.mp second
  have bound := fun {p image} (found : bindings.bound? p = some image) =>
    unified.bound_closed sound offered closed found
  obtain ⟨once, later, unifiesOnce, unifiedOnce, shadows⟩ := sound.unified_closeMethod declared
    unified plain first third count applied offered bound
  have mentioned : ∀ p ∈ member.methodParameters, ∃ written ∈ member.parameters,
      p ∈ written.occurrences :=
    fun p own => sound.own_mentioned declared unified plain first third own
  have boundOnce := fun {p image} (found : later.bound? p = some image) =>
    unifiedOnce.bound_closed sound offered closed found
  have agrees := unified.match_closeMethod declared plain sound applied bound unifiedOnce
    boundOnce shadows
  exact ⟨bindings, once, unified, bound, mentioned, unifiesOnce, agrees⟩

/-! ## Closing -/

section Closing

variable {id : DefinitionId} {declaringArguments : List Ty} {member : Member}
  {receiver : Option Ty} {arguments : List (Option Ty)} {bindings : Bindings} {matched : Match}
  (applied : registry.wellApplied (.named id declaringArguments) = true)
  (declared : member ∈ registry.declaredMembers (.named id declaringArguments))
  (unified : registry.Unified member receiver arguments .any bindings matched)

include declared unified

namespace WellFormed

variable (sound : registry.WellFormed)
include sound applied

/-- A member whose parameter types mention an own parameter is alone with the parameter types that
it has on the closed type: no other declaration can mention that parameter. -/
theorem recalls_of_own
    (closed : ∀ {p type}, bindings.bound? p = some type → type.isOpen = false)
    (typeApplied : registry.wellApplied (.named id matched.typeArguments) = true)
    (typeClosed : (Ty.named id matched.typeArguments).isOpen = false)
    {p : Parameter} (own : p ∈ member.methodParameters) {written : Ty}
    (inside : written ∈ member.parameters) (occurs : p ∈ written.occurrences) :
    registry.Recalls (.named id matched.typeArguments) member matched.parameterTypes := by
  have kept : bindings.typeLevel.image p = .parameter p :=
    Bindings.keepsMethodLevel_typeLevel unified.distinct p
      (Declaration.isMethodLevel_of_mem_methodParameters own)
  have recalled := sound.recalls_iff_of_closed applied declared unified closed
  rw [(declared_facts declared).1, Ty.withArguments] at recalled
  refine recalled.mpr fun other otherDeclared earlier _ _ alike => ?_
  have shown : written.replace bindings.typeLevel ∈ other.parameters := by
    rw [alike, unified.parameterTypes_of_closed fun _ _ _ _ _ bound => closed bound]
    exact List.mem_map_of_mem inside
  have left : p ∈ (written.replace bindings.typeLevel).occurrences := by
    rw [Ty.occurrences_replace, List.mem_flatMap]
    exact ⟨p, occurs, by simp [kept]⟩
  rcases sound.scoped_of_declared typeApplied otherDeclared (Or.inr shown) left with above | theirs
  · simp [(Ty.isOpen_eq_false_iff _).mp typeClosed] at above
  · obtain ⟨_, _, rfl⟩ := List.mem_map.mp own
    obtain ⟨_, _, same⟩ := List.mem_map.mp theirs
    have sameId : other.id = member.id := by simpa using congrArg Parameter.owner same
    rw [sameId] at earlier
    exact Nat.lt_irrefl _ earlier

/-- Where the closed declaring type recalls a member of an open type, closing finds it and gives it
its arguments. -/
theorem close_of_recalls (opened : (Ty.named id declaringArguments).isOpen = true)
    (recalls : registry.Recalls (.named id matched.typeArguments) member matched.parameterTypes) :
    registry.close member matched = .ok ((member.seenAs bindings.typeLevel
      (.named id matched.typeArguments)).closeMethod matched.methodArguments) := by
  obtain ⟨sameType, unclosed, _⟩ := declared_facts declared
  have form := sound.form_declared applied declared unified
  rw [sameType, Ty.withArguments] at form
  have count := unified.length_methodArguments unclosed
  have first : (registry.declaredMembers (.named id matched.typeArguments)).find?
      (answersAgain member.kind member.name matched.parameterTypes) =
        some (member.seenAs bindings.typeLevel (.named id matched.typeArguments)) :=
    find?_of_recalls form rfl rfl rfl recalls
  obtain ⟨inherited, -, searched⟩ := sound.findMember?_named id matched.typeArguments member.kind
    member.name matched.parameterTypes
  rw [first, Option.some_or] at searched
  have noneGiven : member.generics = [] → matched.methodArguments = [] := by
    intro noGenerics
    simpa [noGenerics] using count.symm
  have filled := unified.length_typeArguments declared applied
  have home : member.declaring.definition? = some id := by
    rw [sameType]
    rfl
  have reopened := (reopen_eq_ok_iff home).mpr ⟨filled, searched⟩
  rw [close, sameType, if_pos opened]
  exact bind_eq_ok.mpr ⟨_, reopened,
    (closeMethod_step (member.seenAs _ _) unclosed noneGiven).mpr ⟨count, rfl⟩⟩

/-- The closed type does not find the member by parameter types from which an own parameter that
the member mentions is gone. -/
theorem not_lookedUp_of_own (home : member.id.definition = id)
    (closed : ∀ {p type}, bindings.bound? p = some type → type.isOpen = false)
    {p : Parameter} (own : p ∈ member.methodParameters) {written : Ty}
    (inside : written ∈ member.parameters) (occurs : p ∈ written.occurrences) {found : Member}
    (lookedUp : registry.findMember? (.named id matched.typeArguments) member.kind member.name
      (member.parameters.map (Ty.replace bindings.all)) = some found) :
    found.id ≠ member.id := by
  intro same
  have form := sound.form_declared applied declared unified
  rw [(declared_facts declared).1, Ty.withArguments] at form
  obtain ⟨recalled, sameForm⟩ := sound.findMember?_id_iff member form rfl rfl rfl home lookedUp
  obtain ⟨⟨other, otherDeclared, otherId, alike⟩, -⟩ := recalled.mp same
  obtain rfl := eq_of_id_eq otherDeclared form otherId
  rw [Member.seenAs_parameters, List.map_inj_left] at alike
  -- The own parameter stays in place at the level of types, and is replaced by all bindings.
  have kept : p ∈ (written.replace bindings.typeLevel).occurrences := by
    have unmoved := Bindings.keepsMethodLevel_typeLevel unified.distinct p
      (Declaration.isMethodLevel_of_mem_methodParameters own)
    rw [Ty.occurrences_replace, List.mem_flatMap]
    exact ⟨p, occurs, by simp [unmoved]⟩
  have gone := sound.isOpen_replace_of_mentioned applied declared unified closed (Or.inr inside)
  rw [alike written inside, (Ty.isOpen_eq_false_iff _).mp gone] at kept
  simp at kept

end WellFormed

end Closing

/-! ## The two orders -/

/-- With its arguments given, a member is looked up again like the member itself. -/
theorem reopen_closeMethod (member : Member) (given : List Ty) (matched : Match) :
    registry.reopen (member.closeMethod given) matched = registry.reopen member matched := rfl

/-- So it closes like the member itself where it has to be looked up, with one match for both. -/
theorem close_closeMethod_of_open {member : Member} (opened : member.declaring.isOpen = true)
    (given : List Ty) (matched : Match) :
    registry.close (member.closeMethod given) matched = registry.close member matched := by
  rw [close, close, Member.closeMethod_declaring, if_pos opened, if_pos opened, reopen_closeMethod]

/-- On a closed type there is nothing left to close of a member that has its arguments. -/
theorem close_closeMethod_of_closed {member : Member} {given : List Ty}
    (count : member.generics.length = given.length) (closed : member.declaring.isOpen = false)
    (matched : Match) :
    registry.close (member.closeMethod given) matched = .ok (member.closeMethod given) := by
  rw [close, Member.closeMethod_declaring, closed, if_neg Bool.false_ne_true, pure_bind]
  exact if_neg (by simp [Member.hasOpenMethodParameters_closeMethod count])

/-- What a generic member of a type becomes when its type is closed before its own parameters, and
when they are given their arguments first. The member always closes to itself, and so does the
descriptor with the arguments given if it is closed with the match of the member. Both match the
call site with the same type arguments, but the descriptor closes to the same with its own match
only if the declaring type was closed from the beginning. Otherwise the member is not found. -/
theorem WellFormed.closing_orders_agree_iff (sound : registry.WellFormed) {type : Ty}
    {member : Member} {receiver : Option Ty} {arguments : List (Option Ty)} {matched : Match}
    (applied : registry.wellApplied type = true)
    (plain : ∀ p ∈ type.occurrences, p.isMethodLevel = false)
    (declared : member ∈ registry.declaredMembers type) (generic : member.generics ≠ [])
    (offered : ∀ type ∈ offeredTypes receiver arguments .any,
      registry.wellApplied type = true ∧ type.isOpen = false)
    (unifies : registry.unify member receiver arguments none = .ok matched) :
    ∃ closed once matchedOnce,
      registry.close member matched = .ok closed ∧ closed.id = member.id ∧
      registry.closeMethod member matched.methodArguments = .ok once ∧
      registry.close once matched = .ok closed ∧
      registry.unify once receiver arguments none = .ok matchedOnce ∧
      matchedOnce.typeArguments = matched.typeArguments ∧
      (registry.close once matchedOnce = .ok closed ↔ type.isOpen = false) ∧
      (type.isOpen = true → ∀ other, registry.close once matchedOnce = .ok other →
        other.id ≠ member.id) := by
  obtain ⟨sameType, unclosed, named⟩ := declared_facts declared
  obtain ⟨declaringArguments, rfl⟩ := Ty.definition?_eq_some_iff.mp named
  obtain ⟨bindings, matchedOnce, unified, bound, mentioned, unifiesOnce, typeArguments, -,
    parameterTypes⟩ := sound.unify_closeMethod applied plain declared
      (fun type listed => (offered type listed).1) (fun type listed => (offered type listed).2)
      unifies
  have count := unified.length_methodArguments unclosed
  have given : registry.closeMethod member matched.methodArguments =
      .ok (member.closeMethod matched.methodArguments) := closeMethod_eq_ok_iff.mpr ⟨count, rfl⟩
  cases opened : (Ty.named member.id.definition declaringArguments).isOpen with
  | false =>
    have stays : ∀ answer : Match, registry.close (member.closeMethod matched.methodArguments)
        answer = .ok (member.closeMethod matched.methodArguments) :=
      close_closeMethod_of_closed count (sameType ▸ opened)
    have closes := unified.close_of_closed declared opened
    exact ⟨_, _, matchedOnce, closes, rfl, given, stays matched, unifiesOnce, typeArguments,
      by simp [stays matchedOnce], by simp⟩
  | true =>
    have typeClosed := unified.isOpen_typeArguments declared plain bound
    have typeApplied := sound.applied_typeArguments applied declared unified
      fun type listed => (offered type listed).1
    obtain ⟨p, own⟩ := List.exists_mem_of_ne_nil member.methodParameters
      (by simpa [Member.methodParameters] using generic)
    obtain ⟨written, inside, occurs⟩ := mentioned p own
    have closes := sound.close_of_recalls applied declared unified opened
      (sound.recalls_of_own applied declared unified bound typeApplied typeClosed own inside occurs)
    have lost : ∀ other, registry.close (member.closeMethod matched.methodArguments) matchedOnce =
        .ok other → other.id ≠ member.id := by
      intro other found
      rw [close, Member.closeMethod_declaring, sameType, if_pos opened] at found
      obtain ⟨again, reopened, stepped⟩ := bind_eq_ok.mp found
      rw [reopen_closeMethod] at reopened
      obtain ⟨-, lookedUp⟩ := (reopen_eq_ok_iff (by rw [sameType]; rfl)).mp reopened
      rw [typeArguments, parameterTypes] at lookedUp
      rw [(closeMethod_step_keeps stepped).1]
      exact sound.not_lookedUp_of_own applied declared unified rfl bound own inside occurs lookedUp
    refine ⟨_, _, matchedOnce, closes, rfl, given, ?_, unifiesOnce, typeArguments, ?_,
      fun _ => lost⟩
    · rw [close_closeMethod_of_open (sameType ▸ opened), closes]
    · exact iff_of_false (fun same => lost _ same rfl) (by simp)

/-- Trays with a generic method that hands back a value of the type it is given. -/
def trays : Registry := .ofDefinitions
  [{ name := "Tray", kind := .classType, generics := ["T"]
     declarations :=
      [{ name := "swap", kind := .method, generics := ["U"]
         parameters := [.parameter ⟨.member ⟨⟨0⟩, 0⟩, 0⟩], type := .parameter ⟨.member ⟨⟨0⟩, 0⟩, 0⟩
         body := .native .self }] }]

/-- A tray has one method, which mentions its own parameter only. -/
theorem trays_wellFormed : trays.WellFormed :=
  .of_definitions _ (by decide) (by decide)

/-- The method, seen from the open type. -/
def trays.swap : Member :=
  (trays.declaredMembers (trays.openType ⟨0⟩)).get ⟨0, by decide⟩

/-- On a tray of strings the method closes for an integer. Given the integer type beforehand it
matches the same call, and then does not close to the same. -/
theorem trays_closing_orders :
    ∃ matched closed once matchedOnce,
      trays.unify trays.swap (some (.named ⟨0⟩ [.str])) [some .i32] none = .ok matched ∧
      trays.close trays.swap matched = .ok closed ∧
      trays.closeMethod trays.swap [.i32] = .ok once ∧
      trays.unify once (some (.named ⟨0⟩ [.str])) [some .i32] none = .ok matchedOnce ∧
      trays.close once matchedOnce ≠ .ok closed := by
  have unifies : trays.unify trays.swap (some (.named ⟨0⟩ [.str])) [some .i32] none =
      .ok ⟨[.str], [.i32], [.parameter ⟨.member ⟨⟨0⟩, 0⟩, 0⟩]⟩ := by decide
  obtain ⟨closed, once, matchedOnce, closes, -, given, -, again, -, agree, -⟩ :=
    trays_wellFormed.closing_orders_agree_iff (by decide) (by decide) (List.get_mem _ _)
      (by decide) (by decide) unifies
  exact ⟨_, closed, once, matchedOnce, unifies, closes, given, again,
    fun same => absurd (agree.mp same) (by decide)⟩

end Registry

end LateBinding
