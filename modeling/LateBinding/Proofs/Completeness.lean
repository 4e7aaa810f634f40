import LateBinding.Proofs.Matching

/-!
# What matches

A declared type matches each of its instances. The invariant is agreement with the substitution
that makes the instance: bindings that agree with it do not stand in the way, and what a match
adds to them agrees as well. Afterwards every parameter of the declared type is bound, so the
match has recovered the substitution on them.

Once its parameters are bound, a declared type matches exactly what is assignable to it under
the bindings, provided that the actual type has not several instantiations to choose from.
-/
namespace LateBinding

namespace Substitution

/-- The part of a substitution that puts types in the place of definitions' parameters. -/
def typeLevel (images : Substitution) : Substitution :=
  ⟨images.entries.filter fun entry => !entry.1.isMethodLevel⟩

/-- At the level of types the place of a method's own parameter is kept. -/
theorem image_typeLevel (images : Substitution) (parameter : Parameter) :
    images.typeLevel.image parameter =
      Registry.resolvedParameter parameter (images.image parameter) := by
  rw [image, typeLevel, OrderedMap.get?,
    OrderedMap.find?_filter (fun key : Parameter => !key.isMethodLevel), Registry.resolvedParameter]
  cases parameter.isMethodLevel <;> rfl

end Substitution

namespace Bindings

/-- Whether everything bound is what a substitution puts in its place. -/
def Agrees (bindings : Bindings) (images : Substitution) : Prop :=
  ∀ p type, bindings.bound? p = some type → type = images.image p

/-- Bindings agree with the substitution made from them. -/
theorem agrees_all {bindings : Bindings} (distinct : bindings.keys.Nodup) :
    bindings.Agrees bindings.all :=
  fun _ _ bound => (image_all distinct bound).symm

/-- What later bindings agree with, earlier ones agree with. -/
theorem Agrees.of_grows {allowed : Parameter → Ty → Prop} {before after : Bindings}
    {images : Substitution} (agrees : after.Agrees images) (grows : Grows allowed before after) :
    before.Agrees images :=
  fun p type bound => agrees p type (grows.kept bound)

/-- Whether the bindings have recovered a substitution on the parameters of a type: these are
bound, and to nothing else than their images. -/
structure Recovers (bindings : Bindings) (images : Substitution) (type : Ty) : Prop where
  agrees : bindings.Agrees images
  binds : bindings.Binds type

/-- Each parameter of the type is bound to its image. -/
theorem Recovers.bound {bindings : Bindings} {images : Substitution} {type : Ty}
    (recovers : bindings.Recovers images type) {p : Parameter} (occurs : p ∈ type.occurrences) :
    bindings.bound? p = some (images.image p) := by
  obtain ⟨bound, found⟩ := recovers.binds p occurs
  rw [found, recovers.agrees p bound found]

/-- Replacing the parameters of the type by what they are bound to is replacing them by their
images. -/
theorem Recovers.replace_all {bindings : Bindings} {images : Substitution} {type : Ty}
    (recovers : bindings.Recovers images type) (distinct : bindings.keys.Nodup) :
    type.replace bindings.all = type.replace images :=
  Ty.replace_congr type fun _ occurs => image_all distinct (recovers.bound occurs)

end Bindings

namespace Registry

variable {registry : Registry} {images : Substitution}

/-- A parameter matches its image. It is bound to it if it was free; else it was bound to it before,
since the bindings agree with the substitution. -/
theorem matchParameter_complete (nested : Bool) (parameter : Parameter) {before : Bindings}
    (agrees : before.Agrees images) :
    ∃ after, registry.matchParameter nested parameter (images.image parameter) before =
        (.ok (images.typeLevel.image parameter), after) ∧
      after.Recovers images (.parameter parameter) := by
  rw [matchParameter, Substitution.image_typeLevel]
  cases found : before.bound? parameter with
  | none =>
    refine ⟨_, rfl, ?_, ?_⟩
    · intro p type bound
      rcases (Bindings.grows_bind found (images.image parameter)).fresh bound with old | new
      · exact agrees p type old
      · obtain ⟨rfl, rfl⟩ := new
        rfl
    · intro p occurs
      obtain rfl : p = parameter := by simpa using occurs
      exact ⟨_, before.bound?_bind_self p _⟩
  | some bound =>
    have same := agrees parameter bound found
    simp only
    rw [if_pos (Or.inl same), same]
    refine ⟨before, rfl, agrees, ?_⟩
    intro p occurs
    obtain rfl : p = parameter := by simpa using occurs
    exact ⟨bound, found⟩

/-- In a nested place a closed type matches itself. -/
theorem matchNested_self {declared : Ty} (closed : declared.isOpen = false) (before : Bindings) :
    registry.matchNested declared declared before = (.ok declared, before) := by
  rw [matchNested, if_neg (by simp [closed]), if_pos rfl]

/-- At the outside it matches what is assignable to it. -/
theorem matchType_of_closed {declared actual : Ty} (closed : declared.isOpen = false)
    (admitted : registry.isAssignable actual declared = true) (before : Bindings) :
    registry.matchType false declared actual before = (.ok declared, before) := by
  rw [matchType, if_neg (by simp [closed]), if_neg Bool.false_ne_true, admitted]
  rfl

/-- In either direction it matches itself. -/
theorem matchType_self {declared : Ty} (closed : declared.isOpen = false) (contravariant : Bool)
    (before : Bindings) :
    registry.matchType contravariant declared declared before = (.ok declared, before) := by
  rw [matchType, if_neg (by simp [closed]), ite_self, isAssignable_self]
  rfl

/-- Matching a closed type with itself recovers any substitution and resolves it to itself. -/
theorem recovers_of_closed {declared : Ty} (closed : declared.isOpen = false) {before : Bindings}
    (agrees : before.Agrees images) :
    declared.replace images = declared ∧ declared.replace images.typeLevel = declared ∧
      before.Recovers images declared :=
  ⟨Ty.replace_of_closed _ closed, Ty.replace_of_closed _ closed, agrees,
    (settled_of_closed closed before).binds⟩

namespace WellFormed

variable (sound : registry.WellFormed)
include sound

/-- If each declared argument matches its instance, the declared list matches the list of the
instances. -/
theorem matchArguments_complete {declared : List Ty}
    (each : ∀ type ∈ declared, ∀ {before : Bindings}, before.Agrees images →
      ∃ after, registry.matchNested type (type.replace images) before =
          (.ok (type.replace images.typeLevel), after) ∧ after.Recovers images type)
    {before : Bindings} (agrees : before.Agrees images) :
    ∃ after, registry.matchArguments declared (declared.map (Ty.replace images)) before =
        (.ok (declared.map (Ty.replace images.typeLevel)), after) ∧ after.Agrees images ∧
      ∀ type ∈ declared, after.Binds type := by
  induction declared generalizing before with
  | nil => exact ⟨before, matchArguments_nil _ _, agrees, by simp⟩
  | cons type rest inductionHypothesis =>
    obtain ⟨between, nested, recovers⟩ := each type List.mem_cons_self agrees
    obtain ⟨after, later, afterAgrees, binds⟩ := inductionHypothesis
      (fun t member => each t (List.mem_cons_of_mem _ member)) recovers.agrees
    have grows : Bindings.Grows _ between (registry.matchArguments rest
        (rest.map (Ty.replace images)) between).2 :=
      matchArguments_grows (fun t _ => sound.matchNested_grows t) _ between
    rw [later] at grows
    refine ⟨after, ?_, afterAgrees, List.forall_mem_cons.mpr ⟨grows.binds recovers.binds, binds⟩⟩
    simp only [List.map_cons, matchArguments_cons, nested, later]

/-- If each declared argument matches its instance, the named type matches whatever is seen
through the instance. -/
theorem matchOpen_named_complete {nested : Bool} {id : DefinitionId} {arguments : List Ty}
    (each : ∀ type ∈ arguments, ∀ {before : Bindings}, before.Agrees images →
      ∃ after, registry.matchNested type (type.replace images) before =
          (.ok (type.replace images.typeLevel), after) ∧ after.Recovers images type)
    {actual : Ty} (admitted : nested = true → actual.definition? = some id)
    (found : registry.instantiation? actual id = some (arguments.map (Ty.replace images)))
    {before : Bindings} (agrees : before.Agrees images) :
    ∃ after, registry.matchOpen nested (.named id arguments) actual before =
        (.ok ((Ty.named id arguments).replace images.typeLevel), after) ∧
      after.Recovers images (.named id arguments) := by
  obtain ⟨after, matched, afterAgrees, binds⟩ := sound.matchArguments_complete each agrees
  refine ⟨after, ?_, afterAgrees, ?_⟩
  · rw [matchOpen, if_neg (fun refused => refused.2 (admitted refused.1)), Ty.replace_named]
    simp only [found, matched]
  · intro p occurs
    obtain ⟨argument, inside, deeper⟩ := List.mem_flatMap.mp (by simpa using occurs)
    exact binds argument inside p deeper

/-- In a nested place a declared type matches its instances. -/
theorem matchNested_complete (declared : Ty) {before : Bindings}
    (agrees : before.Agrees images) :
    ∃ after, registry.matchNested declared (declared.replace images) before =
        (.ok (declared.replace images.typeLevel), after) ∧ after.Recovers images declared := by
  induction declared using Ty.induction generalizing before with
  | primitive p => exact ⟨_, matchNested_self rfl before, (recovers_of_closed rfl agrees).2.2⟩
  | object => exact ⟨_, matchNested_self rfl before, (recovers_of_closed rfl agrees).2.2⟩
  | delegate => exact ⟨_, matchNested_self rfl before, (recovers_of_closed rfl agrees).2.2⟩
  | parameter p => exact matchParameter_complete true p agrees
  | named id arguments inductionHypothesis =>
    cases opened : (Ty.named id arguments).isOpen with
    | false =>
      obtain ⟨same, resolved, recovers⟩ := recovers_of_closed opened agrees
      rw [same, resolved]
      exact ⟨_, matchNested_self opened before, recovers⟩
    | true =>
      rw [matchNested, if_pos opened, Ty.replace_named images]
      exact sound.matchOpen_named_complete inductionHypothesis (fun _ => rfl)
        (sound.instantiation?_self id _) agrees

/-- At the outside a named type matches what is seen through one of its instances. -/
theorem matchType_named_complete {id : DefinitionId} {arguments : List Ty} {actual : Ty}
    (path : registry.Reaches actual ((Ty.named id arguments).replace images))
    (found : registry.instantiation? actual id = some (arguments.map (Ty.replace images)))
    {before : Bindings} (agrees : before.Agrees images) :
    ∃ after, registry.matchType false (.named id arguments) actual before =
        (.ok ((Ty.named id arguments).replace images.typeLevel), after) ∧
      after.Recovers images (.named id arguments) := by
  cases opened : (Ty.named id arguments).isOpen with
  | true =>
    rw [matchType_of_open opened]
    exact sound.matchOpen_named_complete (fun type _ _ => sound.matchNested_complete type)
      (by simp) found agrees
  | false =>
    obtain ⟨same, resolved, recovers⟩ := recovers_of_closed opened agrees
    rw [same] at path
    rw [resolved]
    exact ⟨before, matchType_of_closed opened (sound.isAssignable_of_reaches path) before, recovers⟩

/-- At the outside a declared type matches its instances in both directions. -/
theorem matchType_complete (contravariant : Bool) (declared : Ty) {before : Bindings}
    (agrees : before.Agrees images) :
    ∃ after, registry.matchType contravariant declared (declared.replace images) before =
        (.ok (declared.replace images.typeLevel), after) ∧ after.Recovers images declared := by
  cases opened : declared.isOpen with
  | false =>
    obtain ⟨same, resolved, recovers⟩ := recovers_of_closed opened agrees
    rw [same, resolved]
    exact ⟨before, matchType_self opened contravariant before, recovers⟩
  | true =>
    rw [matchType_of_open opened]
    cases declared with
    | primitive p => simp [Ty.isOpen] at opened
    | object => simp [Ty.isOpen] at opened
    | delegate => simp [Ty.isOpen] at opened
    | parameter p => exact matchParameter_complete false p agrees
    | named id arguments =>
      rw [Ty.replace_named images]
      exact sound.matchOpen_named_complete (fun type _ _ => sound.matchNested_complete type)
        (by simp) (sound.instantiation?_self id _) agrees

/-- A declared type whose parameters are bound matches exactly the types that are assignable to
it under the bindings. -/
theorem matchType_iff_of_binds {declared actual : Ty} {before : Bindings}
    (bound : before.Binds declared) (distinct : before.keys.Nodup)
    (declaredApplied : registry.wellApplied declared = true)
    (applied : registry.wellApplied actual = true) (single : registry.SingleInstances actual) :
    (∃ resolved after, registry.matchType false declared actual before = (.ok resolved, after)) ↔
      registry.isAssignable actual (declared.replace before.all) = true := by
  constructor
  · rintro ⟨resolved, after, matched⟩
    have grows := sound.matchType_grows false declared actual before
    rw [matched] at grows
    rw [← Bindings.replace_all_of_grows grows distinct bound]
    exact sound.isAssignable_of_matchType declaredApplied applied distinct matched
  · intro admitted
    cases opened : declared.isOpen with
    | false =>
      rw [Ty.replace_of_closed _ opened] at admitted
      exact ⟨_, _, matchType_of_closed opened admitted before⟩
    | true =>
      cases declared with
      | primitive p => simp [Ty.isOpen] at opened
      | object => simp [Ty.isOpen] at opened
      | delegate => simp [Ty.isOpen] at opened
      | parameter p =>
        obtain ⟨image, found⟩ := bound p (by simp)
        rw [Ty.replace_parameter, Bindings.image_all distinct found] at admitted
        refine ⟨resolvedParameter p image, before, ?_⟩
        rw [matchType_of_open opened, matchOpen, matchParameter, found]
        simp only [admitted, and_self, or_true, if_true]
      | named id arguments =>
        have path : registry.Reaches actual ((Ty.named id arguments).replace before.all) :=
          (sound.isAssignable_iff.mp admitted).resolve_left (by simp)
        have found : registry.instantiation? actual id =
            some (arguments.map (Ty.replace before.all)) := by
          rw [Ty.replace_named] at path
          exact sound.instantiation?_eq_some single path
        obtain ⟨after, matched, _⟩ :=
          sound.matchType_named_complete path found (Bindings.agrees_all distinct)
        exact ⟨_, after, matched⟩

end WellFormed

end Registry

end LateBinding
