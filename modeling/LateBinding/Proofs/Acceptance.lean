import LateBinding.Proofs.Selection
import LateBinding.Engine

/-!
# Resolved calls are accepted

The resolver and the host decide on their own whether a call is in order: one infers from types,
the other checks values against a closed member. The theorem of this module says that the host
never refuses what was resolved at a closed call site. The member is closed, the receiver is an
instance of its declaring type, and every argument is admitted, so a call by name fails only
because no member fits or because a body failed.
-/
namespace LateBinding

namespace Execution

variable {ε δ α β : Type}

/-- Whether every error that an execution can end with is one of the given ones. -/
def FailsOnlyWith (expected : ε → Prop) (execution : Execution ε α) : Prop :=
  ∀ store error after, execution.run store = some (.error error, after) → expected error

variable {expected : ε → Prop}

/-- A failure is allowed when its error is. -/
theorem failsOnlyWith_fail {error : ε} (allowed : expected error) :
    FailsOnlyWith expected (fail error : Execution ε α) := by
  intro store other after ended
  obtain ⟨rfl, -⟩ : error = other ∧ store = after := by simpa [fail] using ended
  exact allowed

/-- An answer is no failure. -/
theorem failsOnlyWith_pure (value : α) :
    FailsOnlyWith expected (Pure.pure value : Execution ε α) := by
  intro store error after ended
  simp at ended

/-- A verdict is either an error to end with or a value to go on with. -/
theorem failsOnlyWith_ofExcept_bind {verdict : Except ε α} {next : α → Execution ε β}
    (refused : ∀ error, verdict = .error error → expected error)
    (passed : ∀ value, verdict = .ok value → FailsOnlyWith expected (next value)) :
    FailsOnlyWith expected (ofExcept verdict >>= next) := by
  cases verdict with
  | error error => exact failsOnlyWith_fail (refused error rfl)
  | ok value => exact passed value rfl

/-- One execution after the other fails as one of the two does. -/
theorem FailsOnlyWith.bind {first : Execution ε α} {next : α → Execution ε β}
    (head : FailsOnlyWith expected first) (tail : ∀ value, FailsOnlyWith expected (next value)) :
    FailsOnlyWith expected (first >>= next) := by
  intro store error after ended
  rw [run_bind] at ended
  cases outcome : first.run store with
  | none => simp [outcome] at ended
  | some pair =>
    obtain ⟨verdict, between⟩ := pair
    cases verdict with
    | error other =>
      obtain ⟨rfl, rfl⟩ : other = error ∧ between = after := by simpa [outcome] using ended
      exact head store other between outcome
    | ok value => exact tail value between error after (by simpa [outcome] using ended)

/-- Replacing errors replaces what an execution can fail with. -/
theorem FailsOnlyWith.mapError {others : δ → Prop} {execution : Execution ε α}
    (fails : FailsOnlyWith expected execution) {change : ε → δ}
    (changes : ∀ error, expected error → others (change error)) :
    FailsOnlyWith others (execution.mapError change) := by
  intro store error after ended
  obtain ⟨⟨verdict, between⟩, outcome, same⟩ := Option.map_eq_some_iff.mp ended
  obtain ⟨changed, rfl⟩ := Prod.mk.inj same
  cases verdict with
  | error original =>
    obtain rfl := Except.error.inj changed
    exact changes original (fails store original between outcome)
  | ok value => simp [Except.mapError] at changed

/-- What fails with few errors fails with more errors allowed. -/
theorem FailsOnlyWith.mono {others : ε → Prop} {execution : Execution ε α}
    (fails : FailsOnlyWith expected execution) (weaker : ∀ error, expected error → others error) :
    FailsOnlyWith others execution :=
  fun store error after ended => weaker error (fails store error after ended)

end Execution

/-- The errors that a call by name ends with: a name or target is missing, no method fits, or a
body failed. -/
inductive Error.OfCall : Error → Prop
  | argumentNull (input : String) : OfCall (.argumentNull input)
  | missingMethod (type member : String) : OfCall (.missingMethod type member)
  | rethrown (fault : Fault) : OfCall (.rethrown fault)

/-- The errors that a construction ends with: no constructor fits, or a body failed. -/
inductive Error.OfConstruction : Error → Prop
  | cannotInfer (member : String) : OfConstruction (.cannotInfer member)
  | rethrown (fault : Fault) : OfConstruction (.rethrown fault)

namespace Registry

variable {registry : Registry}

/-- Whether a place admits a value depends on the value's type alone, and null is admitted as what
has none. -/
theorem admits_eq_admitsType (declared : Ty) (value : Value) :
    registry.admits declared value = registry.admitsType declared value.type? := by
  rw [admits]
  cases value.type? <;> rfl

/-- Values are admitted together when each is at its place. -/
theorem checkValues_eq_ok_iff {declared : List Ty} {values : List Value}
    (count : declared.length = values.length) :
    registry.checkValues declared values = .ok () ↔
      List.Forall₂ (fun type value => registry.admits type value = true) declared values := by
  induction declared generalizing values with
  | nil =>
    obtain rfl : values = [] := by simpa using count.symm
    simp [checkValues]
  | cons type rest inductionHypothesis =>
    cases values with
    | nil => simp at count
    | cons value others =>
      rw [checkValues, List.forall₂_cons, ← inductionHypothesis (by simpa using count), checkValue]
      cases registry.admits type value <;> simp [bind, Except.bind]

/-- Arguments are in order when there is one for each parameter and the parameter admits it. -/
theorem checkArguments_eq_ok_iff {member : Member} {arguments : List Value} :
    registry.checkArguments member arguments = .ok () ↔
      List.Forall₂ (fun type argument => registry.admitsType type argument = true)
        member.parameters (argumentTypes arguments) := by
  rw [checkArguments, argumentTypes, List.forall₂_map_right_iff]
  simp only [← admits_eq_admitsType]
  by_cases count : member.parameters.length = arguments.length
  · rw [if_pos count]
    exact checkValues_eq_ok_iff count
  · rw [if_neg count]
    constructor
    · simp
    · exact fun each => absurd each.length_eq count

/-- A receiver is in order when the member is static, or when the receiver is an instance of the
declaring type. -/
theorem checkTarget_eq_ok {member : Member} {target : Option Value}
    (instanceOf : member.isStatic = false → ∃ type, target.bind Value.type? = some type ∧
      registry.isAssignable type member.declaring = true) :
    ∃ receiver, registry.checkTarget member target = .ok receiver := by
  rw [checkTarget]
  cases static : member.isStatic with
  | true => exact ⟨none, rfl⟩
  | false =>
    obtain ⟨type, found, admitted⟩ := instanceOf static
    obtain ⟨value, given, typed⟩ := Option.bind_eq_some_iff.mp found
    refine ⟨some value, ?_⟩
    simp [given, typed, admitted]

/-- What makes the host accept a member at a call site. -/
structure AcceptedAt (registry : Registry) (flags : BindingFlags) (site : CallSite)
    (member : Member) : Prop where
  kind : member.kind = site.kind
  flagged : flags.admits member.toDeclaration = true
  closed : member.isOpen = false
  arguments : List.Forall₂ (fun type argument => registry.admitsType type argument = true)
    member.parameters site.arguments
  receiver : ∀ type, site.receiver = some type → member.isStatic = false →
    member.kind ≠ .constructor → registry.isAssignable type member.declaring = true

/-- A selection at a call site of closed types is closed without failing, and the host accepts
what it is closed to. -/
theorem WellFormed.close_accepted (sound : registry.WellFormed) {flags : BindingFlags}
    {site : CallSite}
    (mentioned : ∀ type ∈ site.types, registry.wellApplied type = true ∧ type.isOpen = false)
    {selected : Selected} (found : registry.resolve flags site = .ok selected) :
    ∃ member, registry.close selected.candidate selected.matched = .ok member ∧
      registry.AcceptedAt flags site member := by
  have applied := fun type inside => (mentioned type inside).1
  have closed := fun type inside => (mentioned type inside).2
  obtain ⟨id, arguments, bindings, selects⟩ := sound.resolve_selects applied found
  obtain ⟨sameType, unclosed, _⟩ := declared_facts selects.declared
  -- the declaring type mentions no parameter, and neither does what is inferred
  have declaringClosed : (Ty.named id arguments).isOpen = false :=
    sound.isOpen_of_reaches (applied site.type List.mem_cons_self)
      (closed site.type List.mem_cons_self) selects.reached
  have plain : ∀ p ∈ (Ty.named id arguments).occurrences, p.isMethodLevel = false := by
    simp [(Ty.isOpen_eq_false_iff _).mp declaringClosed]
  have boundClosed := fun {p type} (bound : bindings.bound? p = some type) =>
    selects.unified.bound_closed sound
      (fun type offered => applied type (CallSite.mem_types_of_offered offered))
      (fun type offered => closed type (CallSite.mem_types_of_offered offered)) bound
  have writtenClosed : ∀ written, written = selected.candidate.type ∨
      written ∈ selected.candidate.parameters → (written.replace bindings.all).isOpen = false :=
    fun _ inside => sound.isOpen_replace_of_mentioned selects.applied selects.declared
      selects.unified boundClosed inside
  have closing := selects.unified.close_of_closed selects.declared declaringClosed
  have sameMember := (sound.close_keeps_iff selects.applied selects.declared selects.unified
    closing).2 rfl
  have parameters : (selected.candidate.closeMethod selected.matched.methodArguments).parameters =
      selected.candidate.parameters.map (Ty.replace bindings.all) := by
    rw [sameMember]
    exact sound.closedForm_parameters selects.applied selects.declared selects.unified boundClosed
      plain _
  have result : (selected.candidate.closeMethod selected.matched.methodArguments).type =
      selected.candidate.type.replace bindings.all := by
    rw [sameMember]
    exact sound.closedForm_type selects.applied selects.declared selects.unified boundClosed
      plain _
  refine ⟨_, closing, selects.kind, selects.admitted, ?_, ?_, ?_⟩
  · have given := Member.hasOpenMethodParameters_closeMethod
      (selects.unified.length_methodArguments unclosed)
    have everyClosed : (selected.candidate.parameters.map (Ty.replace bindings.all)).any Ty.isOpen =
        false := by
      simpa using fun written inside => writtenClosed written (Or.inr inside)
    rw [Member.isOpen, given, Member.closeMethod_declaring, sameType, declaringClosed, parameters,
      everyClosed, result, writtenClosed _ (Or.inl rfl)]
    rfl
  · rw [parameters, List.forall₂_map_left_iff]
    exact selects.unified.admitted
  · intro type same isInstance notConstructor
    have admitted := selects.unified.received type same isInstance notConstructor
    rwa [sameType, Ty.replace_of_closed _ declaringClosed, ← sameType] at admitted

/-- The host's checks, one by one. -/
theorem AcceptedAt.checkClosed {flags : BindingFlags} {site : CallSite} {member : Member}
    (accepted : registry.AcceptedAt flags site member) :
    registry.checkClosed member = .ok () := by
  rw [Registry.checkClosed, accepted.closed]
  rfl

/-- The arguments pass the check of the host, when they have the types of the call site. -/
theorem AcceptedAt.checkArguments {flags : BindingFlags} {site : CallSite} {member : Member}
    (accepted : registry.AcceptedAt flags site member) {arguments : List Value}
    (types : argumentTypes arguments = site.arguments) :
    registry.checkArguments member arguments = .ok () :=
  checkArguments_eq_ok_iff.mpr (types ▸ accepted.arguments)

/-- The receiver passes it too. A static member needs none, and one that is given to it is ignored.
-/
theorem AcceptedAt.checkTarget {flags : BindingFlags} {site : CallSite} {member : Member}
    (accepted : registry.AcceptedAt flags site member) (called : site.kind ≠ .constructor)
    {target : Option Value} (type : target.bind Value.type? = site.receiver)
    (given : member.isStatic = false → site.receiver.isSome) :
    ∃ receiver, registry.checkTarget member target = .ok receiver := by
  apply checkTarget_eq_ok
  intro isInstance
  obtain ⟨actual, received⟩ := Option.isSome_iff_exists.mp (given isInstance)
  exact ⟨actual, type.trans received,
    accepted.receiver actual received isInstance (accepted.kind ▸ called)⟩

/-- Resolving a member at a call site of closed types either finds nothing or is accepted. -/
theorem WellFormed.resolveMember_accepted (sound : registry.WellFormed) (flags : BindingFlags)
    {site : CallSite}
    (mentioned : ∀ type ∈ site.types, registry.wellApplied type = true ∧ type.isOpen = false) :
    (∃ failure : NoMatch, failure.site = site ∧
      registry.resolveMember flags site = .error (registry.noMatchError failure)) ∨
    ∃ resolved, registry.resolveMember flags site = .ok resolved ∧
      registry.AcceptedAt flags site resolved.member := by
  cases found : registry.resolve flags site with
  | error failure =>
    refine Or.inl ⟨failure, ?_, by rw [resolveMember, found]⟩
    rw [resolve] at found
    cases outcome : registry.selectFirst site
        (registry.candidates flags site.type site.name site.kind) with
    | error rejected =>
      have same : NoMatch.mk site rejected = failure := by
        simpa [outcome, Except.mapError] using found
      rw [← same]
    | ok other => simp [outcome, Except.mapError] at found
  | ok selected =>
    obtain ⟨member, closing, accepted⟩ := sound.close_accepted mentioned found
    refine Or.inr ⟨{ selected with member }, ?_, accepted⟩
    rw [resolveMember, found]
    simp only [closing]
    rfl

/-- The execution of a body fails with the layer that the host puts around its fault. -/
theorem activate_fails (run : Interpreter) (role : Role) (script : Script) (frame : Frame) :
    (registry.activate run role script frame).FailsOnlyWith
      fun error => ∃ member fault, error = .targetInvocation member fault := by
  have fails : (run script frame).FailsOnlyWith fun _ => True := fun _ _ _ _ => trivial
  refine Execution.FailsOnlyWith.bind ?_ fun _ => fails.mapError fun fault _ => ⟨_, _, rfl⟩
  intro store error after ended
  simp [Execution.run, Execution.enter] at ended

/-- Whether a value is null or of a closed and well-applied type. -/
def Typed (registry : Registry) (value : Value) : Prop :=
  ∀ type, value.type? = some type → registry.wellApplied type = true ∧ type.isOpen = false

end Registry

/-- Only null has no type. -/
theorem Value.exists_type? {value : Value} (present : value.isNull = false) :
    ∃ type, value.type? = some type := by
  cases value with
  | object ref => exact ⟨ref.type, rfl⟩
  | delegate handlers => exact ⟨.delegate, rfl⟩
  | literal content =>
    cases content with
    | null => simp [isNull] at present
    | _ => exact ⟨_, rfl⟩

/-- Null is the only value that counts as absent. -/
theorem Value.eq_null_of_isNull {value : Value} (absent : value.isNull = true) :
    value = .null := by
  cases value with
  | object ref => simp [isNull] at absent
  | delegate handlers => simp [isNull] at absent
  | literal content =>
    cases content with
    | null => rfl
    | _ => simp [isNull] at absent

namespace Engine

variable {engine : Engine}

/-- A target that is required and given is there and not null. -/
theorem requireTarget_eq_ok {target : Option Value} {value : Value}
    (required : requireTarget target = .ok value) :
    target = some value ∧ value.isNull = false := by
  rw [requireTarget] at required
  cases present : present? target with
  | some other =>
    rw [present] at required
    obtain rfl := Except.ok.inj required
    simpa using Option.filter_eq_some_iff.mp present
  | none =>
    rw [present] at required
    cases required

/-- A missing target is among the errors of a call. -/
theorem requireTarget_fails {target : Option Value} {error : Error}
    (refused : requireTarget target = .error error) : Error.OfCall error := by
  rw [requireTarget] at refused
  split at refused
  · simp at refused
  · exact Except.error.inj refused ▸ .argumentNull _

/-- So is an empty name. -/
theorem requireName_fails {name : String} {error : Error}
    (refused : requireName name = .error error) : Error.OfCall error := by
  rw [requireName] at refused
  split at refused
  · exact Except.error.inj refused ▸ .argumentNull _
  · simp at refused

/-- A call with typed arguments on a closed type mentions closed types only. -/
theorem types_of_typed {site : CallSite} {arguments : List Value}
    (searched : engine.registry.wellApplied site.type = true ∧ site.type.isOpen = false)
    (receiver : ∀ type, site.receiver = some type → type = site.type)
    (typed : ∀ value ∈ arguments, engine.registry.Typed value)
    (types : argumentTypes arguments = site.arguments) (unexpecting : site.expected = none) :
    ∀ type ∈ site.types, engine.registry.wellApplied type = true ∧ type.isOpen = false := by
  intro type inside
  rcases (by simpa [CallSite.types, unexpecting, ← types, argumentTypes] using inside :
    type = site.type ∨ site.receiver = some type ∨ ∃ value ∈ arguments, value.type? = some type)
    with rfl | received | ⟨value, given, same⟩
  · exact searched
  · exact receiver type received ▸ searched
  · exact typed value given type same

/-- An accepted method ends with the fault of its body, unless it has none to run. -/
theorem execute_invoke_fails {flags : BindingFlags} {site : CallSite} {member : Member}
    (accepted : engine.registry.AcceptedAt flags site member) (called : site.kind ≠ .constructor)
    {target : Option Value} (type : target.bind Value.type? = site.receiver)
    (given : member.isStatic = false → site.receiver.isSome) {arguments : List Value}
    (types : argumentTypes arguments = site.arguments) :
    (engine.execute (.invoke member target arguments)).FailsOnlyWith Error.OfCall := by
  obtain ⟨receiver, targetChecked⟩ := accepted.checkTarget called type given
  have fails : (engine.registry.perform engine.run
      (.invoke member target arguments)).FailsOnlyWith fun error =>
        (∃ member fault, error = .targetInvocation member fault) ∨
          ∃ type member, error = .missingMethod type member := by
    rw [Registry.perform, accepted.checkClosed, targetChecked, accepted.checkArguments types]
    simp only [Execution.ofExcept_ok_bind]
    split
    · exact (Registry.activate_fails _ _ _ _).mono fun _ => Or.inl
    · exact Execution.failsOnlyWith_fail (Or.inr ⟨_, _, rfl⟩)
  refine fails.mapError ?_
  rintro error (⟨path, fault, rfl⟩ | ⟨type, name, rfl⟩)
  · exact .rethrown fault
  · exact .missingMethod type name

/-- An accepted constructor ends with the fault of its body, unless it has none to run. -/
theorem execute_construct_fails {flags : BindingFlags} {site : CallSite} {member : Member}
    (accepted : engine.registry.AcceptedAt flags site member) {arguments : List Value}
    (types : argumentTypes arguments = site.arguments) :
    (engine.execute (.construct member arguments)).FailsOnlyWith Error.OfConstruction := by
  have fails : (engine.registry.perform engine.run
      (.construct member arguments)).FailsOnlyWith fun error =>
        (∃ member fault, error = .targetInvocation member fault) ∨
          ∃ member, error = .cannotInfer member := by
    rw [Registry.perform, accepted.checkClosed, accepted.checkArguments types]
    simp only [Execution.ofExcept_ok_bind]
    split
    · refine Execution.FailsOnlyWith.bind ?_ fun ref => ?_
      · intro store error after ended
        simp [Execution.run, Execution.allocate] at ended
      · refine Execution.FailsOnlyWith.bind ?_ fun _ => Execution.failsOnlyWith_pure _
        exact (Registry.activate_fails _ _ _ _).mono fun _ => Or.inl
    · exact Execution.failsOnlyWith_fail (Or.inr ⟨_, rfl⟩)
  refine fails.mapError ?_
  rintro error (⟨path, fault, rfl⟩ | ⟨path, rfl⟩)
  · exact .rethrown fault
  · exact .cannotInfer path

section Calls

variable (sound : engine.registry.WellFormed)
include sound

/-- A call by name that resolves is accepted, and one that does not reports a missing method. -/
theorem resolve_then_invoke_fails {flags : BindingFlags} {site : CallSite}
    (mentioned : ∀ type ∈ site.types,
      engine.registry.wellApplied type = true ∧ type.isOpen = false)
    (method : site.kind = .method) {target : Option Value}
    (type : target.bind Value.type? = site.receiver)
    (given : flags.instances = true → site.receiver.isSome) {arguments : List Value}
    (types : argumentTypes arguments = site.arguments) :
    Execution.FailsOnlyWith Error.OfCall (do
      let resolved ← .ofExcept (engine.registry.resolveMember flags site)
      engine.execute (.invoke resolved.member target arguments)) := by
  rcases sound.resolveMember_accepted flags mentioned with
    ⟨failure, rfl, found⟩ | ⟨resolved, found, accepted⟩
  · rw [found, Execution.ofExcept_error_bind, Registry.noMatchError, method]
    exact Execution.failsOnlyWith_fail (.missingMethod _ _)
  · rw [found, Execution.ofExcept_ok_bind]
    refine execute_invoke_fails accepted (by simp [method]) type (fun isInstance => given ?_) types
    have flagged := accepted.flagged
    simp only [BindingFlags.admits, Bool.and_eq_true, isInstance] at flagged
    simpa using flagged.2

/-- Whatever is resolved at a call site of closed types passes the checks of the host. Calling a
method of a value or of a closed type by its name, with any values, therefore ends with an error
only where an input is missing, no method fits or a body fails, and constructing a closed type
only where no constructor fits or a body fails. -/
theorem resolved_calls_accepted :
    (∀ (flags : BindingFlags) (site : CallSite) (resolved : Resolved),
      (∀ type ∈ site.types, engine.registry.wellApplied type = true ∧ type.isOpen = false) →
      engine.registry.resolveMember flags site = .ok resolved →
        engine.registry.checkClosed resolved.member = .ok () ∧
        (∀ arguments, argumentTypes arguments = site.arguments →
          engine.registry.checkArguments resolved.member arguments = .ok ()) ∧
        ∀ target : Option Value, target.bind Value.type? = site.receiver →
          site.kind ≠ .constructor → (resolved.member.isStatic = false → site.receiver.isSome) →
          ∃ receiver, engine.registry.checkTarget resolved.member target = .ok receiver) ∧
    (∀ (target : Option Value) (name : String) (arguments : List Value),
      (∀ value ∈ target.toList ++ arguments, engine.registry.Typed value) →
        (engine.invokeMethod target name arguments).FailsOnlyWith Error.OfCall) ∧
    (∀ (type : Ty) (name : String) (arguments : List Value),
      engine.registry.wellApplied type = true → type.isOpen = false →
      (∀ value ∈ arguments, engine.registry.Typed value) →
        (engine.invokeStatic type name arguments).FailsOnlyWith Error.OfCall) ∧
    ∀ (type : Ty) (arguments : List Value),
      engine.registry.wellApplied type = true → type.isOpen = false →
      (∀ value ∈ arguments, engine.registry.Typed value) →
        (engine.construct type arguments).FailsOnlyWith Error.OfConstruction := by
  refine ⟨?_, ?_, ?_, ?_⟩
  · intro flags site resolved mentioned found
    rcases sound.resolveMember_accepted flags mentioned with
      ⟨failure, _, refused⟩ | ⟨other, same, accepted⟩
    · simp [refused] at found
    · obtain rfl := Except.ok.inj (same.symm.trans found)
      exact ⟨accepted.checkClosed, fun _ types => accepted.checkArguments types,
        fun _ type called given => accepted.checkTarget called type given⟩
  · intro target name arguments typed
    rw [invokeMethod, invokeMethodExpecting]
    refine Execution.failsOnlyWith_ofExcept_bind (fun _ => requireTarget_fails)
      fun receiver required => ?_
    refine Execution.failsOnlyWith_ofExcept_bind (fun _ => requireName_fails) fun _ _ => ?_
    obtain ⟨rfl, present⟩ := requireTarget_eq_ok required
    obtain ⟨type, receiverType⟩ := Value.exists_type? present
    have typedArguments := fun value given => typed value (List.mem_append_right _ given)
    have searched := typed receiver (by simp) type receiverType
    simp only [receiverType, Option.getD_some]
    refine resolve_then_invoke_fails sound ?_ rfl (by simp [receiverType]) (by simp) rfl
    exact types_of_typed searched (by simp) typedArguments rfl rfl
  · intro type name arguments applied closed typed
    rw [invokeStatic]
    refine Execution.failsOnlyWith_ofExcept_bind (fun _ => requireName_fails) fun _ _ => ?_
    refine resolve_then_invoke_fails sound ?_ rfl rfl (by simp [BindingFlags.withoutInstance]) rfl
    exact types_of_typed ⟨applied, closed⟩ (by simp) typed rfl rfl
  · intro type arguments applied closed typed
    rw [construct]
    cases found : engine.registry.resolve engine.flags
      { type, name := Declaration.constructorName, kind := .constructor, receiver := none
        arguments := argumentTypes arguments, expected := none } with
    | error failure => exact Execution.failsOnlyWith_fail (.cannotInfer _)
    | ok selected =>
      obtain ⟨member, closing, accepted⟩ := sound.close_accepted
        (types_of_typed ⟨applied, closed⟩ (by simp) typed rfl rfl) found
      simp only
      rw [closing, Execution.ofExcept_ok_bind]
      exact execute_construct_fails accepted rfl

end Calls

/-- A cell of any type, whose content can be exchanged for a value of any other type. -/
def cells : Engine where
  registry := .ofDefinitions
    [{ name := "Cell", kind := .classType, generics := ["T"]
       declarations :=
        [{ name := "exchange", kind := .method, generics := ["U"]
           parameters := [.parameter ⟨.definition ⟨0⟩, 0⟩, .parameter ⟨.member ⟨⟨0⟩, 0⟩, 0⟩]
           type := .parameter ⟨.member ⟨⟨0⟩, 0⟩, 0⟩, body := .native (.argument 1) }] }]
  run := fun _ frame => pure (frame.arguments.getD 1 .null)

/-- The cell has no base, so its hierarchy is no obstacle; the rest is checked declaration by
declaration. -/
theorem cells_wellFormed : cells.registry.WellFormed :=
  .of_definitions _ (by decide) (by decide)

/-- An exchange in a cell of integers is accepted, and runs. -/
theorem cells_exchange_accepted :
    cells.registry.WellFormed ∧
      (cells.invokeMethod (some (.object ⟨0, .named ⟨0⟩ [.i32]⟩)) "exchange"
        [.int 1, .text "one"]).FailsOnlyWith Error.OfCall ∧
      (cells.invokeMethod (some (.object ⟨0, .named ⟨0⟩ [.i32]⟩)) "exchange"
        [.int 1, .text "one"]).run .empty = some (.ok (.text "one"), .empty) := by
  refine ⟨cells_wellFormed, (resolved_calls_accepted cells_wellFormed).2.1 _ _ _ ?_, rfl⟩
  intro value given type same
  have known : value = .object ⟨0, .named ⟨0⟩ [.i32]⟩ ∨ value = .int 1 ∨ value = .text "one" := by
    simpa using given
  rcases known with rfl | rfl | rfl
  · obtain rfl := Option.some.inj same
    decide
  · obtain rfl := Option.some.inj same
    decide
  · obtain rfl := Option.some.inj same
    decide

end Engine

end LateBinding
