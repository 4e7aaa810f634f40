import LateBinding.Proofs.Selection
import LateBinding.Engine

/-!
# Which member a call runs

A member that was selected on an open type is looked up again on the closed one, and the member
found there need not be the one selected: an earlier overload may have become like it, also one
that the flags keep out. The same holds of an operation on an open descriptor. The theorem of
this module says exactly when the member survives, and that it is closed faithfully then.
-/
namespace LateBinding

/-- The closed form of a member under the arguments of a match: its own declaration with the
type arguments in the place of what was inferred from, then with its method arguments. -/
def Member.ClosesTo (member : Member) (matched : Match) (closed : Member) : Prop :=
  ∃ types : Substitution, types.KeepsMethodLevel ∧
    member.declaring.arguments.map (Ty.replace types) = matched.typeArguments ∧
    closed = (member.seenAs types
      (member.declaring.withArguments matched.typeArguments)).closeMethod matched.methodArguments

/-- Whether closing a matched member comes back to that member: its declaring type is closed
already, or recalls it. -/
def Registry.ComesBack (registry : Registry) (member : Member) (matched : Match) : Prop :=
  member.declaring.isOpen = true →
    registry.Recalls (member.declaring.withArguments matched.typeArguments) member
      matched.parameterTypes

/-- What an operation on a descriptor comes to: it fails at once, or the descriptor matches its
use and one closed member is performed, the descriptor's own exactly when closing comes back to
it. -/
def Engine.PerformsClosed {α : Type} (engine : Engine) (member : Member) (target : Option Value)
    (arguments : List Value) (expectation : Expectation)
    (perform : Member → Execution Error α) (operation : Execution Error α) : Prop :=
  (∃ error, operation = .fail error) ∨
    ∃ matched closed, engine.registry.unifyWith member (target.bind Value.type?)
        (argumentTypes arguments) expectation = .ok matched ∧
      operation = perform closed ∧
      (closed.id = member.id ↔ engine.registry.ComesBack member matched) ∧
      (closed.id = member.id → member.ClosesTo matched closed)

namespace Registry

variable {registry : Registry}

/-- Closing changes nothing that the flags look at. -/
theorem admits_of_closesTo {flags : BindingFlags} {member closed : Member} {matched : Match}
    (admitted : flags.admits member.toDeclaration = true)
    (closes : member.ClosesTo matched closed) : flags.admits closed.toDeclaration = true := by
  obtain ⟨_, _, _, rfl⟩ := closes
  exact admitted

/-- Closing a declared member, in terms of whether it comes back. -/
theorem WellFormed.close_comesBack_iff (sound : registry.WellFormed) {type : Ty}
    (applied : registry.wellApplied type = true) {member : Member}
    (declared : member ∈ registry.declaredMembers type) {receiver : Option Ty}
    {arguments : List (Option Ty)} {expectation : Expectation} {bindings : Bindings}
    {matched : Match}
    (unified : registry.Unified member receiver arguments expectation bindings matched)
    {closed : Member} (closing : registry.close member matched = .ok closed) :
    (closed.id = member.id ↔ registry.ComesBack member matched) ∧
      (closed.id = member.id → member.ClosesTo matched closed) := by
  obtain ⟨_, _, named⟩ := declared_facts declared
  obtain ⟨typeArguments, rfl⟩ := Ty.definition?_eq_some_iff.mp named
  obtain ⟨kept, closes⟩ := sound.close_keeps_iff applied declared unified closing
  exact ⟨kept, fun same => ⟨bindings.typeLevel,
    Bindings.keepsMethodLevel_typeLevel unified.distinct, unified.typeArguments.symm,
    closes same⟩⟩

end Registry

namespace Engine

section Closing

variable {engine : Engine} (sound : engine.registry.WellFormed)
include sound

/-- What follows the closing of an open descriptor is performed on a closed member. -/
theorem performsClosed_of_open {α : Type} {type : Ty}
    (applied : engine.registry.wellApplied type = true) {member : Member}
    (declared : member ∈ engine.registry.declaredMembers type) (opened : member.isOpen = true)
    {target : Option Value} {arguments : List Value} {expectation : Expectation}
    (offered : ∀ type ∈ offeredTypes (target.bind Value.type?) (argumentTypes arguments)
      expectation, engine.registry.wellApplied type = true)
    (perform : Member → Execution Error α) :
    engine.PerformsClosed member target arguments expectation perform (do
      .ofExcept (engine.requireReceiver member target)
      let closed ← .ofExcept (engine.closeFor member target arguments expectation)
      perform closed) := by
  cases receiver : engine.requireReceiver member target with
  | error error => exact Or.inl ⟨error, Execution.ofExcept_error_bind error _⟩
  | ok _ =>
    rw [Execution.ofExcept_ok_bind, closeFor, if_pos opened]
    cases unified : engine.registry.unifyWith member (target.bind Value.type?)
        (argumentTypes arguments) expectation with
    | error failure => exact Or.inl ⟨_, Execution.ofExcept_error_bind _ _⟩
    | ok matched =>
      simp only
      cases closing : engine.registry.close member matched with
      | error error => exact Or.inl ⟨error, Execution.ofExcept_error_bind error _⟩
      | ok closed =>
        obtain ⟨bindings, facts⟩ := sound.unifyWith_unified
          (sound.applied_of_declared applied declared) offered unified
        obtain ⟨kept, closes⟩ := sound.close_comesBack_iff applied declared facts closing
        exact Or.inr ⟨matched, closed, unified, Execution.ofExcept_ok_bind closed _, kept, closes⟩

/-- Closing keeps the member that was selected exactly when closing comes back to it, and then
closes it faithfully. With closed types at the call site that is so unless an earlier overload
has become like the one selected. What an open descriptor is used for is performed on the
descriptor's own member under the same condition. -/
theorem closing_keeps_member_iff :
    (∀ (flags : BindingFlags) (site : CallSite) (resolved : Resolved),
      (∀ type ∈ site.types, engine.registry.wellApplied type = true) →
      engine.registry.resolveMember flags site = .ok resolved →
        (resolved.member.id = resolved.candidate.id ↔
          engine.registry.ComesBack resolved.candidate resolved.matched) ∧
        (resolved.member.id = resolved.candidate.id →
          resolved.candidate.ClosesTo resolved.matched resolved.member ∧
            flags.admits resolved.member.toDeclaration = true) ∧
        ((∀ type ∈ offeredTypes site.receiver site.arguments (.ofResult site.expected),
            type.isOpen = false) →
          (resolved.member.id = resolved.candidate.id ↔
            (resolved.candidate.declaring.isOpen = true → engine.registry.Unprecedented
              (resolved.candidate.declaring.withArguments resolved.matched.typeArguments)
              resolved.candidate resolved.matched.parameterTypes)))) ∧
    ∀ (type : Ty) (member : Member) (target : Option Value) (arguments : List Value),
      engine.registry.wellApplied type = true →
      member ∈ engine.registry.declaredMembers type → member.isOpen = true →
      (∀ value ∈ target.toList ++ arguments, ∀ type, value.type? = some type →
        engine.registry.wellApplied type = true) →
        engine.PerformsClosed member target arguments .any
          (fun closed => if closed.kind = .constructor then
              engine.execute (.construct closed arguments)
            else engine.execute (.invoke closed target arguments))
          (engine.invoke member target arguments) ∧
        engine.PerformsClosed member target arguments .any
          (fun closed => engine.execute (.get closed target arguments))
          (engine.getValue member target arguments) ∧
        ∀ value : Value, (∀ type, value.type? = some type →
            engine.registry.wellApplied type = true) →
          engine.PerformsClosed member target arguments (.accepts value.type?)
            (fun closed => do
              let _ ← engine.execute (.set closed target value arguments)
              pure ())
            (engine.setValue member target value arguments) := by
  refine ⟨?_, ?_⟩
  · intro flags site resolved applied found
    obtain ⟨selection, closing⟩ := Registry.resolveMember_eq_ok found
    obtain ⟨id, arguments, bindings, selects⟩ := sound.resolve_selects applied selection
    obtain ⟨kept, closes⟩ :=
      sound.close_comesBack_iff selects.applied selects.declared selects.unified closing
    refine ⟨kept, fun same => ⟨closes same,
      Registry.admits_of_closesTo selects.admitted (closes same)⟩, fun closed => ?_⟩
    have offered := fun type member => applied type (CallSite.mem_types_of_offered member)
    have bound := fun {p type} (found : bindings.bound? p = some type) =>
      selects.unified.bound_closed sound offered closed found
    rw [kept, Registry.ComesBack,
      sound.recalls_iff_of_closed selects.applied selects.declared selects.unified bound]
  · intro type member target arguments applied declared opened values
    have offered : ∀ expectation : Expectation, (∀ type, expectation.type? = some type →
        engine.registry.wellApplied type = true) →
        ∀ type ∈ offeredTypes (target.bind Value.type?) (argumentTypes arguments) expectation,
          engine.registry.wellApplied type = true := by
      intro expectation expected
      refine forall_mem_offeredTypes.mpr ⟨?_, expected, ?_⟩
      · intro type received
        obtain ⟨value, given, same⟩ := Option.bind_eq_some_iff.mp received
        exact values value (by simp [given]) type same
      · intro type inside
        obtain ⟨value, given, same⟩ := List.mem_map.mp inside
        exact values value (List.mem_append_right _ given) type same
    refine ⟨?_, ?_, fun value valueApplied => ?_⟩
    · exact performsClosed_of_open sound applied declared opened
        (offered .any (by simp [Expectation.type?])) _
    · exact performsClosed_of_open sound applied declared opened
        (offered .any (by simp [Expectation.type?])) _
    · exact performsClosed_of_open sound applied declared opened
        (offered (.accepts value.type?) valueApplied) _

end Closing

/-- A slot of any type, with a private way to put in what it holds and a public way to put in an
integer: in a slot of integers the two are alike. -/
def slots : Engine where
  registry := .ofDefinitions
    [{ name := "Slot", kind := .classType, generics := ["T"]
       declarations :=
        [{ name := "put", kind := .method, parameters := [.parameter ⟨.definition ⟨0⟩, 0⟩]
           visibility := .privateAccess, body := .native .self },
         { name := "put", kind := .method, parameters := [.i32], body := .native .self }] }]
  run := fun _ _ => .exhausted

/-- The slot mentions its own parameter only. -/
theorem slots_wellFormed : slots.registry.WellFormed :=
  .of_definitions _ (by decide) (by decide)

/-- An integer is put into a slot of integers, through a public method of the open type. -/
def slotSite : CallSite where
  type := slots.registry.openType ⟨0⟩
  name := "put"
  kind := .method
  receiver := some (.named ⟨0⟩ [.i32])
  arguments := [some .i32]
  expected := none

/-- The public overload is selected and the private one is found. -/
theorem slots_put_not_recalled :
    slots.registry.WellFormed ∧ ∃ resolved,
      slots.registry.resolveMember { nonPublics := false } slotSite = .ok resolved ∧
      resolved.candidate.id = ⟨⟨0⟩, 1⟩ ∧ resolved.member.id = ⟨⟨0⟩, 0⟩ ∧
      ¬ slots.registry.ComesBack resolved.candidate resolved.matched := by
  have ids : (slots.registry.resolveMember { nonPublics := false } slotSite).toOption.map
      (fun resolved => (resolved.candidate.id, resolved.member.id)) =
        some (⟨⟨0⟩, 1⟩, ⟨⟨0⟩, 0⟩) := by decide
  cases found : slots.registry.resolveMember { nonPublics := false } slotSite with
  | error error => simp [found, Except.toOption] at ids
  | ok resolved =>
    obtain ⟨candidate, member⟩ : resolved.candidate.id = ⟨⟨0⟩, 1⟩ ∧
        resolved.member.id = ⟨⟨0⟩, 0⟩ := by simpa [found, Except.toOption] using ids
    have kept := ((closing_keeps_member_iff slots_wellFormed).1 _ slotSite resolved
      (by decide) found).1
    refine ⟨slots_wellFormed, resolved, rfl, candidate, member, ?_⟩
    rw [← kept, candidate, member]
    decide

end Engine

end LateBinding
