import LateBinding.Proofs.OperationPreservation
import LateBinding.Proofs.Propagation
import LateBinding.Proofs.Subscriptions

/-!
# Handlers that are the same

Handlers are compared by the declaration of their method, its own arguments and the value it is
bound to. The type from which the declaration is seen is not compared, so a method of two
instantiations of one definition makes two handlers that are the same.

This is what decides whether they may stand for each other. Seen from one type, the methods of two
such handlers are one method, and every call ends alike whatever bodies do, though the values they
are bound to need not be identical. Seen from two types, an interpreter that looks at the member it
runs for tells the handlers apart on every call that either of them accepts. Removing the one from a
delegate drops the other all the same (`Registry.sameHandler_interchangeable_iff`).
-/
namespace LateBinding

/-! ## Handlers of a program -/

/-- The members that an enumeration lists, and the same with their own parameters given
arguments. -/
inductive Registry.Enumerated (registry : Registry) : Member → Prop
  | declared {type : Ty} {member : Member} :
    member ∈ registry.declaredMembers type → Enumerated registry member
  | given {type : Ty} {member closed : Member} {arguments : List Ty} :
    member ∈ registry.declaredMembers type →
    registry.closeMethod member arguments = .ok closed → Enumerated registry closed

/-- Whether a handler binds an enumerated member of a closed type, and to a value that is there. -/
structure Registry.Bound (registry : Registry) (store : Store) (handler : Handler) : Prop where
  enumerated : registry.Enumerated handler.method
  closed : handler.method.declaring.isOpen = false
  genuine : ∀ value, handler.target = some value → value.Genuine registry store

/-- Whether two handlers may stand for each other: with any flags and for any arguments they are
called with the same outcome and the same effects, whatever bodies do. -/
def Registry.Interchangeable (registry : Registry) (left right : Handler) : Prop :=
  ∀ flags run arguments,
    Engine.invoke ⟨registry, flags, run⟩ left.method left.target arguments =
      Engine.invoke ⟨registry, flags, run⟩ right.method right.target arguments

namespace Registry

variable {registry : Registry}

/-- What an enumeration lists can be bound. -/
theorem enumerated_of_mem_members {type : Ty} {name : String} {flags : BindingFlags}
    {member : Member} (listed : member ∈ registry.members type name flags) :
    registry.Enumerated member := by
  obtain ⟨_, _, declared, _⟩ := mem_membersAlong listed
  exact .declared declared

/-- It is a member of the registry, with arguments for its own parameters or without. -/
theorem Enumerated.describes {member : Member} (enumerated : registry.Enumerated member) :
    registry.Describes member := by
  cases enumerated with
  | declared listed => exact .declared listed
  | given listed closes =>
    obtain ⟨-, rfl⟩ := closeMethod_eq_ok_iff.mp closes
    exact .closed _ (.declared listed)

/-- An enumerated member is a declaration seen from a type and given its arguments, which may be
none. -/
theorem Enumerated.exists_given {member : Member} (enumerated : registry.Enumerated member) :
    ∃ original ∈ registry.declaredMembers member.declaring, original.id = member.id ∧
      member = original.closeMethod member.methodArguments := by
  cases enumerated with
  | declared listed =>
    obtain ⟨rfl, unclosed, -⟩ := declared_facts listed
    refine ⟨member, listed, rfl, ?_⟩
    rw [unclosed, Member.closeMethod_nil unclosed]
  | @given type original _ arguments listed closes =>
    obtain ⟨-, rfl⟩ := closeMethod_eq_ok_iff.mp closes
    obtain ⟨rfl, -, -⟩ := declared_facts listed
    exact ⟨original, listed, rfl, rfl⟩

/-- The definition of the declaring type is part of a member's identity. -/
theorem Enumerated.definition?_declaring {member : Member}
    (enumerated : registry.Enumerated member) :
    member.declaring.definition? = some member.id.definition := by
  obtain ⟨original, listed, sameId, -⟩ := enumerated.exists_given
  rw [← sameId]
  exact (declared_facts listed).2.2

/-- Two enumerated members that are seen from one type, with one identity and the same arguments,
are one. -/
theorem Enumerated.eq_of_id_eq {left right : Member} (leftEnumerated : registry.Enumerated left)
    (rightEnumerated : registry.Enumerated right) (sameId : left.id = right.id)
    (sameArguments : left.methodArguments = right.methodArguments)
    (sameType : left.declaring = right.declaring) : left = right := by
  obtain ⟨first, firstListed, firstId, leftGiven⟩ := leftEnumerated.exists_given
  obtain ⟨second, secondListed, secondId, rightGiven⟩ := rightEnumerated.exists_given
  rw [sameType] at firstListed
  obtain rfl : first = second := Registry.eq_of_id_eq firstListed secondListed
    (firstId.trans (sameId.trans secondId.symm))
  rw [leftGiven, rightGiven, sameArguments]

end Registry

/-! ## Values that are the same -/

/-- Literals that count as the same have one type. Numbers of different widths never do, even where
they are equal. -/
theorem Literal.type?_of_same {left right : Literal} (alike : left.same right = true) :
    left.type? = right.type? := by
  unfold Literal.same at alike
  split at alike
  · rfl
  · rw [eq_of_beq alike]

/-- The type of a literal is built in, so it has no definition whose members could differ. -/
theorem Literal.definition?_of_type? {literal : Literal} {type : Ty}
    (typed : literal.type? = some type) : type.definition? = none := by
  cases literal with
  | null => simp [Literal.type?] at typed
  | _ =>
    obtain rfl := Option.some.inj typed
    rfl

/-- What is the same without being identical is an instance of no definition: numbers that are
equal without having the same bits, and delegates. -/
theorem Value.eq_or_unnamed_of_same {registry : Registry} {store : Store} {left right : Value}
    (leftGenuine : left.Genuine registry store) (rightGenuine : right.Genuine registry store)
    (same : left.same right = true) :
    left = right ∨ left.type? = right.type? ∧
      ∀ type, left.type? = some type → type.definition? = none := by
  cases left with
  | literal content =>
    cases right with
    | literal other =>
      rw [Value.same] at same
      exact Or.inr ⟨Literal.type?_of_same same, fun _ => Literal.definition?_of_type?⟩
    | object ref => simp [Value.same] at same
    | delegate handlers => simp [Value.same] at same
  | object ref =>
    cases right with
    | literal other => simp [Value.same] at same
    | object other =>
      obtain ⟨address, type⟩ := ref
      obtain ⟨otherAddress, otherType⟩ := other
      obtain rfl : address = otherAddress := by simpa [Value.same] using same
      have leftType : store.typeAt? address = some type :=
        leftGenuine (.object ⟨address, type⟩) (by simp [Value.mentions])
      have rightType : store.typeAt? address = some otherType :=
        rightGenuine (.object ⟨address, otherType⟩) (by simp [Value.mentions])
      rw [leftType] at rightType
      exact Or.inl (by rw [Option.some.inj rightType])
    | delegate handlers => simp [Value.same] at same
  | delegate handlers =>
    cases right with
    | literal other => simp [Value.same] at same
    | object ref => simp [Value.same] at same
    | delegate others =>
      refine Or.inr ⟨rfl, ?_⟩
      rintro _ ⟨⟩
      rfl

/-- Whether two receivers make no difference to a member: they are one, or they have one type that
is no instance of any definition. -/
def AlikeReceivers (left right : Option Value) : Prop :=
  left = right ∨ left.bind Value.type? = right.bind Value.type? ∧
    ∀ type, left.bind Value.type? = some type → type.definition? = none

/-- Targets that count as the same make no difference as receivers. Objects are the same only if
they are one; other values have no members that see more of them than their type. -/
theorem alikeReceivers_of_sameTarget {registry : Registry} {store : Store}
    {left right : Option Value}
    (leftGenuine : ∀ value, left = some value → value.Genuine registry store)
    (rightGenuine : ∀ value, right = some value → value.Genuine registry store)
    (same : Value.sameTarget left right = true) : AlikeReceivers left right := by
  cases left with
  | none =>
    cases right with
    | none => exact Or.inl rfl
    | some other => simp [Value.sameTarget] at same
  | some value =>
    cases right with
    | none => simp [Value.sameTarget] at same
    | some other =>
      rw [Value.sameTarget] at same
      have alike :=
        Value.eq_or_unnamed_of_same (leftGenuine value rfl) (rightGenuine other rfl) same
      exact alike.imp_left (congrArg some)

/-! ## Calls that end alike -/

/-- A receiver is present when it has a type. -/
theorem Engine.isSome_present? (target : Option Value) :
    (Engine.present? target).isSome = (target.bind Value.type?).isSome := by
  cases target with
  | none => rfl
  | some value =>
    cases absent : value.isNull with
    | true =>
      obtain rfl := Value.eq_null_of_isNull absent
      rfl
    | false =>
      obtain ⟨type, typed⟩ := Value.exists_type? absent
      simp [Engine.present?, absent, typed]

/-- The check of a receiver depends on its type. -/
theorem Registry.checkTarget_eq (registry : Registry) {member : Member}
    (isInstance : member.isStatic = false) (target : Option Value) :
    registry.checkTarget member target = match target.bind Value.type? with
      | none => .error (.memberAccess (registry.memberPath member))
      | some actual =>
        if registry.isAssignable actual member.declaring then .ok target
        else .error (.targetMismatch (registry.typeName member.declaring)
          (registry.typeName actual)) := by
  rw [checkTarget, if_neg (by simp [isInstance])]
  cases target with
  | none => rfl
  | some value => cases typed : value.type? <;> simp [typed]

namespace AlikeReceivers

variable {left right : Option Value} (alike : AlikeReceivers left right)
include alike

/-- Alike receivers have one type, or both have none. -/
theorem types : left.bind Value.type? = right.bind Value.type? := by
  rcases alike with rfl | ⟨types, -⟩
  · rfl
  · exact types

/-- One is present exactly when the other is. -/
theorem requireReceiver (engine : Engine) (member : Member) :
    engine.requireReceiver member left = engine.requireReceiver member right := by
  simp only [Engine.requireReceiver, Engine.isSome_present?, alike.types]

/-- A descriptor is closed alike for both, as closing looks at the type of the receiver only. -/
theorem closeFor (engine : Engine) (member : Member) (arguments : List Value)
    (expectation : Expectation) : engine.closeFor member left arguments expectation =
      engine.closeFor member right arguments expectation := by
  simp only [Engine.closeFor, alike.types]

/-- The check of the receiver passes both, which then are one, or refuses both with one error. -/
theorem checkTarget (registry : Registry) {member : Member} {id : DefinitionId}
    {arguments : List Ty} (named : member.declaring = .named id arguments) :
    registry.checkTarget member left = registry.checkTarget member right := by
  cases static : member.isStatic with
  | true => rw [Registry.checkTarget, Registry.checkTarget, if_pos static, if_pos static]
  | false =>
    rcases alike with rfl | ⟨types, unnamed⟩
    · rfl
    · rw [registry.checkTarget_eq static, registry.checkTarget_eq static, ← types]
      cases typed : left.bind Value.type? with
      | none => rfl
      | some type =>
        have refused : registry.isAssignable type (.named id arguments) = false :=
          Registry.isAssignable_of_not_named (unnamed type typed) id arguments
        simp [named, refused]

end AlikeReceivers

namespace Engine

variable {engine : Engine}

/-- A member is called on receivers that are alike with the same outcome and the same effects. -/
theorem invoke_of_alikeReceivers {member : Member}
    (described : engine.registry.Describes member) {left right : Option Value}
    (alike : AlikeReceivers left right) (arguments : List Value) :
    engine.invoke member left arguments = engine.invoke member right arguments := by
  rw [invoke, invoke, invokeExpecting, invokeExpecting, alike.requireReceiver, alike.closeFor]
  refine bind_congr fun _ => ?_
  cases closes : engine.closeFor member right arguments (.ofResult none) with
  | error error => rfl
  | ok closed =>
    obtain ⟨-, id, typeArguments, named⟩ := (describes_of_closeFor described closes).origin
    rw [Execution.ofExcept_ok_bind, Execution.ofExcept_ok_bind]
    split
    · rfl
    · rw [execute, execute, Registry.perform, Registry.perform, alike.checkTarget _ named]

/-! ## Calls that are told apart -/

/-- Closing a descriptor of a closed type keeps the type that it is seen from. -/
theorem declaring_of_closeFor {member closed : Member} {target : Option Value}
    {arguments : List Value} {expectation : Expectation}
    (typeClosed : member.declaring.isOpen = false)
    (closes : engine.closeFor member target arguments expectation = .ok closed) :
    closed.declaring = member.declaring := by
  rw [closeFor] at closes
  split at closes
  · split at closes
    · rw [Registry.close, typeClosed, if_neg Bool.false_ne_true, pure_bind] at closes
      exact (Registry.closeMethod_step_keeps closes).2
    · simp at closes
  · rw [Except.ok.inj closes]

/-- The body that a call of a member of a closed type starts belongs to a member of that type. -/
theorem Starts.declaring {member : Member} {target : Option Value} {arguments : List Value}
    {store between : Store} {activation : Activation}
    (starts : engine.Starts (.invoke member target arguments) store activation between)
    (typeClosed : member.declaring.isOpen = false) :
    activation.frame.member.declaring = member.declaring := by
  obtain ⟨call, asked, makes, begins⟩ := starts
  obtain ⟨chosen⟩ := makes
  obtain ⟨_, _, onwards⟩ := bind_eq_ok.mp chosen
  obtain ⟨closed, closes, same⟩ := bind_eq_ok.mp onwards
  rw [← declaring_of_closeFor typeClosed closes]
  obtain rfl := Except.ok.inj same
  split at begins
  · cases begins
    rfl
  · cases begins
    rfl

end Engine

namespace Registry

variable {registry : Registry}

/-- Bodies that fail where they run for a member of one type, and succeed elsewhere. -/
def failsOn (type : Ty) (fault : Fault) : Interpreter :=
  fun _ frame => if frame.member.declaring = type then .fail fault else pure .unit

/-- A call that starts a body fails when the bodies of its declaring type do. -/
theorem run_invoke_failsOn (fault : Fault) {flags : BindingFlags} {run : Interpreter}
    {member : Member} {target : Option Value} {arguments : List Value} {store between : Store}
    {activation : Activation}
    (starts : Engine.Starts ⟨registry, flags, run⟩ (.invoke member target arguments) store
      activation between) (typeClosed : member.declaring.isOpen = false) :
    (Engine.invoke ⟨registry, flags, failsOn member.declaring fault⟩ member target arguments).run
        store =
      some (.error (.rethrown (fault.pushFrame (registry.pathOf activation))), between) := by
  have fails : (failsOn member.declaring fault activation.script activation.frame).run between =
      some (.error fault, between) := by
    rw [failsOn, if_pos (starts.declaring typeClosed)]
    rfl
  have again : Engine.Starts ⟨registry, flags, failsOn member.declaring fault⟩
      (.invoke member target arguments) store activation between := by
    obtain ⟨call, _, ⟨chosen⟩, begins⟩ := starts
    exact ⟨call, _, .first chosen, begins⟩
  exact Execution.run_map_eq_error_iff.mp (Engine.operate_of_starts again fails)

/-- A call of a member of another type does not end with a fault then. -/
theorem fault?_of_failsOn {fault : Fault} {flags : BindingFlags} {type : Ty} {member : Member}
    (typeClosed : member.declaring.isOpen = false) (differs : member.declaring ≠ type)
    {target : Option Value} {arguments : List Value} {store after : Store} {error : Error}
    (failed : (Engine.invoke ⟨registry, flags, failsOn type fault⟩ member target arguments).run
      store = some (.error error, after)) : error.fault? = none := by
  have operated : (Engine.operate ⟨registry, flags, failsOn type fault⟩
      (.invoke member target arguments)).run store = some (.error error, after) :=
    Execution.run_map_eq_error_iff.mpr failed
  rcases Engine.operate_fails operated with free | ⟨call, asked, makes, called⟩
  · exact free
  · rcases Engine.execute_fails called with free | ⟨activation, between, thrown, begins, body, -⟩
    · exact free
    · have home : activation.frame.member.declaring = member.declaring :=
        Engine.Starts.declaring ⟨call, asked, makes, begins⟩ typeClosed
      have succeeds : (failsOn type fault activation.script activation.frame).run between =
          some (.ok .unit, between) := by
        rw [failsOn, if_neg (home ▸ differs)]
        rfl
      rw [succeeds] at body
      simp at body

/-- Bodies can tell members of two types apart, on every call that starts a body of the one. -/
theorem exists_run_invoke_ne {flags : BindingFlags} {run : Interpreter} {member other : Member}
    {target : Option Value} {arguments : List Value} {store between : Store}
    {activation : Activation}
    (starts : Engine.Starts ⟨registry, flags, run⟩ (.invoke member target arguments) store
      activation between) (typeClosed : member.declaring.isOpen = false)
    (otherClosed : other.declaring.isOpen = false) (differs : other.declaring ≠ member.declaring)
    (receiver : Option Value) :
    ∃ bodies, (Engine.invoke ⟨registry, flags, bodies⟩ member target arguments).run store ≠
      (Engine.invoke ⟨registry, flags, bodies⟩ other receiver arguments).run store := by
  let fault : Fault := { kind := "Told", message := "apart" }
  refine ⟨failsOn member.declaring fault, fun same => ?_⟩
  have fails := run_invoke_failsOn fault starts typeClosed
  rw [same] at fails
  have free := fault?_of_failsOn otherClosed differs fails
  simp [Error.fault?] at free

/-! ## Which handlers may stand for each other -/

/-- Two handlers that are the same bind one declaration, seen from instantiations of one definition.
If these are one type, the methods are one and the handlers are called alike. If they are two, then
whenever a call of either starts a body there are bodies with which the other ends differently. In
both cases removing the one from a delegate drops the other, where it is the last of its kind. -/
theorem sameHandler_interchangeable_iff {store : Store} {left right : Handler}
    (leftBound : registry.Bound store left) (rightBound : registry.Bound store right)
    (same : Value.sameHandler left right = true) :
    left.method.declaring.definition? = right.method.declaring.definition? ∧
      (left.method.declaring = right.method.declaring →
        left.method = right.method ∧ registry.Interchangeable left right) ∧
      (left.method.declaring ≠ right.method.declaring →
        ∀ flags run arguments before activation between,
          (Engine.Starts ⟨registry, flags, run⟩ (.invoke left.method left.target arguments) before
              activation between ∨
            Engine.Starts ⟨registry, flags, run⟩ (.invoke right.method right.target arguments)
              before activation between) →
          ∃ bodies,
            (Engine.invoke ⟨registry, flags, bodies⟩ left.method left.target arguments).run before ≠
              (Engine.invoke ⟨registry, flags, bodies⟩ right.method right.target arguments).run
                before) ∧
      ∀ earlier later, (∀ other ∈ later, Value.sameHandler other right = false) →
        Delegate.toValue (Delegate.remove (earlier ++ left :: later) right) =
          Delegate.stored (earlier ++ later) := by
  obtain ⟨sameId, sameArguments, sameTarget⟩ : left.method.id = right.method.id ∧
      left.method.methodArguments = right.method.methodArguments ∧
      Value.sameTarget left.target right.target = true := by
    obtain ⟨target, method⟩ := left
    obtain ⟨other, otherMethod⟩ := right
    simpa [Value.sameHandler, Handler.method, Handler.target, and_assoc] using same
  refine ⟨?_, fun sameType => ?_, fun differs => ?_, fun earlier later absent => ?_⟩
  · rw [leftBound.enumerated.definition?_declaring, rightBound.enumerated.definition?_declaring,
      sameId]
  · have sameMethod := leftBound.enumerated.eq_of_id_eq rightBound.enumerated sameId sameArguments
      sameType
    refine ⟨sameMethod, fun flags run arguments => ?_⟩
    have alike := alikeReceivers_of_sameTarget leftBound.genuine rightBound.genuine sameTarget
    rw [← sameMethod]
    exact Engine.invoke_of_alikeReceivers leftBound.enumerated.describes alike arguments
  · rintro flags run arguments before activation between (starts | starts)
    · exact exists_run_invoke_ne starts leftBound.closed rightBound.closed differs.symm right.target
    · obtain ⟨bodies, apart⟩ :=
        exists_run_invoke_ne starts rightBound.closed leftBound.closed differs left.target
      exact ⟨bodies, apart.symm⟩
  · have loses : Delegate.LosesLast right (earlier ++ left :: later) (earlier ++ later) :=
      .found same absent
    rw [Delegate.toValue_remove, loses.deleteLast]

/-- Tallies of a type, with a static method that says which type it is. -/
def tallies : Registry := .ofDefinitions
  [{ name := "Tally", kind := .classType, generics := ["T"]
     declarations := [{ name := "mark", kind := .method, type := .str, isStatic := true
                        body := .native .typeArguments }] }]

/-- The method of integer tallies and that of string tallies make handlers that are the same. They
answer differently, and removing the one drops the other. -/
theorem tallies_mark_apart :
    let mark (type : Ty) : Member := { name := "mark", kind := .method, type := .str
                                       isStatic := true, body := .native .typeArguments
                                       id := ⟨⟨0⟩, 0⟩, declaring := .named ⟨0⟩ [type] }
    let numbers : Handler := .mk none (mark .i32)
    let names : Handler := .mk none (mark .str)
    let engine : Engine := { registry := tallies, run := tallies.interpreter 1 }
    mark .i32 ∈ tallies.members (.named ⟨0⟩ [.i32]) "mark" .all ∧
      mark .str ∈ tallies.members (.named ⟨0⟩ [.str]) "mark" .all ∧
      Value.sameHandler numbers names = true ∧
      (engine.invoke (mark .i32) none []).run .empty = some (.ok (.text "i32"), .empty) ∧
      (engine.invoke (mark .str) none []).run .empty = some (.ok (.text "str"), .empty) ∧
      (∃ bodies, (Engine.invoke ⟨tallies, .all, bodies⟩ (mark .i32) none []).run .empty ≠
        (Engine.invoke ⟨tallies, .all, bodies⟩ (mark .str) none []).run .empty) ∧
      Delegate.toValue (Delegate.remove [numbers] names) = .null := by
  intro mark numbers names engine
  have listed : ∀ type, mark type ∈ tallies.members (.named ⟨0⟩ [type]) "mark" .all := by
    intro type
    exact List.mem_singleton.mpr rfl
  have bound : ∀ type, type.isOpen = false → tallies.Bound .empty (.mk none (mark type)) := by
    intro type typeClosed
    refine ⟨enumerated_of_mem_members (listed type), ?_, by rintro _ ⟨⟩⟩
    simpa [mark, Handler.method, Ty.isOpen] using typeClosed
  have same : Value.sameHandler numbers names = true := by
    simp [numbers, names, mark, Value.sameHandler, Value.sameTarget]
  have starts : Engine.Starts ⟨tallies, .all, engine.run⟩ (.invoke (mark .i32) none []) .empty
      ⟨.method, .typeArguments, ⟨mark .i32, none, []⟩⟩ .empty :=
    ⟨_, _, .first rfl, .method rfl rfl rfl rfl⟩
  obtain ⟨-, -, apart, drops⟩ :=
    sameHandler_interchangeable_iff (bound .i32 rfl) (bound .str rfl) same
  exact ⟨listed .i32, listed .str, same, rfl, rfl,
    apart (by simp [mark, Handler.method]) _ _ _ _ _ _ (Or.inl starts), drops [] [] (by simp)⟩

end Registry

end LateBinding
