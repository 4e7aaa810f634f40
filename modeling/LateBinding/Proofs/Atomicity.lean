import LateBinding.Proofs.Declarations
import LateBinding.Proofs.HostCalls

/-!
# Failing without a trace

Where an operation fails with an error of its own, and not with the fault of a body, it has run no
body, made no object and written nothing: the checks come before the effects on every path. The law
is carried by two judgments. An execution is silent when it ends at once and leaves the store as it
was, and atomic when it leaves no trace unless it succeeds or fails with the fault of a body. An
atomic execution may follow a silent one, and what cannot fail may follow an atomic one.

Two sorts of operations are not of this kind, because something that may fail comes after a body
was run. One reads the answer in a shape, the other runs the handlers of an event one by one.
-/
namespace LateBinding

/-! ## Silent and atomic executions -/

namespace Execution

variable {ε δ α β : Type}

/-- Whether an execution ends at once, with nothing done and the store as it was. -/
def Silent (execution : Execution ε α) : Prop :=
  ∀ store, ∃ verdict, execution store = { outcome := some (verdict, store) }

/-- Whether an execution that fails does so with the fault of a body, or else with nothing done and
the store as it was. -/
def Atomic (execution : Execution Error α) : Prop :=
  ∀ store error after, execution.run store = some (.error error, after) →
    (∃ fault, error = .rethrown fault) ∨
      execution store = { outcome := some (.error error, store) }

/-- A check is silent, whether it passes or not. -/
theorem silent_ofExcept (verdict : Except ε α) : Silent (ofExcept verdict) :=
  fun _ => ⟨verdict, rfl⟩

/-- A failure is silent by itself. -/
theorem silent_fail (error : ε) : Silent (fail error : Execution ε α) :=
  silent_ofExcept _

/-- So is an answer that is there already. -/
theorem silent_pure (value : α) : Silent (pure value : Execution ε α) :=
  silent_ofExcept _

/-- When a first part returned, the course is that of both. -/
theorem bind_apply_of_returned {first : Execution ε α} {next : α → Execution ε β}
    {store between : Store} {own : List Action} {value : α}
    (returned : first store = ⟨own, some (.ok value, between)⟩) :
    (first >>= next) store =
      ⟨own ++ (next value between).actions, (next value between).outcome⟩ := by
  show andThen first next store = _
  simp [andThen, returned]

/-- When a first part failed, the course is its own. -/
theorem bind_apply_of_failed {first : Execution ε α} {next : α → Execution ε β}
    {store after : Store} {own : List Action} {error : ε}
    (failed : first store = ⟨own, some (.error error, after)⟩) :
    (first >>= next) store = ⟨own, some (.error error, after)⟩ := by
  show andThen first next store = _
  simp [andThen, failed]

/-- When a first part never ends, the rest is not reached. -/
theorem bind_apply_of_exhausted {first : Execution ε α} {next : α → Execution ε β}
    {store : Store} {own : List Action} (endless : first store = ⟨own, none⟩) :
    (first >>= next) store = ⟨own, none⟩ := by
  show andThen first next store = _
  simp [andThen, endless]

/-- After a silent part that returns, the whole goes on as if there had been nothing before. -/
theorem bind_eq_of_returned {first : Execution ε α} {next : α → Execution ε β} {store : Store}
    {value : α} (returned : first store = { outcome := some (.ok value, store) }) :
    (first >>= next) store = next value store := by
  rw [bind_apply_of_returned returned]
  rfl

/-- Silent parts in a row are silent. -/
theorem Silent.bind {first : Execution ε α} {next : α → Execution ε β} (head : Silent first)
    (tail : ∀ value, Silent (next value)) : Silent (first >>= next) := by
  intro store
  obtain ⟨verdict, same⟩ := head store
  cases verdict with
  | error error => exact ⟨.error error, bind_apply_of_failed same⟩
  | ok value => rw [bind_eq_of_returned same]; exact tail value store

/-- A silent execution stays silent under another error. -/
theorem Silent.mapError {execution : Execution ε α} (silent : Silent execution)
    (change : ε → δ) : Silent (execution.mapError change) := by
  intro store
  obtain ⟨verdict, same⟩ := silent store
  exact ⟨verdict.mapError change, by simp [Execution.mapError, same]⟩

/-- What fails silently leaves no trace, so an atomic execution may follow. -/
theorem Silent.atomic_bind {first : Execution Error α} {next : α → Execution Error β}
    (head : Silent first) (tail : ∀ value, Atomic (next value)) : Atomic (first >>= next) := by
  intro store error after failed
  obtain ⟨verdict, same⟩ := head store
  cases verdict with
  | error other =>
    rw [run, bind_apply_of_failed same] at failed
    obtain ⟨rfl, rfl⟩ : other = error ∧ store = after := by simpa using failed
    exact Or.inr (bind_apply_of_failed same)
  | ok value =>
    rw [run, bind_eq_of_returned same] at failed
    rw [bind_eq_of_returned same]
    exact tail value store error after failed

/-- What is silent is atomic: where it fails it has done nothing. -/
theorem Silent.atomic {execution : Execution Error α} (silent : Silent execution) :
    Atomic execution := by
  intro store error after failed
  obtain ⟨verdict, same⟩ := silent store
  rw [run, same] at failed
  obtain ⟨rfl, rfl⟩ : verdict = .error error ∧ store = after := by simpa using failed
  exact Or.inr same

/-- A verdict is silent, and the rest is only reached with its value. -/
theorem atomic_ofExcept_bind {verdict : Except Error α} {next : α → Execution Error β}
    (passed : ∀ value, verdict = .ok value → Atomic (next value)) :
    Atomic (ofExcept verdict >>= next) := by
  cases verdict with
  | error error => exact (silent_fail error).atomic
  | ok value => exact passed value rfl

/-- A change of the value does not make an atomic execution fail. -/
theorem Atomic.map {execution : Execution Error α} (atomic : Atomic execution)
    (change : α → β) : Atomic (change <$> execution) := by
  intro store error after failed
  rw [run_map] at failed
  obtain ⟨⟨verdict, between⟩, outcome, same⟩ := Option.map_eq_some_iff.mp failed
  cases verdict with
  | ok value => simp [Except.map] at same
  | error other =>
    obtain ⟨rfl, rfl⟩ : other = error ∧ between = after := by simpa [Except.map] using same
    rcases atomic store other between outcome with fault | untouched
    · exact Or.inl fault
    · rw [map_eq_pure_bind]
      exact Or.inr (bind_apply_of_failed untouched)

end Execution

/-! ## Calls of the host -/

namespace Engine

variable {engine : Engine}

/-- Whatever the host is called for, it fails with the fault of a body or leaves no trace. -/
theorem atomic_execute (call : Call) : (engine.execute call).Atomic := by
  intro store error after failed
  rw [execute, Execution.run_mapError] at failed
  obtain ⟨⟨verdict, between⟩, outcome, same⟩ := Option.map_eq_some_iff.mp failed
  cases verdict with
  | ok value => simp [Except.mapError] at same
  | error other =>
    obtain ⟨rfl, rfl⟩ : other.unwrapInvocation = error ∧ between = after := by
      simpa [Except.mapError] using same
    rcases Registry.perform_fails outcome with ⟨_, refused⟩ | ⟨_, _, fault, _, _, _, rfl⟩
    · exact Or.inr (by simp [execute, Execution.mapError, refused, Except.mapError])
    · exact Or.inl ⟨_, rfl⟩

/-- Storing the handlers of an event is a single call. -/
theorem atomic_storeSubscribers (field : Member) (target : Value) (delegate : Option Delegate) :
    (engine.storeSubscribers field target delegate).Atomic :=
  (atomic_execute _).map fun _ => ()

/-- Reading a member without accessors leaves no trace in any case. -/
theorem silent_execute_get {member : Member}
    (slot : ∀ getter setter, member.body ≠ .property getter setter) (target : Option Value)
    (indices : List Value) : (engine.execute (.get member target indices)).Silent := by
  refine Execution.Silent.mapError ?_ _
  intro store
  cases engine.registry.performs_perform engine.run (.get member target indices) store with
  | refused error free refused => exact ⟨_, refused⟩
  | read value returned => exact ⟨_, returned⟩
  | wrote other receiver value places after asked => simp at asked
  | started activation between answer starts =>
    cases starts with
    | getter closed received body => exact absurd body (slot _ _)

end Engine

/-! ## Operations -/

/-- Whether an operation makes its calls of the host and is done with the last of them. -/
def Operation.isDirect : Operation → Bool
  | .construct _ _ | .createDefault _ | .getValue _ _ _ | .setValue _ _ _ _ | .setField _ _ _
  | .invoke _ _ _ | .invokeMethod _ _ _ | .invokeStatic _ _ _ | .subscribe _ _ _
  | .unsubscribe _ _ _ => true
  | .constructAs _ _ _ | .getValueAs _ _ _ _ | .getFieldAs _ _ _ | .invokeAs _ _ _ _
  | .invokeMethodAs _ _ _ _ | .raiseEvent _ _ _ => false

namespace Engine

variable {engine : Engine}

/-- A direct operation on a single member hands on whatever the host answers. -/
theorem read_of_isDirect {operation : Operation} (direct : operation.isDirect = true)
    (value : Value) : ∃ answer, engine.read operation value = .ok answer := by
  cases operation <;> first | exact ⟨_, rfl⟩ | simp [Operation.isDirect] at direct

/-- A direct operation on a single member is a choice, which is silent, and one call, after which
nothing can fail any more: the answer is handed on as it is. -/
theorem atomic_operate_single {operation : Operation} (single : operation.isEvent = false)
    (direct : operation.isDirect = true) : (engine.operate operation).Atomic := by
  have readable : ∀ value, ∃ answer, engine.read operation value = .ok answer :=
    read_of_isDirect direct
  choose answer reads using readable
  have handsOn (call : Call) : (do
      let value ← engine.execute call
      Execution.ofExcept (engine.read operation value)) = answer <$> engine.execute call := by
    simp only [reads, map_eq_pure_bind]
    rfl
  simp only [operate_eq single, handsOn]
  exact (Execution.silent_ofExcept _).atomic_bind fun call => (atomic_execute call).map answer

section Events

variable (composed : engine.registry.Composed)
include composed

/-- The field of an event has no accessors. -/
theorem eventField_body {target : Value} {name : String} {field : Member}
    (found : engine.eventField target name = .ok field) (getter setter : Option Script) :
    field.body ≠ .property getter setter := by
  obtain ⟨_, _, hit⟩ := field_of_eventField found
  have isField : field.kind = .field := by simpa using List.find?_some hit
  obtain ⟨type, _, declared, _⟩ := Registry.mem_membersAlong (List.mem_of_find?_eq_some hit)
  exact composed.member_body declared isField getter setter

/-- Looking for the handlers of an event leaves no trace. -/
theorem silent_subscribers {target : Value} {name : String} {field : Member}
    (found : engine.eventField target name = .ok field) :
    (engine.subscribers field target).Silent := by
  refine (silent_execute_get (eventField_body composed found) _ _).bind fun value => ?_
  split
  · exact Execution.silent_pure _
  · exact Execution.silent_pure _
  · exact Execution.silent_fail _

/-- Subscribing reads a field before it writes it. The reading runs no body, as the field has no
accessors, so only the last call leaves a trace. -/
theorem atomic_subscribe (target : Option Value) (name : String) (handler : Handler) :
    (engine.subscribe target name handler).Atomic := by
  refine Execution.atomic_ofExcept_bind fun receiver _ => ?_
  refine Execution.atomic_ofExcept_bind fun _ _ => ?_
  refine Execution.atomic_ofExcept_bind fun field found => ?_
  exact (silent_subscribers composed found).atomic_bind fun _ => atomic_storeSubscribers _ _ _

/-- The same of unsubscribing, which writes nothing where there was no handler. -/
theorem atomic_unsubscribe (target : Option Value) (name : String) (handler : Handler) :
    (engine.unsubscribe target name handler).Atomic := by
  refine Execution.atomic_ofExcept_bind fun receiver _ => ?_
  refine Execution.atomic_ofExcept_bind fun _ _ => ?_
  refine Execution.atomic_ofExcept_bind fun field found => ?_
  refine (silent_subscribers composed found).atomic_bind fun current => ?_
  cases current with
  | none => exact (Execution.silent_pure ()).atomic
  | some handlers => exact atomic_storeSubscribers _ _ _

end Events

/-- A direct operation that fails with an error of its own leaves no trace, of whichever of the two
sorts it is. -/
theorem atomic_operate (composed : engine.registry.Composed) {operation : Operation}
    (direct : operation.isDirect = true) : (engine.operate operation).Atomic := by
  cases single : operation.isEvent with
  | false => exact atomic_operate_single single direct
  | true =>
    cases operation with
    | subscribe target name handler =>
      exact (atomic_subscribe composed target name handler).map fun _ => Answer.done
    | unsubscribe target name handler =>
      exact (atomic_unsubscribe composed target name handler).map fun _ => Answer.done
    | raiseEvent target name arguments => simp [Operation.isDirect] at direct
    | _ => simp [Operation.isEvent] at single

/-- An operation that fails, and not with the fault of a body, has run no body, made no object and
left the store as it was. This holds of constructing, of reading and writing, of every sort of
call, of subscribing and of unsubscribing, for all descriptors, targets and arguments, whatever the
flags and whatever bodies do. -/
theorem operate_leaves_no_trace (composed : engine.registry.Composed) {operation : Operation}
    (direct : operation.isDirect = true) {store after : Store} {error : Error}
    (failed : (engine.operate operation).run store = some (.error error, after))
    (ownError : ∀ fault, error ≠ .rethrown fault) :
    (engine.operate operation).actions store = [] ∧ after = store := by
  rcases atomic_operate composed direct store error after failed with ⟨fault, same⟩ | untouched
  · exact absurd same (ownError fault)
  · rw [Execution.run, untouched] at failed
    obtain ⟨-, same⟩ := Prod.mk.inj (Option.some.inj failed)
    exact ⟨by rw [Execution.actions, untouched], same.symm⟩

/-- Bells with a volume, which tell when they are rung. -/
def bells : Engine where
  registry := .ofDefinitions
    [{ name := "Bell", kind := .classType
       declarations :=
         [{ name := "new", kind := .constructor, body := .native .unit },
          { name := "volume", kind := .field, type := .i32 }] ++ Declaration.event "rung" }]
  run := fun _ _ => .fail { kind := "Broken", message := "no body of a bell can run" }

/-- The bell's event is declared with the field that holds its handlers. -/
theorem bells_composed : bells.registry.Composed := by
  intro definition listed
  obtain rfl := List.mem_singleton.mp listed
  exact .single rfl (.single rfl (.event "rung" .nil))

/-- A bell that is set to a text stays as it is. -/
theorem bells_volume_stays :
    let bell : ObjectRef := ⟨0, .named ⟨0⟩ []⟩
    let store : Store := { objects := [⟨.named ⟨0⟩ [], ⟨[("volume", .int 3), ("rung", .null)]⟩⟩] }
    let louder : Operation := .setField (some (.object bell)) "volume" (.text "loud")
    (bells.operate louder).run store = some (.error (.invalidCast "i32" "str"), store) ∧
      (bells.operate louder).actions store = [] := by
  intro bell store louder
  have refused : (bells.operate louder).run store =
      some (.error (.invalidCast "i32" "str"), store) := rfl
  have untouched := operate_leaves_no_trace bells_composed rfl refused fun _ => Error.noConfusion
  exact ⟨refused, untouched.1⟩

end Engine

end LateBinding
