import LateBinding.Program
import LateBinding.Proofs.Checks

/-!
# Every body runs in a well-typed frame

Four kinds of request reach bodies: constructors make their own receiver, setters get one value
more, and static members lose their receiver. Whatever was asked, the host has checked the frame
before the body starts. The theorem of this module says so of every activation in the course of
a program, at any depth, whatever members, receivers and arguments the program and the bodies
come up with, and whether or not the course ends. No registry is excluded.

A body reaches the host through requests only, so the claim for a depth follows from the one for
the depth below it; `Execution.Does` is the judgment that is carried along.
-/
namespace LateBinding

namespace Activation

/-- The types at which the arguments are declared that a body sees: those of the parameters, and
for a setter the type of the property last. -/
def declaredTypes (activation : Activation) : List Ty :=
  activation.frame.member.parameters ++
    if activation.role = .setter then [activation.frame.member.type] else []

/-- Whether a body runs as its member says: it is the member's own script for the request, the
member is closed, the arguments are as many as declared and fit, and unless the member is static
there is a receiver, which is an instance of the declaring type. -/
structure WellTyped (registry : Registry) (activation : Activation) : Prop where
  script : activation.frame.member.body.script? activation.role = some activation.script
  closed : activation.frame.member.isOpen = false
  arguments : List.Forall₂ registry.Fits activation.declaredTypes activation.frame.arguments
  target : activation.frame.member.isStatic = false → ∃ receiver type,
    activation.frame.target = some receiver ∧ receiver.type? = some type ∧
      registry.isAssignable type activation.frame.member.declaring = true

end Activation

/-- Whether an object that is made has a closed type, and a body that starts a well-typed
frame. -/
def Action.Sound (registry : Registry) : Action → Prop
  | .made object => object.type.isOpen = false
  | .entered activation => activation.WellTyped registry

/-! ## What an execution does -/

namespace Execution

variable {ε δ α β : Type}

/-- Whether everything done in the course of an execution satisfies a predicate. -/
def Does (holds : Action → Prop) (execution : Execution ε α) : Prop :=
  ∀ store, ∀ action ∈ execution.actions store, holds action

variable {holds : Action → Prop}

/-- A verdict does nothing. -/
theorem does_ofExcept (verdict : Except ε α) : Does holds (ofExcept verdict) := by
  simp [Does]

/-- To fail is to do nothing. -/
theorem does_fail (error : ε) : Does holds (fail error : Execution ε α) :=
  does_ofExcept _

/-- A value does nothing. -/
theorem does_pure (value : α) : Does holds (Pure.pure value : Execution ε α) :=
  does_ofExcept (.ok value)

/-- Looking is no action. -/
theorem does_look (view : Store → α) : Does holds (look view : Execution ε α) := by
  simp [Does, actions, look]

/-- Changing slots is no action; making objects and starting bodies are. -/
theorem does_update (change : Store → Store) :
    Does holds (update change : Execution ε Unit) := by
  simp [Does, actions, update]

/-- What runs out of depth at once has done nothing. -/
theorem does_exhausted : Does holds (exhausted : Execution ε α) := by
  simp [Does, actions, exhausted]

/-- Starting a body is the one action of `enter`. -/
theorem does_enter {activation : Activation} (allowed : holds (.entered activation)) :
    Does holds (enter activation : Execution ε Unit) := by
  simpa [Does, actions, enter] using allowed

/-- One execution after the other does what the two do. -/
theorem Does.bind {first : Execution ε α} {next : α → Execution ε β} (head : Does holds first)
    (tail : ∀ value, Does holds (next value)) : Does holds (first >>= next) := by
  intro store action done
  rw [actions_bind] at done
  rcases List.mem_append.mp done with early | late
  · exact head store action early
  · split at late
    · exact tail _ _ action late
    · simp at late

/-- A verdict does nothing, and the rest is only reached with its value. -/
theorem does_ofExcept_bind {verdict : Except ε α} {next : α → Execution ε β}
    (passed : ∀ value, verdict = .ok value → Does holds (next value)) :
    Does holds (ofExcept verdict >>= next) := by
  cases verdict with
  | error error => exact does_fail error
  | ok value => exact passed value rfl

/-- The object that is made has the type it is made with. -/
theorem does_allocate_bind {type : Ty} {slots : Slots} {next : ObjectRef → Execution ε β}
    (allowed : ∀ address, holds (.made ⟨address, type⟩))
    (tail : ∀ address, Does holds (next ⟨address, type⟩)) :
    Does holds (allocate type slots >>= next) := by
  intro store action done
  rw [actions_bind] at done
  rcases List.mem_append.mp done with early | late
  · obtain rfl : action = .made ⟨store.objects.length, type⟩ := by
      simpa [actions, allocate, Store.allocate] using early
    exact allowed _
  · exact tail store.objects.length _ action late

/-- What is made of the value is no action. -/
theorem Does.map {execution : Execution ε α} (does : Does holds execution) (change : α → β) :
    Does holds (change <$> execution) := by
  rw [map_eq_pure_bind]
  exact does.bind fun _ => does_pure _

/-- Nor is what is made of the error. -/
theorem Does.mapError {execution : Execution ε α} (does : Does holds execution)
    (change : ε → δ) : Does holds (execution.mapError change) :=
  does

/-- An execution whose verdict is taken as a value does what it did. -/
theorem Does.attempt {execution : Execution ε α} (does : Does holds execution) :
    Does holds (execution.attempt : Execution δ (Except ε α)) :=
  does

/-- What follows a verdict matters for the value of the verdict only. -/
theorem ofExcept_bind_congr {verdict : Except ε α} {next others : α → Execution ε β}
    (agree : ∀ value, verdict = .ok value → next value = others value) :
    ofExcept verdict >>= next = ofExcept verdict >>= others := by
  cases verdict with
  | error error => rfl
  | ok value => exact agree value rfl

/-- What follows the making of an object matters for objects of its type only. -/
theorem allocate_bind_congr {type : Ty} {slots : Slots} {next others : ObjectRef → Execution ε β}
    (agree : ∀ address, next ⟨address, type⟩ = others ⟨address, type⟩) :
    allocate type slots >>= next = allocate type slots >>= others := by
  funext store
  have here : next ⟨store.objects.length, type⟩ = others ⟨store.objects.length, type⟩ :=
    agree store.objects.length
  show andThen (allocate type slots) next store = andThen (allocate type slots) others store
  simp only [andThen, allocate, Store.allocate, here]

end Execution

/-- Whether running any body in any frame does only what satisfies a predicate. -/
def Interpreter.Does (holds : Action → Prop) (run : Interpreter) : Prop :=
  ∀ script frame, (run script frame).Does holds

/-! ## Calls of the host -/

namespace Registry

variable {registry : Registry}

/-- Reading a field does nothing but look at the store. -/
theorem readField_does (field : Member) (target : Option Value) :
    (registry.readField field target).Does (Action.Sound registry) := by
  rw [readField]
  split
  · exact Execution.does_look _
  · split
    · exact Execution.does_look _
    · exact Execution.does_fail _

/-- Writing a field changes the store, which is no action. -/
theorem writeField_does (field : Member) (target : Option Value) (value : Value) :
    (registry.writeField field target value).Does (Action.Sound registry) := by
  rw [writeField]
  refine Execution.does_ofExcept_bind fun _ _ => ?_
  split
  · exact Execution.does_update _
  · split
    · exact Execution.does_update _
    · exact Execution.does_fail _

/-! ### The frames that the checks let through -/

section Frames

variable {member : Member} {target receiver : Option Value} {arguments : List Value}
  {script : Script} {passed alsoPassed : Unit}

/-- A constructor runs on the object that was made for it. -/
theorem wellTyped_of_construct (closed : registry.checkClosed member = .ok passed)
    (checked : registry.checkArguments member arguments = .ok alsoPassed)
    (body : member.body = .native script) (address : Nat) :
    Activation.WellTyped registry
      ⟨.constructor, script, ⟨member, some (.object ⟨address, member.declaring⟩), arguments⟩⟩ where
  script := by rw [body]; rfl
  closed := checkClosed_eq_ok_iff.mp closed
  arguments := by simpa [Activation.declaredTypes] using fits_of_checkArguments checked
  target _ := ⟨_, _, rfl, rfl, registry.isAssignable_self _⟩

/-- Whatever runs in a role other than that of a setter gets the arguments as they were checked. -/
theorem wellTyped_of_arguments {role : Role} (notSetter : role ≠ .setter)
    (closed : registry.checkClosed member = .ok passed)
    (received : registry.checkTarget member target = .ok receiver)
    (checked : registry.checkArguments member arguments = .ok alsoPassed)
    (own : member.body.script? role = some script) :
    Activation.WellTyped registry ⟨role, script, ⟨member, receiver, arguments⟩⟩ where
  script := own
  closed := checkClosed_eq_ok_iff.mp closed
  arguments := by
    simpa [Activation.declaredTypes, notSetter] using fits_of_checkArguments checked
  target := instance_of_checkTarget received

/-- A setter gets the new value after the indices. -/
theorem wellTyped_of_set {value : Value} {valuePassed : Unit}
    (closed : registry.checkClosed member = .ok passed)
    (received : registry.checkTarget member target = .ok receiver)
    (checked : registry.checkArguments member arguments = .ok alsoPassed)
    (valueChecked : registry.checkValue member.type value = .ok valuePassed)
    (own : member.body.script? .setter = some script) :
    Activation.WellTyped registry ⟨.setter, script, ⟨member, receiver, arguments ++ [value]⟩⟩ where
  script := own
  closed := checkClosed_eq_ok_iff.mp closed
  arguments := List.rel_append (fits_of_checkArguments checked)
    (.cons (fits_of_checkValue valueChecked) .nil)
  target := instance_of_checkTarget received

end Frames

section Calls

variable {run : Interpreter} (bodies : run.Does (Action.Sound registry))
include bodies

/-- A well-typed activation starts its body, which then does what bodies do. -/
theorem activate_does {role : Role} {script : Script} {frame : Frame}
    (wellTyped : Activation.WellTyped registry ⟨role, script, frame⟩) :
    (registry.activate run role script frame).Does (Action.Sound registry) :=
  (Execution.does_enter wellTyped).bind fun _ => (bodies script frame).mapError _

/-- A construction makes an object of a closed type before its body runs. -/
theorem perform_construct_does (constructor : Member) (arguments : List Value) :
    (registry.perform run (.construct constructor arguments)).Does (Action.Sound registry) := by
  rw [perform]
  refine Execution.does_ofExcept_bind fun _ closed => ?_
  refine Execution.does_ofExcept_bind fun _ checked => ?_
  have declaringClosed : constructor.declaring.isOpen = false := by
    have memberClosed := checkClosed_eq_ok_iff.mp closed
    simp only [Member.isOpen, Bool.or_eq_false_iff] at memberClosed
    exact memberClosed.1.1.1
  cases body : constructor.body with
  | native script =>
    refine Execution.does_allocate_bind (fun _ => declaringClosed) fun address => ?_
    have wellTyped := wellTyped_of_construct closed checked body address
    exact (activate_does bodies wellTyped).bind fun _ => Execution.does_pure _
  | _ => exact Execution.does_fail _

/-- A method runs after all three checks. -/
theorem perform_invoke_does (method : Member) (target : Option Value) (arguments : List Value) :
    (registry.perform run (.invoke method target arguments)).Does (Action.Sound registry) := by
  rw [perform]
  refine Execution.does_ofExcept_bind fun _ closed => ?_
  refine Execution.does_ofExcept_bind fun receiver received => ?_
  refine Execution.does_ofExcept_bind fun _ checked => ?_
  cases body : method.body with
  | native script =>
    have own : method.body.script? .method = some script := by rw [body]; rfl
    exact activate_does bodies (wellTyped_of_arguments (by decide) closed received checked own)
  | _ => exact Execution.does_fail _

/-- Reading looks at a field or runs a getter. -/
theorem perform_get_does (member : Member) (target : Option Value) (indices : List Value) :
    (registry.perform run (.get member target indices)).Does (Action.Sound registry) := by
  rw [perform]
  refine Execution.does_ofExcept_bind fun _ closed => ?_
  refine Execution.does_ofExcept_bind fun receiver received => ?_
  cases body : member.body with
  | field => exact readField_does member receiver
  | property getter setter =>
    cases getter with
    | none => exact Execution.does_fail _
    | some getter =>
      refine Execution.does_ofExcept_bind fun _ checked => ?_
      have own : member.body.script? .getter = some getter := by rw [body]; rfl
      exact activate_does bodies (wellTyped_of_arguments (by decide) closed received checked own)
  | _ => exact Execution.does_fail _

/-- Writing changes a field or runs a setter. -/
theorem perform_set_does (member : Member) (target : Option Value) (value : Value)
    (indices : List Value) :
    (registry.perform run (.set member target value indices)).Does (Action.Sound registry) := by
  rw [perform]
  refine Execution.does_ofExcept_bind fun _ closed => ?_
  refine Execution.does_ofExcept_bind fun receiver received => ?_
  cases body : member.body with
  | field => exact (writeField_does member receiver value).bind fun _ => Execution.does_pure _
  | property getter setter =>
    cases setter with
    | none => exact Execution.does_fail _
    | some setter =>
      refine Execution.does_ofExcept_bind fun _ checked => ?_
      refine Execution.does_ofExcept_bind fun _ valueChecked => ?_
      have own : member.body.script? .setter = some setter := by rw [body]; rfl
      have wellTyped := wellTyped_of_set closed received checked valueChecked own
      exact (activate_does bodies wellTyped).bind fun _ => Execution.does_pure _
  | _ => exact Execution.does_fail _

/-- Every call of the host starts bodies in well-typed frames only. -/
theorem perform_does (call : Call) :
    (registry.perform run call).Does (Action.Sound registry) := by
  cases call with
  | construct constructor arguments => exact perform_construct_does bodies constructor arguments
  | invoke method target arguments => exact perform_invoke_does bodies method target arguments
  | get member target indices => exact perform_get_does bodies member target indices
  | set member target value indices => exact perform_set_does bodies member target value indices

end Calls

/-! ### The frame that is recorded is the one that the body sees -/

section Alike

variable {run other : Interpreter} (alike : ∀ activation : Activation,
  activation.WellTyped registry →
    run activation.script activation.frame = other activation.script activation.frame)
include alike

/-- A body is run with the frame of the activation and with nothing else. -/
theorem activate_alike {role : Role} {script : Script} {frame : Frame}
    (wellTyped : Activation.WellTyped registry ⟨role, script, frame⟩) :
    registry.activate run role script frame = registry.activate other role script frame := by
  have same : run script frame = other script frame := alike ⟨role, script, frame⟩ wellTyped
  rw [activate, activate, same]

/-- A construction makes its object alike and starts the body on it with the checked arguments. -/
theorem perform_construct_alike (constructor : Member) (arguments : List Value) :
    registry.perform run (.construct constructor arguments) =
      registry.perform other (.construct constructor arguments) := by
  rw [perform, perform]
  refine Execution.ofExcept_bind_congr fun _ closed => ?_
  refine Execution.ofExcept_bind_congr fun _ checked => ?_
  cases body : constructor.body with
  | native script =>
    refine Execution.allocate_bind_congr fun address => ?_
    have wellTyped := wellTyped_of_construct closed checked body address
    simp only [activate_alike alike wellTyped]
  | _ => rfl

/-- A method is started with the receiver and the arguments that were checked. -/
theorem perform_invoke_alike (method : Member) (target : Option Value) (arguments : List Value) :
    registry.perform run (.invoke method target arguments) =
      registry.perform other (.invoke method target arguments) := by
  rw [perform, perform]
  refine Execution.ofExcept_bind_congr fun _ closed => ?_
  refine Execution.ofExcept_bind_congr fun receiver received => ?_
  refine Execution.ofExcept_bind_congr fun _ checked => ?_
  cases body : method.body with
  | native script =>
    have own : method.body.script? .method = some script := by rw [body]; rfl
    exact activate_alike alike (wellTyped_of_arguments (by decide) closed received checked own)
  | _ => rfl

/-- So is a getter, with the indices for arguments. A field is read without any body. -/
theorem perform_get_alike (member : Member) (target : Option Value) (indices : List Value) :
    registry.perform run (.get member target indices) =
      registry.perform other (.get member target indices) := by
  rw [perform, perform]
  refine Execution.ofExcept_bind_congr fun _ closed => ?_
  refine Execution.ofExcept_bind_congr fun receiver received => ?_
  cases body : member.body with
  | property getter setter =>
    cases getter with
    | none => rfl
    | some getter =>
      refine Execution.ofExcept_bind_congr fun _ checked => ?_
      have own : member.body.script? .getter = some getter := by rw [body]; rfl
      exact activate_alike alike (wellTyped_of_arguments (by decide) closed received checked own)
  | _ => rfl

/-- A setter gets the value behind the indices, once both were checked. -/
theorem perform_set_alike (member : Member) (target : Option Value) (value : Value)
    (indices : List Value) :
    registry.perform run (.set member target value indices) =
      registry.perform other (.set member target value indices) := by
  rw [perform, perform]
  refine Execution.ofExcept_bind_congr fun _ closed => ?_
  refine Execution.ofExcept_bind_congr fun receiver received => ?_
  cases body : member.body with
  | property getter setter =>
    cases setter with
    | none => rfl
    | some setter =>
      refine Execution.ofExcept_bind_congr fun _ checked => ?_
      refine Execution.ofExcept_bind_congr fun _ valueChecked => ?_
      have own : member.body.script? .setter = some setter := by rw [body]; rfl
      have wellTyped := wellTyped_of_set closed received checked valueChecked own
      simp only [activate_alike alike wellTyped]
  | _ => rfl

/-- What the host does for a call depends on what bodies do in well-typed frames and on nothing
else: interpreters that agree there cannot be told apart. -/
theorem perform_alike (call : Call) : registry.perform run call = registry.perform other call := by
  cases call with
  | construct constructor arguments => exact perform_construct_alike alike constructor arguments
  | invoke method target arguments => exact perform_invoke_alike alike method target arguments
  | get member target indices => exact perform_get_alike alike member target indices
  | set member target value indices => exact perform_set_alike alike member target value indices

end Alike

end Registry

/-! ## Operations of the engine -/

namespace Engine

variable {engine : Engine} (bodies : engine.run.Does (Action.Sound engine.registry))
include bodies

/-- Taking a layer off the error of a call does nothing further. -/
theorem execute_does (call : Call) : (engine.execute call).Does (Action.Sound engine.registry) :=
  (Registry.perform_does bodies call).mapError _

/-- A construction is one call, of the constructor that was selected and closed. -/
theorem construct_does (type : Ty) (arguments : List Value) :
    (engine.construct type arguments).Does (Action.Sound engine.registry) := by
  rw [construct]
  split
  · exact Execution.does_fail _
  · exact Execution.does_ofExcept_bind fun _ _ => execute_does bodies _

/-- A reading is one call, of the closed descriptor. -/
theorem getExpecting_does (member : Member) (target : Option Value) (indices : List Value)
    (expected : Option Ty) :
    (engine.getExpecting member target indices expected).Does (Action.Sound engine.registry) :=
  Execution.does_ofExcept_bind fun _ _ => Execution.does_ofExcept_bind fun _ _ =>
    execute_does bodies _

/-- A writing is one call, and its answer is dropped. -/
theorem setValue_does (member : Member) (target : Option Value) (value : Value)
    (indices : List Value) :
    (engine.setValue member target value indices).Does (Action.Sound engine.registry) :=
  Execution.does_ofExcept_bind fun _ _ => Execution.does_ofExcept_bind fun _ _ =>
    (execute_does bodies _).bind fun _ => Execution.does_pure _

/-- A call by descriptor is a construction or a call of a method, as the closed descriptor says. -/
theorem invokeExpecting_does (member : Member) (target : Option Value) (arguments : List Value)
    (expected : Option Ty) :
    (engine.invokeExpecting member target arguments expected).Does
      (Action.Sound engine.registry) := by
  refine Execution.does_ofExcept_bind fun _ _ => Execution.does_ofExcept_bind fun closed _ => ?_
  split
  · exact execute_does bodies _
  · exact execute_does bodies _

/-- A call by name is one call, of the member that was resolved. -/
theorem invokeMethodExpecting_does (target : Option Value) (name : String)
    (arguments : List Value) (expected : Option Ty) :
    (engine.invokeMethodExpecting target name arguments expected).Does
      (Action.Sound engine.registry) :=
  Execution.does_ofExcept_bind fun _ _ => Execution.does_ofExcept_bind fun _ _ =>
    Execution.does_ofExcept_bind fun _ _ => execute_does bodies _

/-- So is a static call by name. -/
theorem invokeStatic_does (type : Ty) (name : String) (arguments : List Value) :
    (engine.invokeStatic type name arguments).Does (Action.Sound engine.registry) :=
  Execution.does_ofExcept_bind fun _ _ => Execution.does_ofExcept_bind fun _ _ =>
    execute_does bodies _

/-- The handlers of an event are found by reading its field. -/
theorem subscribers_does (field : Member) (target : Value) :
    (engine.subscribers field target).Does (Action.Sound engine.registry) := by
  refine (execute_does bodies _).bind fun value => ?_
  split
  · exact Execution.does_pure _
  · exact Execution.does_pure _
  · exact Execution.does_fail _

/-- They are stored by writing it. -/
theorem storeSubscribers_does (field : Member) (target : Value) (delegate : Option Delegate) :
    (engine.storeSubscribers field target delegate).Does (Action.Sound engine.registry) :=
  (execute_does bodies _).bind fun _ => Execution.does_pure _

/-- Handlers are called one by one, each by its descriptor. The induction is on the handlers that
are left. -/
theorem runHandlers_does (arguments : List Value) (handlers : Delegate) :
    (engine.runHandlers arguments handlers).Does (Action.Sound engine.registry) := by
  induction handlers with
  | nil => exact Execution.does_pure _
  | cons handler rest inductionHypothesis =>
    exact (invokeExpecting_does bodies _ _ _ _).bind fun _ => inductionHypothesis

/-- Raising an event reads its field and calls what was found there. -/
theorem raiseEvent_does (target : Option Value) (name : String) (arguments : List Value) :
    (engine.raiseEvent target name arguments).Does (Action.Sound engine.registry) := by
  refine Execution.does_ofExcept_bind fun receiver _ => Execution.does_ofExcept_bind fun _ _ =>
    Execution.does_ofExcept_bind fun field _ => ?_
  refine (subscribers_does bodies field receiver).bind fun current => ?_
  cases current with
  | none => exact Execution.does_pure _
  | some handlers => exact runHandlers_does bodies _ _

/-- Subscribing reads the field and writes it. -/
theorem subscribe_does (target : Option Value) (name : String) (handler : Handler) :
    (engine.subscribe target name handler).Does (Action.Sound engine.registry) := by
  refine Execution.does_ofExcept_bind fun receiver _ => Execution.does_ofExcept_bind fun _ _ =>
    Execution.does_ofExcept_bind fun field _ => ?_
  exact (subscribers_does bodies field receiver).bind fun _ => storeSubscribers_does bodies _ _ _

/-- Unsubscribing writes the field only if there was a handler to begin with. -/
theorem unsubscribe_does (target : Option Value) (name : String) (handler : Handler) :
    (engine.unsubscribe target name handler).Does (Action.Sound engine.registry) := by
  refine Execution.does_ofExcept_bind fun receiver _ => Execution.does_ofExcept_bind fun _ _ =>
    Execution.does_ofExcept_bind fun field _ => ?_
  refine (subscribers_does bodies field receiver).bind fun current => ?_
  cases current with
  | none => exact Execution.does_pure _
  | some handlers => exact storeSubscribers_does bodies _ _ _

omit bodies in
/-- Reading the answer of an execution at a type does nothing more. -/
theorem andRead_does (shape : ResultShape) {execution : Execution Error Value}
    (does : execution.Does (Action.Sound engine.registry)) :
    (engine.andRead shape execution).Does (Action.Sound engine.registry) :=
  does.bind fun _ => Execution.does_ofExcept _

/-- Reading the field of a name does what reading the member does that is found. -/
theorem getFieldAs_does (shape : ResultShape) (target : Option Value) (name : String) :
    (engine.getFieldAs shape target name).Does (Action.Sound engine.registry) := by
  refine Execution.does_ofExcept_bind fun receiver _ => Execution.does_ofExcept_bind fun _ _ =>
    Execution.does_ofExcept_bind fun field _ => ?_
  exact andRead_does shape (getExpecting_does bodies field (some receiver) [] none)

/-- Writing the field of a name does what writing the member does that is found. -/
theorem setField_does (target : Option Value) (name : String) (value : Value) :
    (engine.setField target name value).Does (Action.Sound engine.registry) := by
  refine Execution.does_ofExcept_bind fun receiver _ => Execution.does_ofExcept_bind fun _ _ =>
    Execution.does_ofExcept_bind fun field _ => ?_
  exact setValue_does bodies field (some receiver) value []

/-- Every operation does only what bodies and the host do. -/
theorem operate_does (operation : Operation) :
    (engine.operate operation).Does (Action.Sound engine.registry) := by
  cases operation with
  | construct type arguments => exact (construct_does bodies _ _).map _
  | constructAs shape type arguments => exact (andRead_does shape (construct_does bodies _ _)).map _
  | createDefault type => exact (construct_does bodies _ _).map _
  | getValue member target indices => exact (getExpecting_does bodies _ _ _ _).map _
  | getValueAs shape member target indices =>
    exact (andRead_does shape (getExpecting_does bodies _ _ _ _)).map _
  | setValue member target value indices =>
    exact (setValue_does bodies _ _ _ _).bind fun _ => Execution.does_pure _
  | getFieldAs shape target name => exact (getFieldAs_does bodies _ _ _).map _
  | setField target name value =>
    exact (setField_does bodies _ _ _).bind fun _ => Execution.does_pure _
  | invoke member target arguments => exact (invokeExpecting_does bodies _ _ _ _).map _
  | invokeAs shape member target arguments =>
    exact (andRead_does shape (invokeExpecting_does bodies _ _ _ _)).map _
  | invokeMethod target name arguments => exact (invokeMethodExpecting_does bodies _ _ _ _).map _
  | invokeMethodAs shape target name arguments =>
    exact (andRead_does shape (invokeMethodExpecting_does bodies _ _ _ _)).map _
  | invokeStatic type name arguments => exact (invokeStatic_does bodies _ _ _).map _
  | raiseEvent target name arguments =>
    exact (raiseEvent_does bodies _ _ _).bind fun _ => Execution.does_pure _
  | subscribe target name handler =>
    exact (subscribe_does bodies _ _ _).bind fun _ => Execution.does_pure _
  | unsubscribe target name handler =>
    exact (unsubscribe_does bodies _ _ _).bind fun _ => Execution.does_pure _

end Engine

/-! ## Bodies -/

namespace Script

open Execution

variable {holds : Action → Prop} {registry : Registry} {answer : Request → Execution Error Value}

mutual

/-- A script does what its requests are answered with. -/
theorem evaluate_does (answers : ∀ request, (answer request).Does holds) (frame : Frame) :
    ∀ script : Script, (script.evaluate registry answer frame).Does holds
  | .literal _ | .argument _ | .target | .typeArguments | .methodArguments | .path
  | .argumentCount => by
    rw [evaluate]
    exact does_pure _
  | .self => by
    rw [evaluate]
    exact does_ofExcept_bind fun _ _ => does_pure _
  | .getSlot _ => by
    rw [evaluate]
    exact does_ofExcept_bind fun _ _ => does_look _
  | .setSlot _ content => by
    rw [evaluate]
    exact (evaluate_does answers frame content).bind fun _ => does_ofExcept_bind fun _ _ =>
      (does_update _).bind fun _ => does_pure _
  | .sequence steps => by
    rw [evaluate]
    exact (evaluateAll_does answers frame steps).bind fun _ => does_pure _
  | .fault _ _ => by
    rw [evaluate]
    exact does_fail _
  | .ifNull scrutinee whenNull otherwise => by
    rw [evaluate]
    refine (evaluate_does answers frame scrutinee).bind fun value => ?_
    split
    · exact evaluate_does answers frame whenNull
    · exact evaluate_does answers frame otherwise
  | .add _ left right | .divide left right | .repeatText left right => by
    rw [evaluate]
    exact (evaluate_does answers frame left).bind fun _ =>
      (evaluate_does answers frame right).bind fun _ => does_ofExcept _
  | .concat parts => by
    rw [evaluate]
    exact (evaluateAll_does answers frame parts).bind fun _ => does_look _
  | .display content => by
    rw [evaluate]
    exact (evaluate_does answers frame content).bind fun _ => does_look _
  | .typeName content => by
    rw [evaluate]
    exact (evaluate_does answers frame content).bind fun _ => does_pure _
  | .callMethod receiver _ arguments | .raise receiver _ arguments => by
    rw [evaluate]
    exact (evaluate_does answers frame receiver).bind fun _ =>
      (evaluateAll_does answers frame arguments).bind fun _ => (answers _).mapError _
  | .callStatic _ _ arguments | .construct _ arguments => by
    rw [evaluate]
    exact (evaluateAll_does answers frame arguments).bind fun _ => (answers _).mapError _

/-- Scripts in a row do what each of them does, up to the first that fails. -/
theorem evaluateAll_does (answers : ∀ request, (answer request).Does holds) (frame : Frame) :
    ∀ scripts : List Script, (evaluateAll registry answer frame scripts).Does holds
  | [] => by
    rw [evaluateAll]
    exact does_pure _
  | script :: rest => by
    rw [evaluateAll]
    exact (evaluate_does answers frame script).bind fun _ =>
      (evaluateAll_does answers frame rest).bind fun _ => does_pure _

end

end Script

/-- The answer to a request of a script is an operation of the engine. -/
theorem Engine.answer_does {engine : Engine}
    (bodies : engine.run.Does (Action.Sound engine.registry)) (request : Request) :
    (engine.answer request).Does (Action.Sound engine.registry) := by
  cases request with
  | callMethod target name arguments => exact invokeMethodExpecting_does bodies _ _ _ _
  | callStatic type name arguments => exact invokeStatic_does bodies _ _ _
  | construct type arguments => exact construct_does bodies _ _
  | raise target event arguments =>
    exact (raiseEvent_does bodies _ _ _).bind fun _ => Execution.does_pure _

/-- What a program does is what its requests do. -/
theorem Program.execute_does {ε α : Type} {registry : Registry} {run : Interpreter}
    (bodies : run.Does (Action.Sound registry)) (program : Program ε α) :
    (program.execute registry run).Does (Action.Sound registry) := by
  induction program with
  | done verdict => exact Execution.does_ofExcept _
  | look next inductionHypothesis => exact (Execution.does_look _).bind inductionHypothesis
  | change edit next inductionHypothesis =>
    exact (Execution.does_update _).bind fun _ => inductionHypothesis
  | call request next inductionHypothesis =>
    exact (Registry.perform_does bodies request).attempt.bind inductionHypothesis
  | operate flags operation next inductionHypothesis =>
    have operationDoes : (Engine.operate { registry, flags, run } operation).Does
        (Action.Sound registry) := Engine.operate_does bodies operation
    exact operationDoes.attempt.bind inductionHypothesis

namespace Registry

variable (registry : Registry)

/-- Scripts do only what is sound, to any depth. -/
theorem interpreter_does (depth : Nat) :
    (registry.interpreter depth).Does (Action.Sound registry) := by
  induction depth with
  | zero => exact fun _ _ => Execution.does_exhausted
  | succ depth inductionHypothesis =>
    exact fun script frame =>
      script.evaluate_does (fun request => Engine.answer_does inductionHypothesis request) frame

/-- So do bodies that are programs. -/
theorem programInterpreter_does (bodies : Script → Frame → Program Fault Value) (depth : Nat) :
    (registry.programInterpreter bodies depth).Does (Action.Sound registry) := by
  induction depth with
  | zero => exact fun _ _ => Execution.does_exhausted
  | succ depth inductionHypothesis =>
    exact fun script frame => Program.execute_does inductionHypothesis (bodies script frame)

/-- Every body runs in a well-typed frame, and every object is made with a closed type. This
holds in the course of every program, from every store, whether bodies are scripts or are
programs again that may do what they like, and however deep they call one another. The frame that
is recorded is the one that the body gets: for no call does it matter what an interpreter does
outside of well-typed frames.

Proof: by induction on the depth. A body asks for operations and calls, each of them reaches bodies
through the host alone, and the host starts a body after the checks that make its frame well
typed. -/
theorem actions_sound {ε α : Type} (program : Program ε α) (depth : Nat) (store : Store) :
    (∀ action ∈ (program.execute registry (registry.interpreter depth)).actions store,
      action.Sound registry) ∧
    (∀ bodies : Script → Frame → Program Fault Value,
      ∀ action ∈ (program.execute registry (registry.programInterpreter bodies depth)).actions
        store, action.Sound registry) ∧
    ∀ run other : Interpreter,
      (∀ activation : Activation, activation.WellTyped registry →
        run activation.script activation.frame = other activation.script activation.frame) →
      ∀ call, registry.perform run call = registry.perform other call := by
  refine ⟨?_, ?_, ?_⟩
  · exact program.execute_does (registry.interpreter_does depth) store
  · exact fun bodies => program.execute_does (registry.programInterpreter_does bodies depth) store
  · exact fun run other alike call => perform_alike alike call

/-- Making an object of a class with a constructor: the object first, then the body, which sees
it. -/
example (store : Store) :
    let gauges : Registry := .ofDefinitions
      [{ name := "Gauge", kind := .classType
         declarations := [{ name := "new", kind := .constructor, body := .native .unit }] }]
    let engine : Engine := { registry := gauges, run := gauges.interpreter 1 }
    let role : Action → Option Role
      | .made _ => none
      | .entered activation => some activation.role
    ((engine.createDefault (.named ⟨0⟩ [])).actions store).map role = [none, some .constructor] :=
  rfl

end Registry

end LateBinding
