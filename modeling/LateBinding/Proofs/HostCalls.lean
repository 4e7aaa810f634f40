import LateBinding.Proofs.Refusals

/-!
# What a call of the host can do

A call is refused by a check before anything is done, or it reads or writes the slot of a field, or
it starts the body of its member, and there is nothing else (`performs_perform`). Statements about
failures rest on this: a refusal has an error without a fault and leaves no trace, and a call whose
body was started fails only as that body fails.

`Registry.Starts` describes the third case: which body starts in which frame, and with which store.
-/
namespace LateBinding

namespace Registry

variable {registry : Registry}

/-! ## Bodies that are started -/

/-- The member whose body an activation runs, by its path. -/
def pathOf (registry : Registry) (activation : Activation) : String :=
  registry.memberPath activation.frame.member

/-- Whether a call, executed with a store, starts the body of its member, and with which store. All
checks have passed by then, and a constructor has its new object. -/
inductive Starts (registry : Registry) : Call → Store → Activation → Store → Prop
  | constructor {constructor : Member} {arguments : List Value} {script : Script}
      {store after : Store} {object : ObjectRef} :
    registry.checkClosed constructor = .ok () →
    registry.checkArguments constructor arguments = .ok () →
    constructor.body = .native script →
    store.allocate constructor.declaring (registry.fieldSlots constructor.declaring) =
      (object, after) →
    Starts registry (.construct constructor arguments) store
      ⟨.constructor, script, ⟨constructor, some (.object object), arguments⟩⟩ after
  | method {method : Member} {target receiver : Option Value} {arguments : List Value}
      {script : Script} {store : Store} :
    registry.checkClosed method = .ok () →
    registry.checkTarget method target = .ok receiver →
    registry.checkArguments method arguments = .ok () →
    method.body = .native script →
    Starts registry (.invoke method target arguments) store
      ⟨.method, script, ⟨method, receiver, arguments⟩⟩ store
  | getter {member : Member} {target receiver : Option Value} {indices : List Value}
      {script : Script} {setter : Option Script} {store : Store} :
    registry.checkClosed member = .ok () →
    registry.checkTarget member target = .ok receiver →
    member.body = .property (some script) setter →
    registry.checkArguments member indices = .ok () →
    Starts registry (.get member target indices) store
      ⟨.getter, script, ⟨member, receiver, indices⟩⟩ store
  | setter {member : Member} {target receiver : Option Value} {value : Value}
      {indices : List Value} {script : Script} {getter : Option Script} {store : Store} :
    registry.checkClosed member = .ok () →
    registry.checkTarget member target = .ok receiver →
    member.body = .property getter (some script) →
    registry.checkArguments member indices = .ok () →
    registry.checkValue member.type value = .ok () →
    Starts registry (.set member target value indices) store
      ⟨.setter, script, ⟨member, receiver, indices ++ [value]⟩⟩ store

/-- The ways in which the execution of a call with a store may go. -/
inductive Performs (registry : Registry) (run : Interpreter) (call : Call) (store : Store)
    (execution : Execution Error Value) : Prop
  /-- A check refuses the call before anything is done. -/
  | refused (error : Error) : error.fault? = none →
    execution store = { outcome := some (.error error, store) } →
    Performs registry run call store execution
  /-- A field is read. -/
  | read (value : Value) : execution store = { outcome := some (.ok value, store) } →
    Performs registry run call store execution
  /-- A field is written. -/
  | wrote (member : Member) (target : Option Value) (value : Value) (indices : List Value)
      (after : Store) : call = .set member target value indices →
    execution store = { outcome := some (.ok .unit, after) } →
    Performs registry run call store execution
  /-- The body of the member is started, and the call ends as the body ends. -/
  | started (activation : Activation) (between : Store) (answer : Value → Value) :
    registry.Starts call store activation between →
    .entered activation ∈ execution.actions store →
    execution.run store = (answer <$>
      registry.activate run activation.role activation.script activation.frame).run between →
    Performs registry run call store execution

variable {run : Interpreter} {call : Call} {store : Store}

/-- A check that fails refuses the call. -/
theorem performs_ofExcept_bind {α : Type} {verdict : Except Error α}
    {next : α → Execution Error Value} (free : FaultFree verdict)
    (passed : ∀ value, verdict = .ok value → registry.Performs run call store (next value)) :
    registry.Performs run call store (.ofExcept verdict >>= next) := by
  cases verdict with
  | error error => exact .refused error (free error rfl) rfl
  | ok value => exact passed value rfl

/-- A failure that carries no fault is a refusal. -/
theorem performs_fail {error : Error} (free : error.fault? = none) :
    registry.Performs run call store (.fail error) :=
  .refused error free rfl

/-- That a body is started is recorded, whatever comes of it. -/
theorem entered_mem_activate (run : Interpreter) (activation : Activation) (store : Store) :
    .entered activation ∈
      (registry.activate run activation.role activation.script activation.frame).actions store := by
  rw [activate, Execution.actions_bind]
  exact List.mem_append_left _ (List.mem_singleton_self _)

/-- A body is started, and its value becomes the answer of the call. -/
theorem performs_activate (run : Interpreter) (store : Store) {activation : Activation}
    (answer : Value → Value) (starts : registry.Starts call store activation store) :
    registry.Performs run call store (answer <$>
      registry.activate run activation.role activation.script activation.frame) := by
  refine .started activation store answer starts ?_ rfl
  rw [map_eq_pure_bind, Execution.actions_bind]
  exact List.mem_append_left _ (entered_mem_activate run activation store)

/-- A construction is refused or starts its body on a new object. It answers with the object
whatever the body answers. -/
theorem performs_construct (constructor : Member) (arguments : List Value) :
    registry.Performs run (.construct constructor arguments) store
      (registry.perform run (.construct constructor arguments)) := by
  rw [perform]
  refine performs_ofExcept_bind (checkClosed_faultFree constructor) fun _ closed => ?_
  refine performs_ofExcept_bind (checkArguments_faultFree _ _) fun _ counted => ?_
  cases body : constructor.body with
  | native script =>
    let made := store.allocate constructor.declaring (registry.fieldSlots constructor.declaring)
    refine .started _ _ (fun _ => .object made.1) (.constructor closed counted body rfl) ?_ ?_
    · rw [Execution.actions_bind]
      refine List.mem_append_right _ ?_
      show _ ∈ Execution.actions (_ >>= _) made.2
      rw [Execution.actions_bind]
      exact List.mem_append_left _ (entered_mem_activate run _ _)
    · rw [map_eq_pure_bind]
      exact Execution.run_bind _ _ store
  | _ => exact performs_fail rfl

/-- A call is refused or starts the body of the method. -/
theorem performs_invoke (method : Member) (target : Option Value) (arguments : List Value) :
    registry.Performs run (.invoke method target arguments) store
      (registry.perform run (.invoke method target arguments)) := by
  rw [perform]
  refine performs_ofExcept_bind (checkClosed_faultFree method) fun _ closed => ?_
  refine performs_ofExcept_bind (checkTarget_faultFree _ _) fun receiver received => ?_
  refine performs_ofExcept_bind (checkArguments_faultFree _ _) fun _ counted => ?_
  cases body : method.body with
  | native script =>
    simpa using performs_activate run store id (.method closed received counted body)
  | _ => exact performs_fail rfl

/-- A reading is refused, reads a field or starts a getter. -/
theorem performs_get (member : Member) (target : Option Value) (indices : List Value) :
    registry.Performs run (.get member target indices) store
      (registry.perform run (.get member target indices)) := by
  rw [perform]
  refine performs_ofExcept_bind (checkClosed_faultFree member) fun _ closed => ?_
  refine performs_ofExcept_bind (checkTarget_faultFree _ _) fun receiver received => ?_
  cases body : member.body with
  | field =>
    show registry.Performs run _ store (registry.readField member receiver)
    rw [readField]
    split
    · exact .read _ rfl
    · split
      · exact .read _ rfl
      · exact performs_fail rfl
  | property getter setter =>
    cases getter with
    | none => exact performs_fail rfl
    | some script =>
      refine performs_ofExcept_bind (checkArguments_faultFree _ _) fun _ counted => ?_
      simpa using performs_activate run store id (.getter closed received body counted)
  | _ => exact performs_fail rfl

/-- A writing is refused, writes a field or starts a setter. It has no answer in any case. -/
theorem performs_set (member : Member) (target : Option Value) (value : Value)
    (indices : List Value) :
    registry.Performs run (.set member target value indices) store
      (registry.perform run (.set member target value indices)) := by
  rw [perform]
  refine performs_ofExcept_bind (checkClosed_faultFree member) fun _ closed => ?_
  refine performs_ofExcept_bind (checkTarget_faultFree _ _) fun receiver received => ?_
  cases body : member.body with
  | field =>
    show registry.Performs run _ store (registry.writeField member receiver value >>= _)
    rw [writeField, bind_assoc]
    refine performs_ofExcept_bind (checkValue_faultFree _ _) fun _ fits => ?_
    split
    · exact .wrote _ _ _ _ _ rfl rfl
    · split
      · exact .wrote _ _ _ _ _ rfl rfl
      · exact performs_fail rfl
  | property getter setter =>
    cases setter with
    | none => exact performs_fail rfl
    | some script =>
      refine performs_ofExcept_bind (checkArguments_faultFree _ _) fun _ counted => ?_
      refine performs_ofExcept_bind (checkValue_faultFree _ _) fun _ fits => ?_
      have started := performs_activate run store (fun _ => .unit)
        (.setter closed received body counted fits)
      rwa [map_eq_pure_bind] at started
  | _ => exact performs_fail rfl

/-- A call that starts a body goes on as the body does. -/
theorem run_perform_of_starts (run : Interpreter) {activation : Activation} {between : Store}
    (starts : registry.Starts call store activation between) :
    ∃ answer : Value → Value, (registry.perform run call).run store = (answer <$>
      registry.activate run activation.role activation.script activation.frame).run between := by
  cases starts with
  | @constructor constructor arguments script _ _ object closed counted body made =>
    refine ⟨fun _ => .object object, ?_⟩
    have allocated : (Execution.allocate constructor.declaring
        (registry.fieldSlots constructor.declaring) : Execution Error ObjectRef).run store =
        some (.ok object, between) := by
      simp only [Execution.run, Execution.allocate, made]
    rw [perform, closed, counted, Execution.ofExcept_ok_bind, Execution.ofExcept_ok_bind, body,
      map_eq_pure_bind]
    exact Execution.run_bind_ok allocated
  | method closed received counted body =>
    refine ⟨id, ?_⟩
    rw [perform, closed, received, counted, body, id_map]
    rfl
  | getter closed received body counted =>
    refine ⟨id, ?_⟩
    rw [perform, closed, received, body, counted, id_map]
    rfl
  | setter closed received body counted fits =>
    refine ⟨fun _ => .unit, ?_⟩
    rw [perform, closed, received, body, counted, fits, map_eq_pure_bind]
    rfl

/-- A body ends as its script does, and a fault gets a frame and a layer around it. -/
theorem run_activate (run : Interpreter) (activation : Activation) (store : Store) :
    (registry.activate run activation.role activation.script activation.frame).run store =
      ((run activation.script activation.frame).run store).map fun (verdict, after) =>
        (verdict.mapError fun fault => .targetInvocation (registry.pathOf activation)
          (fault.pushFrame (registry.pathOf activation)), after) := by
  have entered : (Execution.enter ⟨activation.role, activation.script, activation.frame⟩ :
      Execution Error Unit).run store = some (.ok (), store) := rfl
  rw [activate, Execution.run_bind_ok entered, Execution.run_mapError]
  rfl

/-- What a body fails with leaves the call with the member's path at the end of its trace, and one
layer around it. -/
theorem run_perform_of_starts_error {activation : Activation} {between after : Store}
    {fault : Fault} (starts : registry.Starts call store activation between)
    (failed : (run activation.script activation.frame).run between = some (.error fault, after)) :
    (registry.perform run call).run store = some (.error (.targetInvocation
      (registry.pathOf activation) (fault.pushFrame (registry.pathOf activation))), after) := by
  obtain ⟨answer, same⟩ := run_perform_of_starts run starts
  rw [same, Execution.run_map, run_activate, failed]
  rfl

/-- Every call is refused without a trace, reads or writes a field, or starts the body of its
member. -/
theorem performs_perform (run : Interpreter) (call : Call) (store : Store) :
    registry.Performs run call store (registry.perform run call) := by
  cases call with
  | construct constructor arguments => exact performs_construct constructor arguments
  | invoke method target arguments => exact performs_invoke method target arguments
  | get member target indices => exact performs_get member target indices
  | set member target value indices => exact performs_set member target value indices

/-- A body that is started ends with the fault that leaves it, without the layer. -/
theorem run_activate_eq_error {run : Interpreter} {activation : Activation} {answer : Value → Value}
    {between after : Store} {error : Error}
    (failed : (answer <$> registry.activate run activation.role activation.script
      activation.frame).run between = some (.error error, after)) :
    ∃ fault, (run activation.script activation.frame).run between = some (.error fault, after) ∧
      error = .targetInvocation (registry.pathOf activation)
        (fault.pushFrame (registry.pathOf activation)) := by
  rw [Execution.run_map, run_activate] at failed
  cases body : (run activation.script activation.frame).run between with
  | none => simp [body] at failed
  | some outcome =>
    obtain ⟨verdict, ended⟩ := outcome
    cases verdict with
    | ok value => simp [body, Except.mapError, Except.map] at failed
    | error fault =>
      obtain ⟨rfl, rfl⟩ : .targetInvocation (registry.pathOf activation)
          (fault.pushFrame (registry.pathOf activation)) = error ∧ ended = after := by
        simpa [body, Except.mapError, Except.map] using failed
      exact ⟨fault, rfl, rfl⟩

/-- A call that fails is refused before anything is done, with an error that carries no fault, or
its body was started and failed. -/
theorem perform_fails {error : Error} {after : Store}
    (failed : (registry.perform run call).run store = some (.error error, after)) :
    error.fault? = none ∧
        registry.perform run call store = { outcome := some (.error error, store) } ∨
      ∃ activation between fault, registry.Starts call store activation between ∧
        .entered activation ∈ (registry.perform run call).actions store ∧
        (run activation.script activation.frame).run between = some (.error fault, after) ∧
        error = .targetInvocation (registry.pathOf activation)
          (fault.pushFrame (registry.pathOf activation)) := by
  cases registry.performs_perform run call store with
  | refused other free refused =>
    rw [Execution.run, refused] at failed
    obtain ⟨rfl, -⟩ : other = error ∧ store = after := by simpa using failed
    exact Or.inl ⟨free, refused⟩
  | read value returned => simp [Execution.run, returned] at failed
  | wrote member target value indices written asked returned =>
    simp [Execution.run, returned] at failed
  | started activation between answer starts entered goesOn =>
    rw [goesOn] at failed
    obtain ⟨fault, body, same⟩ := run_activate_eq_error failed
    exact Or.inr ⟨activation, between, fault, starts, entered, body, same⟩

end Registry

end LateBinding
