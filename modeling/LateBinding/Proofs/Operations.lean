import LateBinding.Program

/-!
# Operations as calls of the host

Whatever an operation of the engine does to the store it does through calls of the host. An
operation on a single member chooses one call from its inputs alone, has the host execute it and
reads the answer (`operate_eq`). The choice may fail, and so may the reading, but neither looks at
the store.

The three operations on events begin with a call that reads the handlers. What they do next depends
on the handlers found, and `Engine.Makes` says which calls an operation comes to make in all, and
with which stores. A call that fails ends the operation: `operate_of_makes`.
-/
namespace LateBinding

namespace Execution

variable {ε α β : Type}

/-- Checks in a row are one check, before and after they become an execution. -/
theorem ofExcept_bind (verdict : Except ε α) (next : α → Except ε β) :
    ofExcept (verdict >>= next) = ofExcept verdict >>= fun value => ofExcept (next value) := by
  cases verdict <;> rfl

/-- A first part that ends with an error ends the whole. -/
theorem run_bind_error {first : Execution ε α} {next : α → Execution ε β} {store after : Store}
    {error : ε} (failed : first.run store = some (.error error, after)) :
    (first >>= next).run store = some (.error error, after) := by
  rw [run_bind, failed]

/-- The rest goes on with the value of a first part that returns. -/
theorem run_bind_ok {first : Execution ε α} {next : α → Execution ε β} {store between : Store}
    {value : α} (returned : first.run store = some (.ok value, between)) :
    (first >>= next).run store = (next value).run between := by
  rw [run_bind, returned]

/-- The ways in which one execution after the other fails. -/
theorem run_bind_eq_error_iff {first : Execution ε α} {next : α → Execution ε β}
    {store after : Store} {error : ε} :
    (first >>= next).run store = some (.error error, after) ↔
      first.run store = some (.error error, after) ∨
        ∃ value between, first.run store = some (.ok value, between) ∧
          (next value).run between = some (.error error, after) := by
  constructor
  · intro failed
    rw [run_bind] at failed
    cases outcome : first.run store with
    | none => simp [outcome] at failed
    | some ended =>
      obtain ⟨_ | value, between⟩ := ended
      · exact Or.inl (by simpa [outcome] using failed)
      · exact Or.inr ⟨value, between, rfl, by simpa [outcome] using failed⟩
  · rintro (here | ⟨value, between, returned, there⟩)
    · exact run_bind_error here
    · rw [run_bind_ok returned, there]

/-- One execution after the other returns if both do. -/
theorem run_bind_eq_ok_iff {first : Execution ε α} {next : α → Execution ε β}
    {store after : Store} {result : β} :
    (first >>= next).run store = some (.ok result, after) ↔
      ∃ value between, first.run store = some (.ok value, between) ∧
        (next value).run between = some (.ok result, after) := by
  constructor
  · intro returned
    rw [run_bind] at returned
    cases outcome : first.run store with
    | none => simp [outcome] at returned
    | some ended =>
      obtain ⟨_ | value, between⟩ := ended
      · simp [outcome] at returned
      · exact ⟨value, between, rfl, by simpa [outcome] using returned⟩
  · rintro ⟨value, between, here, there⟩
    rw [run_bind_ok here, there]

/-- A change of the value does not change how an execution fails. -/
theorem run_map_eq_error_iff {change : α → β} {execution : Execution ε α} {store after : Store}
    {error : ε} : (change <$> execution).run store = some (.error error, after) ↔
      execution.run store = some (.error error, after) := by
  rw [run_map]
  rcases execution.run store with _ | ⟨_ | value, between⟩ <;> simp [Except.map]

end Execution

/-- Whether an operation is on an event. -/
def Operation.isEvent : Operation → Bool
  | .raiseEvent _ _ _ | .subscribe _ _ _ | .unsubscribe _ _ _ => true
  | _ => false

namespace Engine

variable (engine : Engine)

/-! ## The call that an operation begins with -/

/-- The call that constructs a type. -/
def constructCall (type : Ty) (arguments : List Value) : Except Error Call :=
  let site : CallSite :=
    { type, name := Declaration.constructorName, kind := .constructor, receiver := none
      arguments := argumentTypes arguments, expected := none }
  match engine.registry.resolve engine.flags site with
  | .error _ => .error (.cannotInfer
      (engine.registry.typeName type ++ "." ++ Declaration.constructorName))
  | .ok selected => do
    let constructor ← engine.registry.close selected.candidate selected.matched
    pure (.construct constructor arguments)

/-- The call that reads a member. -/
def getCall (member : Member) (target : Option Value) (indices : List Value)
    (expected : Option Ty) : Except Error Call := do
  engine.requireReceiver member target
  let closed ← engine.closeFor member target indices (.ofResult expected)
  pure (.get closed target indices)

/-- The call that writes a member. -/
def setCall (member : Member) (target : Option Value) (value : Value) (indices : List Value) :
    Except Error Call := do
  engine.requireReceiver member target
  let closed ← engine.closeFor member target indices (.accepts value.type?)
  pure (.set closed target value indices)

/-- The call of a method or constructor by its descriptor. -/
def invokeCall (member : Member) (target : Option Value) (arguments : List Value)
    (expected : Option Ty) : Except Error Call := do
  engine.requireReceiver member target
  let closed ← engine.closeFor member target arguments (.ofResult expected)
  pure (if closed.kind = .constructor then .construct closed arguments
    else .invoke closed target arguments)

/-- The call of a method of a value by name. -/
def invokeMethodCall (target : Option Value) (name : String) (arguments : List Value)
    (expected : Option Ty) : Except Error Call := do
  let receiver ← requireTarget target
  requireName name
  let type := receiver.type?.getD .object
  let site : CallSite :=
    { type, name, kind := .method, receiver := some type
      arguments := argumentTypes arguments, expected }
  let resolved ← engine.registry.resolveMember engine.flags site
  pure (.invoke resolved.member (some receiver) arguments)

/-- The call of a static method by name. -/
def invokeStaticCall (type : Ty) (name : String) (arguments : List Value) :
    Except Error Call := do
  requireName name
  let site : CallSite :=
    { type, name, kind := .method, receiver := none
      arguments := argumentTypes arguments, expected := none }
  let resolved ← engine.registry.resolveMember engine.flags.withoutInstance site
  pure (.invoke resolved.member none arguments)

/-- The field that holds the handlers of an event of a value, and the value. -/
def eventPlace (target : Option Value) (name : String) : Except Error (Member × Value) := do
  let receiver ← requireTarget target
  requireName name
  let field ← engine.eventField receiver name
  pure (field, receiver)

/-- The call of the host that an operation begins with. -/
def call : Operation → Except Error Call
  | .construct type arguments | .constructAs _ type arguments =>
    engine.constructCall type arguments
  | .createDefault type => engine.constructCall type []
  | .getValue member target indices => engine.getCall member target indices none
  | .getValueAs shape member target indices =>
    engine.getCall member target indices shape.expected?
  | .setValue member target value indices => engine.setCall member target value indices
  | .getFieldAs _ target name => do
    let receiver ← requireTarget target
    requireName name
    let field ← engine.field receiver name
    engine.getCall field (some receiver) [] none
  | .setField target name value => do
    let receiver ← requireTarget target
    requireName name
    let field ← engine.field receiver name
    engine.setCall field (some receiver) value []
  | .invoke member target arguments => engine.invokeCall member target arguments none
  | .invokeAs shape member target arguments =>
    engine.invokeCall member target arguments shape.expected?
  | .invokeMethod target name arguments => engine.invokeMethodCall target name arguments none
  | .invokeMethodAs shape target name arguments =>
    engine.invokeMethodCall target name arguments shape.expected?
  | .invokeStatic type name arguments => engine.invokeStaticCall type name arguments
  | .raiseEvent target name _ | .subscribe target name _ | .unsubscribe target name _ => do
    let (field, receiver) ← engine.eventPlace target name
    pure (.get field (some receiver) [])

/-- How an operation on a single member reads the answer of the host. -/
def read : Operation → Value → Except Error Answer
  | .constructAs shape _ _, value | .getValueAs shape _ _ _, value | .getFieldAs shape _ _, value
  | .invokeAs shape _ _ _, value | .invokeMethodAs shape _ _ _, value =>
    do
    let result ← engine.readAs shape value
    pure (.typed result)
  | .setValue _ _ _ _, _ | .setField _ _ _, _ | .raiseEvent _ _ _, _ | .subscribe _ _ _, _
  | .unsubscribe _ _ _, _ => .ok .done
  | .construct _ _, value | .createDefault _, value | .getValue _ _ _, value
  | .invoke _ _ _, value | .invokeMethod _ _ _, value | .invokeStatic _ _ _, value =>
    .ok (.value value)

variable {engine}

/-! ## The rest of an operation -/

/-- A construction chooses its call and has it executed. -/
theorem construct_eq (type : Ty) (arguments : List Value) :
    engine.construct type arguments =
      (.ofExcept (engine.constructCall type arguments) >>= engine.execute) := by
  rw [construct, constructCall]
  cases engine.registry.resolve engine.flags _ with
  | error failure => rfl
  | ok selected => simp only [Execution.ofExcept_bind, bind_assoc]; rfl

/-- So does a reading, with or without a shape to be read in. -/
theorem getExpecting_eq (member : Member) (target : Option Value) (indices : List Value)
    (expected : Option Ty) :
    engine.getExpecting member target indices expected =
      (.ofExcept (engine.getCall member target indices expected) >>= engine.execute) := by
  simp only [getExpecting, getCall, Execution.ofExcept_bind, bind_assoc]
  rfl

/-- A writing drops the answer of its call. -/
theorem setValue_eq (member : Member) (target : Option Value) (value : Value)
    (indices : List Value) :
    engine.setValue member target value indices = (do
      let call ← .ofExcept (engine.setCall member target value indices)
      let _ ← engine.execute call
      pure ()) := by
  simp only [setValue, setCall, Execution.ofExcept_bind, bind_assoc]
  rfl

/-- A call by descriptor is a construction or a call of a method. Which one it is belongs to the
choice, so the execution comes after it in both cases. -/
theorem invokeExpecting_eq (member : Member) (target : Option Value) (arguments : List Value)
    (expected : Option Ty) :
    engine.invokeExpecting member target arguments expected =
      (.ofExcept (engine.invokeCall member target arguments expected) >>= engine.execute) := by
  have either (closed : Member) : engine.execute (if closed.kind = .constructor then
      .construct closed arguments else .invoke closed target arguments) =
      if closed.kind = .constructor then engine.execute (.construct closed arguments)
      else engine.execute (.invoke closed target arguments) :=
    apply_ite engine.execute _ _ _
  simp only [invokeExpecting, invokeCall, Execution.ofExcept_bind, bind_assoc, ← either]
  rfl

/-- A call by name looks its method up as part of the choice. -/
theorem invokeMethodExpecting_eq (target : Option Value) (name : String)
    (arguments : List Value) (expected : Option Ty) :
    engine.invokeMethodExpecting target name arguments expected =
      (.ofExcept (engine.invokeMethodCall target name arguments expected) >>= engine.execute) := by
  simp only [invokeMethodExpecting, invokeMethodCall, Execution.ofExcept_bind, bind_assoc]
  rfl

/-- A static call by name likewise. -/
theorem invokeStatic_eq (type : Ty) (name : String) (arguments : List Value) :
    engine.invokeStatic type name arguments =
      (.ofExcept (engine.invokeStaticCall type name arguments) >>= engine.execute) := by
  simp only [invokeStatic, invokeStaticCall, Execution.ofExcept_bind, bind_assoc]
  rfl

/-- An operation that hands on the value of a call reads it as it is. -/
theorem map_value_execute (choice : Except Error Call) :
    Answer.value <$> (.ofExcept choice >>= engine.execute) = (do
      let call ← .ofExcept choice
      let value ← engine.execute call
      Execution.ofExcept (.ok (.value value))) := by
  rw [map_eq_pure_bind, bind_assoc]
  rfl

/-- An operation that reads the value of a call in a shape fails where it has another. -/
theorem map_typed_execute (choice : Except Error Call) (shape : ResultShape) :
    Answer.typed <$> engine.andRead shape (.ofExcept choice >>= engine.execute) = (do
      let call ← .ofExcept choice
      let value ← engine.execute call
      .ofExcept (do
        let result ← engine.readAs shape value
        pure (.typed result))) := by
  simp only [andRead, map_eq_pure_bind, bind_assoc, Execution.ofExcept_bind]
  rfl

/-- An operation on a single member chooses a call, has the host execute it and reads the
answer. -/
theorem operate_eq {operation : Operation} (single : operation.isEvent = false) :
    engine.operate operation = (do
      let call ← .ofExcept (engine.call operation)
      let value ← engine.execute call
      .ofExcept (engine.read operation value)) := by
  cases operation with
  | raiseEvent target name arguments => simp [Operation.isEvent] at single
  | subscribe target name handler => simp [Operation.isEvent] at single
  | unsubscribe target name handler => simp [Operation.isEvent] at single
  | construct type arguments => rw [operate, construct_eq, map_value_execute]; rfl
  | constructAs shape type arguments =>
    rw [operate, constructAs, construct_eq, map_typed_execute]; rfl
  | createDefault type => rw [operate, createDefault, construct_eq, map_value_execute]; rfl
  | getValue member target indices =>
    rw [operate, getValue, getExpecting_eq, map_value_execute]; rfl
  | getValueAs shape member target indices =>
    rw [operate, getValueAs, getExpecting_eq, map_typed_execute]; rfl
  | setValue member target value indices =>
    rw [operate, setValue_eq, bind_assoc]
    simp only [bind_assoc]
    rfl
  | getFieldAs shape target name =>
    simp only [operate, getFieldAs, getValue, getExpecting_eq, andRead, call, read,
      map_eq_pure_bind, bind_assoc, Execution.ofExcept_bind]
    rfl
  | setField target name value =>
    simp only [operate, setField, setValue_eq, call, bind_assoc, Execution.ofExcept_bind]
    rfl
  | invoke member target arguments =>
    rw [operate, invoke, invokeExpecting_eq, map_value_execute]; rfl
  | invokeAs shape member target arguments =>
    rw [operate, invokeAs, invokeExpecting_eq, map_typed_execute]; rfl
  | invokeMethod target name arguments =>
    rw [operate, invokeMethod, invokeMethodExpecting_eq, map_value_execute]; rfl
  | invokeMethodAs shape target name arguments =>
    rw [operate, invokeMethodAs, invokeMethodExpecting_eq, map_typed_execute]; rfl
  | invokeStatic type name arguments => rw [operate, invokeStatic_eq, map_value_execute]; rfl

/-! ## Operations on events -/

/-- The field that holds the handlers of an event is the first field of the name the event gives,
among the members of the type that declares the event. -/
theorem field_of_eventField {target : Value} {name : String} {field : Member}
    (found : engine.eventField target name = .ok field) :
    ∃ declaring fieldName, (engine.registry.members declaring fieldName .all).find?
      (·.kind = .field) = some field := by
  simp only [eventField] at found
  cases event : (engine.registry.members (target.type?.getD .object) name engine.flags).find?
      (·.kind = .event) with
  | none => simp [event] at found
  | some declared =>
    cases body : declared.body with
    | event fieldName =>
      cases hit : (engine.registry.members declared.declaring fieldName .all).find?
          (·.kind = .field) with
      | none => simp [event, body, hit] at found
      | some first =>
        obtain rfl : first = field := by simpa [event, body, hit] using found
        exact ⟨_, _, hit⟩
    | _ => simp [event, body] at found

/-- Raising an event finds its field and then runs what is in it. -/
theorem raiseEvent_eq (target : Option Value) (name : String) (arguments : List Value) :
    engine.raiseEvent target name arguments = (do
      let place ← .ofExcept (engine.eventPlace target name)
      match ← engine.subscribers place.1 place.2 with
      | some handlers => engine.runHandlers arguments handlers
      | none => pure ()) := by
  simp only [raiseEvent, eventPlace, Execution.ofExcept_bind, bind_assoc]
  rfl

/-- Subscribing finds the field and then writes the longer list. -/
theorem subscribe_eq (target : Option Value) (name : String) (handler : Handler) :
    engine.subscribe target name handler = (do
      let place ← .ofExcept (engine.eventPlace target name)
      let current ← engine.subscribers place.1 place.2
      engine.storeSubscribers place.1 place.2 (some (Delegate.combine current handler))) := by
  simp only [subscribe, eventPlace, Execution.ofExcept_bind, bind_assoc]
  rfl

/-- Unsubscribing finds the field and writes only if it held handlers. -/
theorem unsubscribe_eq (target : Option Value) (name : String) (handler : Handler) :
    engine.unsubscribe target name handler = (do
      let place ← .ofExcept (engine.eventPlace target name)
      match ← engine.subscribers place.1 place.2 with
      | some current =>
        engine.storeSubscribers place.1 place.2 (Delegate.remove current handler)
      | none => pure ()) := by
  simp only [unsubscribe, eventPlace, Execution.ofExcept_bind, bind_assoc]
  rfl

/-- Handlers that stand behind others run after them. -/
theorem runHandlers_append (arguments : List Value) (earlier later : Delegate) :
    engine.runHandlers arguments (earlier ++ later) = (do
      engine.runHandlers arguments earlier
      engine.runHandlers arguments later) := by
  induction earlier with
  | nil => rfl
  | cons handler rest inductionHypothesis =>
    rw [List.cons_append, runHandlers, inductionHypothesis, runHandlers, bind_assoc]

/-! ## Every call that an operation makes -/

variable (engine) in
/-- Whether an operation, begun with a store, comes to have the host execute a call, and with which
store. An operation on an event reads the handlers before it goes on, and to raise an event is to
run one handler after the other. -/
inductive Makes : Operation → Store → Call → Store → Prop
  | first {operation : Operation} {call : Call} {store : Store} :
    engine.call operation = .ok call → Makes operation store call store
  | handler {target : Option Value} {name : String} {arguments : List Value} {field : Member}
      {receiver : Value} {earlier later : Delegate} {handler : Handler} {call : Call}
      {store found between : Store} :
    engine.eventPlace target name = .ok (field, receiver) →
    (engine.subscribers field receiver).run store =
      some (.ok (some (earlier ++ handler :: later)), found) →
    (engine.runHandlers arguments earlier).run found = some (.ok (), between) →
    engine.invokeCall handler.method handler.target arguments none = .ok call →
    Makes (.raiseEvent target name arguments) store call between
  | subscribed {target : Option Value} {name : String} {handler : Handler} {field : Member}
      {receiver : Value} {current : Option Delegate} {store found : Store} :
    engine.eventPlace target name = .ok (field, receiver) →
    (engine.subscribers field receiver).run store = some (.ok current, found) →
    Makes (.subscribe target name handler) store (.set field (some receiver)
      (Delegate.toValue (some (Delegate.combine current handler))) []) found
  | unsubscribed {target : Option Value} {name : String} {handler : Handler} {field : Member}
      {receiver : Value} {current : Delegate} {store found : Store} :
    engine.eventPlace target name = .ok (field, receiver) →
    (engine.subscribers field receiver).run store = some (.ok (some current), found) →
    Makes (.unsubscribe target name handler) store (.set field (some receiver)
      (Delegate.toValue (Delegate.remove current handler)) []) found

/-- An operation on an event begins with reading the field of the event. -/
theorem exists_eventPlace {target : Option Value} {name : String} {call : Call}
    (chosen : (do
      let (field, receiver) ← engine.eventPlace target name
      pure (.get field (some receiver) [])) = Except.ok call) :
    ∃ field receiver, engine.eventPlace target name = .ok (field, receiver) ∧
      call = .get field (some receiver) [] := by
  cases placed : engine.eventPlace target name with
  | error error => simp [placed, bind, Except.bind] at chosen
  | ok place =>
    rw [placed] at chosen
    exact ⟨place.1, place.2, rfl, (Except.ok.inj chosen).symm⟩

/-- Handlers that cannot be read end an operation on an event. -/
theorem run_subscribers_error {field : Member} {receiver : Value} {store after : Store}
    {error : Error} (failed : (engine.execute (.get field (some receiver) [])).run store =
      some (.error error, after)) :
    (engine.subscribers field receiver).run store = some (.error error, after) :=
  Execution.run_bind_error failed

/-- The call that an operation begins with ends it when it fails. -/
theorem operate_of_first {operation : Operation} {call : Call} {store after : Store}
    {error : Error} (chosen : engine.call operation = .ok call)
    (failed : (engine.execute call).run store = some (.error error, after)) :
    (engine.operate operation).run store = some (.error error, after) := by
  cases single : operation.isEvent with
  | false =>
    rw [operate_eq single, chosen, Execution.ofExcept_ok_bind]
    exact Execution.run_bind_error failed
  | true =>
    cases operation with
    | raiseEvent target name arguments =>
      obtain ⟨field, receiver, placed, rfl⟩ := exists_eventPlace chosen
      rw [operate, raiseEvent_eq, placed, Execution.ofExcept_ok_bind]
      exact Execution.run_bind_error (Execution.run_bind_error (run_subscribers_error failed))
    | subscribe target name handler =>
      obtain ⟨field, receiver, placed, rfl⟩ := exists_eventPlace chosen
      rw [operate, subscribe_eq, placed, Execution.ofExcept_ok_bind]
      exact Execution.run_bind_error (Execution.run_bind_error (run_subscribers_error failed))
    | unsubscribe target name handler =>
      obtain ⟨field, receiver, placed, rfl⟩ := exists_eventPlace chosen
      rw [operate, unsubscribe_eq, placed, Execution.ofExcept_ok_bind]
      exact Execution.run_bind_error (Execution.run_bind_error (run_subscribers_error failed))
    | _ => simp [Operation.isEvent] at single

/-- The first handler that fails ends the run of all of them. -/
theorem run_runHandlers_error {arguments : List Value} {earlier later : Delegate}
    {handler : Handler} {call : Call} {store between after : Store} {error : Error}
    (ran : (engine.runHandlers arguments earlier).run store = some (.ok (), between))
    (chosen : engine.invokeCall handler.method handler.target arguments none = .ok call)
    (failed : (engine.execute call).run between = some (.error error, after)) :
    (engine.runHandlers arguments (earlier ++ handler :: later)).run store =
      some (.error error, after) := by
  rw [runHandlers_append, Execution.run_bind_ok ran, runHandlers]
  apply Execution.run_bind_error
  rw [invoke, invokeExpecting_eq, chosen, Execution.ofExcept_ok_bind]
  exact failed

/-- An operation ends with the error of any call that it makes. -/
theorem operate_of_makes {operation : Operation} {store between after : Store} {call : Call}
    {error : Error} (makes : engine.Makes operation store call between)
    (failed : (engine.execute call).run between = some (.error error, after)) :
    (engine.operate operation).run store = some (.error error, after) := by
  cases makes with
  | first chosen => exact operate_of_first chosen failed
  | handler placed found ran chosen =>
    rw [operate, raiseEvent_eq, placed, Execution.ofExcept_ok_bind]
    apply Execution.run_bind_error
    rw [Execution.run_bind_ok found]
    exact run_runHandlers_error ran chosen failed
  | subscribed placed found =>
    rw [operate, subscribe_eq, placed, Execution.ofExcept_ok_bind]
    apply Execution.run_bind_error
    rw [Execution.run_bind_ok found]
    exact Execution.run_bind_error failed
  | unsubscribed placed found =>
    rw [operate, unsubscribe_eq, placed, Execution.ofExcept_ok_bind]
    apply Execution.run_bind_error
    rw [Execution.run_bind_ok found]
    exact Execution.run_bind_error failed

end Engine

end LateBinding
