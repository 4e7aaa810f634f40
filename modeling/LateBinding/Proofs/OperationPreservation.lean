import LateBinding.Proofs.Operations
import LateBinding.Proofs.TypePreservation

/-!
# Operations keep stores well typed

An operation of the engine reaches the store by calls of the host only. The members it resolves
are members of the registry, whatever the flags and the names, and the handlers of an event are
what subscribers gave it. So an operation that is given members of the registry and genuine values
keeps stores well typed.
-/
namespace LateBinding

/-- Whether an operation is given members of the registry and genuine values. -/
def Operation.Genuine (registry : Registry) (store : Store) : Operation → Prop
  | .construct _ arguments | .constructAs _ _ arguments => AllGenuine registry store arguments
  | .createDefault _ => True
  | .getValue member target values | .getValueAs _ member target values
  | .invoke member target values | .invokeAs _ member target values =>
    registry.Describes member ∧ AllGenuine registry store (target.toList ++ values)
  | .setValue member target value indices =>
    registry.Describes member ∧ AllGenuine registry store (target.toList ++ value :: indices)
  | .getFieldAs _ target _ => AllGenuine registry store target.toList
  | .setField target _ value => AllGenuine registry store (target.toList ++ [value])
  | .invokeMethod target _ arguments | .invokeMethodAs _ target _ arguments
  | .raiseEvent target _ arguments => AllGenuine registry store (target.toList ++ arguments)
  | .invokeStatic _ _ arguments => AllGenuine registry store arguments
  | .subscribe target _ handler | .unsubscribe target _ handler =>
    AllGenuine registry store target.toList ∧ handler.Genuine registry store

/-- Whether the value is genuine that was read in some shape, if there is one. -/
def TypedResult.Genuine (registry : Registry) (store : Store) : TypedResult → Prop
  | .value found => found.Genuine registry store
  | .unit | .absent => True
  | .present result => result.Genuine registry store

/-- Whether an operation answers with a genuine value, if with any. -/
def Answer.Genuine (registry : Registry) (store : Store) : Answer → Prop
  | .value found => found.Genuine registry store
  | .typed result => result.Genuine registry store
  | .done => True

/-- What is read of a genuine value is genuine: a shape hands the value on or drops it. -/
theorem ResultShape.read?_genuine {registry : Registry} {store : Store} {value : Value}
    (genuine : value.Genuine registry store) {shape : ResultShape} {result : TypedResult}
    (read : shape.read? value = some result) : result.Genuine registry store := by
  induction shape generalizing result with
  | value =>
    obtain rfl := Option.some.inj read
    exact genuine
  | unit =>
    obtain rfl := Option.some.inj read
    trivial
  | optional shape inductionHypothesis =>
    rw [read?] at read
    by_cases absent : value.isNull = true
    · obtain rfl : .absent = result := by simpa [absent] using read
      trivial
    · obtain ⟨found, inner, rfl⟩ : ∃ found, shape.read? value = some found ∧
          .present found = result := by simpa [absent] using read
      have foundGenuine : found.Genuine registry store := inductionHypothesis inner
      exact foundGenuine
  | _ =>
    obtain ⟨-, rfl⟩ : _ ∧ .value value = result := by simpa [read?] using read
    exact genuine

/-- Whether every handler of a delegate, where there is one, is genuine. -/
def DelegateGenuine (registry : Registry) (store : Store) (delegate : Option Delegate) : Prop :=
  ∀ handlers, delegate = some handlers → ∀ handler ∈ handlers, handler.Genuine registry store

namespace Delegate

variable {registry : Registry} {store : Store}

/-- Deleting a handler adds none. -/
theorem mem_of_mem_deleteFirst {handler other : Handler} {handlers : List Handler}
    (left : other ∈ deleteFirst handler handlers) : other ∈ handlers := by
  induction handlers with
  | nil => simp [deleteFirst] at left
  | cons first rest inductionHypothesis =>
    rw [deleteFirst] at left
    cases same : Value.sameHandler first handler with
    | true =>
      have later : other ∈ rest := by simpa [same] using left
      exact List.mem_cons_of_mem _ later
    | false =>
      have kept : other = first ∨ other ∈ deleteFirst handler rest := by simpa [same] using left
      rcases kept with rfl | later
      · exact List.mem_cons_self
      · exact List.mem_cons_of_mem _ (inductionHypothesis later)

/-- A genuine handler may be appended to genuine ones. -/
theorem combine_genuine {current : Option Delegate} {handler : Handler}
    (currentGenuine : DelegateGenuine registry store current)
    (genuine : handler.Genuine registry store) :
    DelegateGenuine registry store (some (combine current handler)) := by
  rintro _ ⟨⟩ other inside
  rcases List.mem_append.mp inside with old | new
  · cases current with
    | none => simp at old
    | some handlers => exact currentGenuine handlers rfl other old
  · exact List.mem_singleton.mp new ▸ genuine

/-- What is left of genuine handlers is genuine. -/
theorem remove_genuine {current : Delegate} {handler : Handler}
    (currentGenuine : DelegateGenuine registry store (some current)) :
    DelegateGenuine registry store (remove current handler) := by
  intro handlers left other inside
  apply currentGenuine current rfl
  have kept : other ∈ current.deleteLast handler := by
    rw [remove] at left
    cases rest : current.deleteLast handler with
    | nil => simp [rest] at left
    | cons first others =>
      obtain rfl : first :: others = handlers := by simpa [rest] using left
      exact inside
  exact List.mem_reverse.mp (mem_of_mem_deleteFirst (List.mem_reverse.mp kept))

/-- Genuine handlers are stored as a genuine value, and no handlers as null, which is one. -/
theorem toValue_genuine {delegate : Option Delegate}
    (genuine : DelegateGenuine registry store delegate) :
    (toValue delegate).Genuine registry store := by
  cases delegate with
  | none => exact Value.genuine_literal _
  | some handlers => exact (Value.genuine_delegate handlers).mpr (genuine handlers rfl)

end Delegate

namespace Engine

variable {engine : Engine}

/-- A descriptor that is closed for its use is still that of a member. -/
theorem describes_of_closeFor {member closed : Member} {target : Option Value}
    {arguments : List Value} {expectation : Expectation}
    (described : engine.registry.Describes member)
    (closing : engine.closeFor member target arguments expectation = .ok closed) :
    engine.registry.Describes closed := by
  rw [closeFor] at closing
  cases opened : member.isOpen with
  | false =>
    obtain rfl : member = closed := by simpa [opened] using closing
    exact described
  | true =>
    cases unified : engine.registry.unifyWith member (target.bind Value.type?)
        (argumentTypes arguments) expectation with
    | error failure => simp [opened, unified] at closing
    | ok matched =>
      have closes : engine.registry.close member matched = .ok closed := by
        simpa [opened, unified] using closing
      exact Registry.describes_of_close described closes

/-- The field that a name stands for is a member. -/
theorem describes_of_field {target : Value} {name : String} {field : Member}
    (found : engine.field target name = .ok field) : engine.registry.Describes field := by
  rw [Engine.field] at found
  cases hit : (engine.registry.members (target.type?.getD .object) name engine.flags).find?
      (·.kind = .field) with
  | none => simp [hit] at found
  | some first =>
    obtain rfl : first = field := by simpa [hit] using found
    exact Registry.describes_of_mem_membersAlong (List.mem_of_find?_eq_some hit)

/-- The field that holds the handlers of an event is a member: the event names it, and the look-up
that finds it goes through the members of the type that declares the event. -/
theorem describes_of_eventField {target : Value} {name : String} {field : Member}
    (found : engine.eventField target name = .ok field) : engine.registry.Describes field := by
  obtain ⟨_, _, hit⟩ := field_of_eventField found
  exact Registry.describes_of_mem_membersAlong (List.mem_of_find?_eq_some hit)

/-- Reading in a shape neither changes the store nor makes up a value. -/
theorem andRead_keeps {before : Store} (shape : ResultShape) {execution : Execution Error Value}
    (keeps : execution.Keeps engine.registry before (.genuine engine.registry)) :
    (engine.andRead shape execution).Keeps engine.registry before
      (TypedResult.Genuine engine.registry) := by
  refine keeps.bind fun later value _ found => ?_
  refine Execution.keeps_ofExcept fun result seen store extended => ?_
  rw [readAs] at seen
  cases read : shape.read? value with
  | none => simp [read] at seen
  | some other =>
    obtain rfl : other = result := by simpa [read] using seen
    exact ResultShape.read?_genuine (found.mono extended) read

section Operations

variable (sound : engine.registry.WellFormed) (leaves : engine.registry.LeavesSlots)
  (bodies : engine.run.Keeps engine.registry) {before : Store}
include sound leaves bodies

/-- The layer that the engine takes off an error is of no concern to the store. -/
theorem execute_keeps {call : Call} (genuine : engine.registry.GenuineCall before call) :
    (engine.execute call).Keeps engine.registry before (.genuine engine.registry) :=
  (Registry.perform_keeps sound leaves bodies genuine).mapError _

/-- Construction calls the constructor that was selected, which is a member. -/
theorem construct_keeps (type : Ty) {arguments : List Value}
    (genuine : AllGenuine engine.registry before arguments) :
    (engine.construct type arguments).Keeps engine.registry before
      (.genuine engine.registry) := by
  simp only [construct]
  cases found : engine.registry.resolve engine.flags
      { type, name := Declaration.constructorName, kind := .constructor, receiver := none
        arguments := argumentTypes arguments, expected := none } with
  | error failure => exact Execution.keeps_fail _
  | ok selected =>
    refine Execution.keeps_ofExcept_bind fun constructor closing => ?_
    have described := Registry.describes_of_close (Registry.describes_of_resolve found) closing
    exact execute_keeps sound leaves bodies ⟨described, genuine⟩

/-- Reading closes the descriptor and calls the host. -/
theorem getExpecting_keeps {member : Member} {target : Option Value} {indices : List Value}
    (described : engine.registry.Describes member)
    (genuine : AllGenuine engine.registry before (target.toList ++ indices))
    (expected : Option Ty) :
    (engine.getExpecting member target indices expected).Keeps engine.registry before
      (.genuine engine.registry) :=
  Execution.keeps_ofExcept_bind fun _ _ => Execution.keeps_ofExcept_bind fun _ closing =>
    execute_keeps sound leaves bodies ⟨describes_of_closeFor described closing, genuine⟩

/-- So does writing; the host checks the value before it writes it. -/
theorem setValue_keeps {member : Member} {target : Option Value} {value : Value}
    {indices : List Value} (described : engine.registry.Describes member)
    (genuine : AllGenuine engine.registry before (target.toList ++ value :: indices)) :
    (engine.setValue member target value indices).Keeps engine.registry before .any := by
  refine Execution.keeps_ofExcept_bind fun _ _ => ?_
  refine Execution.keeps_ofExcept_bind fun closed closing => ?_
  have asked : engine.registry.GenuineCall before (.set closed target value indices) :=
    ⟨describes_of_closeFor described closing, genuine⟩
  exact (execute_keeps sound leaves bodies asked).bind
    fun _ _ _ _ => Execution.keeps_pure fun _ _ => trivial

/-- A descriptor is called as a constructor or as a method, according to its kind. -/
theorem invokeExpecting_keeps {member : Member} {target : Option Value} {arguments : List Value}
    (described : engine.registry.Describes member)
    (genuine : AllGenuine engine.registry before (target.toList ++ arguments))
    (expected : Option Ty) :
    (engine.invokeExpecting member target arguments expected).Keeps engine.registry before
      (.genuine engine.registry) := by
  refine Execution.keeps_ofExcept_bind fun _ _ => Execution.keeps_ofExcept_bind fun _ closing => ?_
  have closedDescribed := describes_of_closeFor described closing
  split
  · have argumentsGenuine := (allGenuine_append.mp genuine).2
    exact execute_keeps sound leaves bodies ⟨closedDescribed, argumentsGenuine⟩
  · exact execute_keeps sound leaves bodies ⟨closedDescribed, genuine⟩

/-- A method that is called by name is one that resolution found. -/
theorem invokeMethodExpecting_keeps {target : Option Value} (name : String)
    {arguments : List Value}
    (genuine : AllGenuine engine.registry before (target.toList ++ arguments))
    (expected : Option Ty) :
    (engine.invokeMethodExpecting target name arguments expected).Keeps engine.registry before
      (.genuine engine.registry) := by
  refine Execution.keeps_ofExcept_bind fun receiver required => ?_
  refine Execution.keeps_ofExcept_bind fun _ _ => ?_
  refine Execution.keeps_ofExcept_bind fun resolved found => ?_
  obtain ⟨rfl, -⟩ := requireTarget_eq_ok required
  exact execute_keeps sound leaves bodies
    ⟨Registry.describes_of_resolveMember found, genuine⟩

/-- So is a static method. -/
theorem invokeStatic_keeps (type : Ty) (name : String) {arguments : List Value}
    (genuine : AllGenuine engine.registry before arguments) :
    (engine.invokeStatic type name arguments).Keeps engine.registry before
      (.genuine engine.registry) :=
  Execution.keeps_ofExcept_bind fun _ _ => Execution.keeps_ofExcept_bind fun _ found =>
    execute_keeps sound leaves bodies ⟨Registry.describes_of_resolveMember found, genuine⟩

/-- The handlers that are read from a field are genuine, for the delegate in the field is. -/
theorem subscribers_keeps {field : Member} {target : Value}
    (described : engine.registry.Describes field)
    (genuine : target.Genuine engine.registry before) :
    (engine.subscribers field target).Keeps engine.registry before
      (DelegateGenuine engine.registry) := by
  have asked : engine.registry.GenuineCall before (.get field (some target) []) :=
    ⟨described, by simpa [AllGenuine] using genuine⟩
  refine (execute_keeps sound leaves bodies asked).bind fun later value _ found => ?_
  cases value with
  | object ref => exact Execution.keeps_fail _
  | literal content =>
    cases content with
    | null => exact Execution.keeps_pure fun _ _ _ absent => by simp at absent
    | _ => exact Execution.keeps_fail _
  | delegate handlers =>
    refine Execution.keeps_pure fun store extended => ?_
    rintro _ ⟨⟩ handler inside
    exact ((Value.genuine_delegate handlers).mp found handler inside).mono extended

/-- Genuine handlers are stored as any genuine value is. -/
theorem storeSubscribers_keeps {field : Member} {target : Value} {delegate : Option Delegate}
    (described : engine.registry.Describes field)
    (genuine : target.Genuine engine.registry before)
    (delegateGenuine : DelegateGenuine engine.registry before delegate) :
    (engine.storeSubscribers field target delegate).Keeps engine.registry before .any := by
  have asked : engine.registry.GenuineCall before
      (.set field (some target) (Delegate.toValue delegate) []) :=
    ⟨described, by simpa [AllGenuine] using ⟨genuine, Delegate.toValue_genuine delegateGenuine⟩⟩
  exact (execute_keeps sound leaves bodies asked).bind
    fun _ _ _ _ => Execution.keeps_pure fun _ _ => trivial

/-- Handlers run one after the other, each in the store that the one before it left. What was
genuine when the event was raised is so when their turn comes. -/
theorem runHandlers_keeps {arguments : List Value} {handlers : Delegate}
    (genuine : AllGenuine engine.registry before arguments)
    (handlersGenuine : ∀ handler ∈ handlers, handler.Genuine engine.registry before) :
    (engine.runHandlers arguments handlers).Keeps engine.registry before .any := by
  induction handlers generalizing before with
  | nil => exact Execution.keeps_pure fun _ _ => trivial
  | cons handler rest inductionHypothesis =>
    obtain ⟨handlerGenuine, restGenuine⟩ := List.forall_mem_cons.mp handlersGenuine
    obtain ⟨described, targetGenuine⟩ := (Handler.genuine_iff handler).mp handlerGenuine
    refine (invokeExpecting_keeps sound leaves bodies described
      (allGenuine_append.mpr ⟨targetGenuine, genuine⟩) none).bind fun later _ extended _ => ?_
    exact inductionHypothesis (genuine.mono extended)
      fun other inside => (restGenuine other inside).mono extended

/-- Raising reads the handlers of the event and runs them. -/
theorem raiseEvent_keeps {target : Option Value} (name : String) {arguments : List Value}
    (genuine : AllGenuine engine.registry before (target.toList ++ arguments)) :
    (engine.raiseEvent target name arguments).Keeps engine.registry before .any := by
  obtain ⟨targetGenuine, argumentsGenuine⟩ := allGenuine_append.mp genuine
  refine Execution.keeps_ofExcept_bind fun receiver required => ?_
  refine Execution.keeps_ofExcept_bind fun _ _ => ?_
  refine Execution.keeps_ofExcept_bind fun field found => ?_
  obtain ⟨rfl, -⟩ := requireTarget_eq_ok required
  refine (subscribers_keeps sound leaves bodies (describes_of_eventField found)
    (targetGenuine _ (by simp))).bind fun later current extended read => ?_
  cases current with
  | none => exact Execution.keeps_pure fun _ _ => trivial
  | some handlers =>
    exact runHandlers_keeps sound leaves bodies (argumentsGenuine.mono extended)
      (read handlers rfl)

/-- Subscribing stores the handlers that were there and one more. -/
theorem subscribe_keeps {target : Option Value} (name : String) {handler : Handler}
    (genuine : AllGenuine engine.registry before target.toList)
    (handlerGenuine : handler.Genuine engine.registry before) :
    (engine.subscribe target name handler).Keeps engine.registry before .any := by
  refine Execution.keeps_ofExcept_bind fun receiver required => ?_
  refine Execution.keeps_ofExcept_bind fun _ _ => ?_
  refine Execution.keeps_ofExcept_bind fun field found => ?_
  obtain ⟨rfl, -⟩ := requireTarget_eq_ok required
  have described := describes_of_eventField found
  have receiverGenuine : receiver.Genuine engine.registry before := genuine _ (by simp)
  refine (subscribers_keeps sound leaves bodies described receiverGenuine).bind
    fun later current extended read => ?_
  have longer := Delegate.combine_genuine read (handlerGenuine.mono extended)
  exact storeSubscribers_keeps sound leaves bodies described (receiverGenuine.mono extended) longer

/-- Unsubscribing stores what is left of the handlers that were there. -/
theorem unsubscribe_keeps {target : Option Value} (name : String) (handler : Handler)
    (genuine : AllGenuine engine.registry before target.toList) :
    (engine.unsubscribe target name handler).Keeps engine.registry before .any := by
  refine Execution.keeps_ofExcept_bind fun receiver required => ?_
  refine Execution.keeps_ofExcept_bind fun _ _ => ?_
  refine Execution.keeps_ofExcept_bind fun field found => ?_
  obtain ⟨rfl, -⟩ := requireTarget_eq_ok required
  have described := describes_of_eventField found
  have receiverGenuine : receiver.Genuine engine.registry before := genuine _ (by simp)
  refine (subscribers_keeps sound leaves bodies described receiverGenuine).bind
    fun later current extended read => ?_
  cases current with
  | none => exact Execution.keeps_pure fun _ _ => trivial
  | some handlers =>
    exact storeSubscribers_keeps sound leaves bodies described (receiverGenuine.mono extended)
      (Delegate.remove_genuine read)

/-- Reading the field of a name is reading the member that the name is found to be. -/
theorem getFieldAs_keeps (shape : ResultShape) {target : Option Value} (name : String)
    (genuine : AllGenuine engine.registry before target.toList) :
    (engine.getFieldAs shape target name).Keeps engine.registry before
      (TypedResult.Genuine engine.registry) := by
  refine Execution.keeps_ofExcept_bind fun receiver required => ?_
  refine Execution.keeps_ofExcept_bind fun _ _ => ?_
  refine Execution.keeps_ofExcept_bind fun field found => ?_
  obtain ⟨rfl, -⟩ := requireTarget_eq_ok required
  have receiverGenuine : AllGenuine engine.registry before ((some receiver).toList ++ []) := by
    rw [List.append_nil]
    exact genuine
  exact andRead_keeps shape (getExpecting_keeps sound leaves bodies (describes_of_field found)
    receiverGenuine none)

/-- So is writing it. -/
theorem setField_keeps {target : Option Value} (name : String) {value : Value}
    (genuine : AllGenuine engine.registry before (target.toList ++ [value])) :
    (engine.setField target name value).Keeps engine.registry before .any := by
  refine Execution.keeps_ofExcept_bind fun receiver required => ?_
  refine Execution.keeps_ofExcept_bind fun _ _ => ?_
  refine Execution.keeps_ofExcept_bind fun field found => ?_
  obtain ⟨rfl, -⟩ := requireTarget_eq_ok required
  exact setValue_keeps sound leaves bodies (describes_of_field found) genuine

/-- Every operation that is given genuine inputs keeps stores well typed, and what it answers is
genuine. -/
theorem operate_keeps {operation : Operation} (genuine : operation.Genuine engine.registry before) :
    (engine.operate operation).Keeps engine.registry before (Answer.Genuine engine.registry) := by
  have answered : ∀ {execution : Execution Error Value},
      execution.Keeps engine.registry before (.genuine engine.registry) →
        (Answer.value <$> execution).Keeps engine.registry before
          (Answer.Genuine engine.registry) :=
    fun keeps => keeps.map fun _ _ found => found
  have typed : ∀ {execution : Execution Error TypedResult},
      execution.Keeps engine.registry before (TypedResult.Genuine engine.registry) →
        (Answer.typed <$> execution).Keeps engine.registry before
          (Answer.Genuine engine.registry) :=
    fun keeps => keeps.map fun _ _ found => found
  have done : ∀ {execution : Execution Error Unit},
      execution.Keeps engine.registry before .any →
        (do execution; pure Answer.done).Keeps engine.registry before
          (Answer.Genuine engine.registry) :=
    fun keeps => keeps.bind fun _ _ _ _ => Execution.keeps_pure fun _ _ => trivial
  cases operation with
  | construct type arguments =>
    exact answered (construct_keeps sound leaves bodies type genuine)
  | constructAs shape type arguments =>
    exact typed (andRead_keeps shape (construct_keeps sound leaves bodies type genuine))
  | createDefault type =>
    exact answered (construct_keeps sound leaves bodies type (by simp [AllGenuine]))
  | getValue member target indices =>
    exact answered (getExpecting_keeps sound leaves bodies genuine.1 genuine.2 none)
  | getValueAs shape member target indices =>
    exact typed (andRead_keeps shape
      (getExpecting_keeps sound leaves bodies genuine.1 genuine.2 shape.expected?))
  | setValue member target value indices =>
    exact done (setValue_keeps sound leaves bodies genuine.1 genuine.2)
  | getFieldAs shape target name =>
    exact typed (getFieldAs_keeps sound leaves bodies shape name genuine)
  | setField target name value =>
    exact done (setField_keeps sound leaves bodies name genuine)
  | invoke member target arguments =>
    exact answered (invokeExpecting_keeps sound leaves bodies genuine.1 genuine.2 none)
  | invokeAs shape member target arguments =>
    exact typed (andRead_keeps shape
      (invokeExpecting_keeps sound leaves bodies genuine.1 genuine.2 shape.expected?))
  | invokeMethod target name arguments =>
    exact answered (invokeMethodExpecting_keeps sound leaves bodies name genuine none)
  | invokeMethodAs shape target name arguments =>
    exact typed (andRead_keeps shape
      (invokeMethodExpecting_keeps sound leaves bodies name genuine shape.expected?))
  | invokeStatic type name arguments =>
    exact answered (invokeStatic_keeps sound leaves bodies type name genuine)
  | raiseEvent target name arguments =>
    exact done (raiseEvent_keeps sound leaves bodies name genuine)
  | subscribe target name handler =>
    exact done (subscribe_keeps sound leaves bodies name genuine.1 genuine.2)
  | unsubscribe target name handler =>
    exact done (unsubscribe_keeps sound leaves bodies name handler genuine.1)

end Operations

end Engine

/-! ## Requests of scripts -/

/-- Whether a script asks with genuine values. -/
def Request.Genuine (registry : Registry) (store : Store) : Request → Prop
  | .callMethod target _ arguments | .raise target _ arguments =>
    target.Genuine registry store ∧ AllGenuine registry store arguments
  | .callStatic _ _ arguments | .construct _ arguments => AllGenuine registry store arguments

/-- What the engine answers a script with is genuine, since it operates for it. -/
theorem Engine.answer_keeps {engine : Engine} (sound : engine.registry.WellFormed)
    (leaves : engine.registry.LeavesSlots) (bodies : engine.run.Keeps engine.registry)
    (before : Store) (request : Request) (genuine : request.Genuine engine.registry before) :
    (engine.answer request).Keeps engine.registry before (.genuine engine.registry) := by
  cases request with
  | callMethod target name arguments =>
    have values : AllGenuine engine.registry before ((some target).toList ++ arguments) :=
      List.forall_mem_cons.mpr genuine
    exact invokeMethodExpecting_keeps sound leaves bodies name values none
  | callStatic type name arguments => exact invokeStatic_keeps sound leaves bodies type name genuine
  | construct type arguments => exact construct_keeps sound leaves bodies type genuine
  | raise target event arguments =>
    have values : AllGenuine engine.registry before ((some target).toList ++ arguments) :=
      List.forall_mem_cons.mpr genuine
    exact (raiseEvent_keeps sound leaves bodies event values).bind
      fun _ _ _ _ => Execution.keeps_pure fun _ _ => Value.genuine_literal _

end LateBinding
