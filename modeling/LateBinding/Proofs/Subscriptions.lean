import LateBinding.Proofs.Atomicity
import LateBinding.Proofs.EventFields
import LateBinding.Script.Evaluation

/-!
# Events as lists of handlers

An event behaves as a list of handlers (`Engine.event_is_list_of_handlers`). Subscribing appends to
it, unsubscribing deletes the last handler that is the same, and raising the event runs what the
list was when it began. `EventHistory` says which list each object should have after any run of
these operations on any number of new objects, whatever else happens in between, and `Tracks` is the
invariant that ties it to the slots: every object has stored its own list, as a delegate or as null.

Two events are out of reach of any engine (`Engine.events_out_of_reach`). An event without a name is
refused like a missing argument, and the field of an event cannot be read where its class is open,
as it is when a class is derived from an instance over the parameter of another definition.

Handlers may do whatever bodies do. `Engine.InTurn` tells how a list of handlers returns without
saying what any of them does, and a run ends with the first that does not return.
-/
namespace LateBinding

/-! ## Lists of handlers -/

namespace Delegate

/-- How a list of handlers is stored: as a delegate, or as null when there are none. -/
def stored (handlers : Delegate) : Value :=
  if handlers.isEmpty then .null else .delegate handlers

/-- What is left of a list of handlers without the last that is the same as a given one. A list
without such a handler is left as it is. -/
inductive LosesLast (handler : Handler) : Delegate → Delegate → Prop
  | found {earlier later : Delegate} {last : Handler} :
    Value.sameHandler last handler = true →
    (∀ other ∈ later, Value.sameHandler other handler = false) →
    LosesLast handler (earlier ++ last :: later) (earlier ++ later)
  | absent {handlers : Delegate} :
    (∀ other ∈ handlers, Value.sameHandler other handler = false) →
    LosesLast handler handlers handlers

variable {handler : Handler}

/-- A list without such a handler is left as it is. -/
theorem deleteFirst_of_absent {handlers : Delegate}
    (absent : ∀ other ∈ handlers, Value.sameHandler other handler = false) :
    deleteFirst handler handlers = handlers := by
  induction handlers with
  | nil => rfl
  | cons first rest inductionHypothesis =>
    rw [List.forall_mem_cons] at absent
    rw [deleteFirst, absent.1, inductionHypothesis absent.2]
    rfl

/-- Deleting stops at the first such handler and leaves what is behind it. -/
theorem deleteFirst_of_found {earlier later : Delegate} {first : Handler}
    (same : Value.sameHandler first handler = true)
    (absent : ∀ other ∈ earlier, Value.sameHandler other handler = false) :
    deleteFirst handler (earlier ++ first :: later) = earlier ++ later := by
  induction earlier with
  | nil => simp [deleteFirst, same]
  | cons other rest inductionHypothesis =>
    rw [List.forall_mem_cons] at absent
    simp [deleteFirst, absent.1, inductionHypothesis absent.2]

/-- The program deletes the last handler that is the same: it goes through the list backwards and
stops at the first that it finds. -/
theorem LosesLast.deleteLast {handlers remaining : Delegate}
    (loses : LosesLast handler handlers remaining) : handlers.deleteLast handler = remaining := by
  cases loses with
  | @found earlier later last same absent =>
    have order : (earlier ++ last :: later).reverse = later.reverse ++ last :: earlier.reverse := by
      simp
    rw [Delegate.deleteLast, order, deleteFirst_of_found same (by simpa using absent)]
    simp
  | absent absent => rw [Delegate.deleteLast, deleteFirst_of_absent (by simpa using absent),
      List.reverse_reverse]

/-- A list that has become empty is stored as null, like that of an event without handlers. -/
theorem toValue_remove (handlers : Delegate) (handler : Handler) :
    toValue (handlers.remove handler) = stored (handlers.deleteLast handler) := by
  rw [remove]
  cases handlers.deleteLast handler <;> rfl

end Delegate

/-! ## Running handlers in turn -/

namespace Engine

variable {engine : Engine} {arguments : List Value}

variable (engine arguments) in
/-- Whether handlers that are invoked one after the other, each with the given arguments, all
return. The actions are listed in order, and each handler has the store that the one before it
left. -/
inductive InTurn : Delegate → Store → List Action → Store → Prop
  | nil {store : Store} : InTurn [] store [] store
  | cons {handler : Handler} {rest : Delegate} {store between after : Store}
      {own others : List Action} {value : Value} :
    engine.invoke handler.method handler.target arguments store =
      ⟨own, some (.ok value, between)⟩ →
    InTurn rest between others after → InTurn (handler :: rest) store (own ++ others) after

/-- Handlers are run in turn. -/
theorem InTurn.runHandlers {handlers : Delegate} {store after : Store} {actions : List Action}
    (inTurn : engine.InTurn arguments handlers store actions after) :
    engine.runHandlers arguments handlers store = ⟨actions, some (.ok (), after)⟩ := by
  induction inTurn with
  | nil => rfl
  | cons invoked inTurn inductionHypothesis =>
    rw [Engine.runHandlers, Execution.bind_apply_of_returned invoked, inductionHypothesis]

/-- A handler that fails after others have returned ends the run, and none of those behind it is
invoked. -/
theorem InTurn.runHandlers_failed {earlier later : Delegate} {handler : Handler}
    {store between after : Store} {done own : List Action} {error : Error}
    (inTurn : engine.InTurn arguments earlier store done between)
    (failed : engine.invoke handler.method handler.target arguments between =
      ⟨own, some (.error error, after)⟩) :
    engine.runHandlers arguments (earlier ++ handler :: later) store =
      ⟨done ++ own, some (.error error, after)⟩ := by
  rw [runHandlers_append, Execution.bind_apply_of_returned inTurn.runHandlers, Engine.runHandlers,
    Execution.bind_apply_of_failed failed]

/-- So does a handler that never ends. -/
theorem InTurn.runHandlers_exhausted {earlier later : Delegate} {handler : Handler}
    {store between : Store} {done own : List Action}
    (inTurn : engine.InTurn arguments earlier store done between)
    (endless : engine.invoke handler.method handler.target arguments between = ⟨own, none⟩) :
    engine.runHandlers arguments (earlier ++ handler :: later) store = ⟨done ++ own, none⟩ := by
  rw [runHandlers_append, Execution.bind_apply_of_returned inTurn.runHandlers, Engine.runHandlers,
    Execution.bind_apply_of_exhausted endless]

/-- However a run of handlers ends, those before the first that fails or never ends have returned
in turn. -/
theorem inTurn_cases (arguments : List Value) (handlers : Delegate) (store : Store) :
    (∃ actions after, engine.InTurn arguments handlers store actions after) ∨
      ∃ earlier handler later done between own, handlers = earlier ++ handler :: later ∧
        engine.InTurn arguments earlier store done between ∧
        ((∃ error after, engine.invoke handler.method handler.target arguments between =
            ⟨own, some (.error error, after)⟩) ∨
          engine.invoke handler.method handler.target arguments between = ⟨own, none⟩) := by
  induction handlers generalizing store with
  | nil => exact Or.inl ⟨[], store, .nil⟩
  | cons first rest inductionHypothesis =>
    obtain ⟨own, outcome, invoked⟩ : ∃ own outcome,
        engine.invoke first.method first.target arguments store = ⟨own, outcome⟩ := ⟨_, _, rfl⟩
    cases outcome with
    | none => exact Or.inr ⟨[], first, rest, [], store, own, rfl, .nil, Or.inr invoked⟩
    | some ended =>
      obtain ⟨error | value, between⟩ := ended
      · exact Or.inr ⟨[], first, rest, [], store, own, rfl, .nil, Or.inl ⟨error, between, invoked⟩⟩
      · rcases inductionHypothesis between with ⟨others, after, inTurn⟩ |
          ⟨earlier, handler, later, done, stopped, last, rfl, inTurn, ends⟩
        · exact Or.inl ⟨_, after, .cons invoked inTurn⟩
        · exact Or.inr ⟨first :: earlier, handler, later, _, stopped, last, rfl,
            .cons invoked inTurn, ends⟩

/-- A run of handlers returns when all of them return in turn. -/
theorem runHandlers_eq_ok_iff {handlers : Delegate} {store after : Store}
    {actions : List Action} :
    engine.runHandlers arguments handlers store = ⟨actions, some (.ok (), after)⟩ ↔
      engine.InTurn arguments handlers store actions after := by
  constructor
  · intro returned
    rcases inTurn_cases arguments handlers store with ⟨others, last, inTurn⟩ |
      ⟨earlier, handler, later, done, between, own, rfl, inTurn, ⟨error, last, failed⟩ | endless⟩
    · rw [inTurn.runHandlers] at returned
      obtain ⟨rfl, same⟩ := Course.mk.inj returned
      obtain ⟨-, rfl⟩ := Prod.mk.inj (Option.some.inj same)
      exact inTurn
    · simp [inTurn.runHandlers_failed failed] at returned
    · simp [inTurn.runHandlers_exhausted endless] at returned
  · exact InTurn.runHandlers

/-- A run of handlers fails with the error of the first that fails, after those before it have
returned in turn. -/
theorem runHandlers_eq_error_iff {handlers : Delegate} {store after : Store}
    {actions : List Action} {error : Error} :
    engine.runHandlers arguments handlers store = ⟨actions, some (.error error, after)⟩ ↔
      ∃ earlier handler later done between own, handlers = earlier ++ handler :: later ∧
        engine.InTurn arguments earlier store done between ∧
        engine.invoke handler.method handler.target arguments between =
          ⟨own, some (.error error, after)⟩ ∧ actions = done ++ own := by
  constructor
  · intro ended
    rcases inTurn_cases arguments handlers store with ⟨others, last, inTurn⟩ |
      ⟨earlier, handler, later, done, between, own, rfl, inTurn, ⟨other, last, failed⟩ | endless⟩
    · rw [inTurn.runHandlers] at ended
      simp at ended
    · rw [inTurn.runHandlers_failed failed] at ended
      obtain ⟨rfl, same⟩ := Course.mk.inj ended
      obtain ⟨sameError, rfl⟩ := Prod.mk.inj (Option.some.inj same)
      obtain rfl := Except.error.inj sameError
      exact ⟨earlier, handler, later, done, between, own, rfl, inTurn, failed, rfl⟩
    · simp [inTurn.runHandlers_exhausted endless] at ended
  · rintro ⟨earlier, handler, later, done, between, own, rfl, inTurn, failed, rfl⟩
    exact inTurn.runHandlers_failed failed

/-! ## One operation on an event -/

section Operations

variable {ref : ObjectRef} {name : String} {field : Member} {store : Store}

/-- A field of an object that is an instance of its class is read without a trace. -/
theorem execute_get_apply (isField : field.IsField) (isInstance : field.isStatic = false)
    (assignable : engine.registry.isAssignable ref.type field.declaring = true) {value : Value}
    (slot : store.getSlot? ref field.name = some value) :
    engine.execute (.get field (some (.object ref)) []) store =
      { outcome := some (.ok value, store) } := by
  have accessors : ∀ getter setter, field.body ≠ .property getter setter := by
    simp [isField.body]
  have reads : engine.getValue field (some (.object ref)) [] =
      engine.execute (.get field (some (.object ref)) []) := by
    rw [getValue, getExpecting, requireReceiver_object, Execution.ofExcept_ok_bind,
      closeFor_of_closed isField.closed, Execution.ofExcept_ok_bind]
  have ran : (engine.getValue field (some (.object ref)) []).run store = _ :=
    run_getValue_instance isField isInstance ref [] store
  rw [reads, if_pos assignable, slot, Registry.fieldContent, Option.getD_some] at ran
  obtain ⟨verdict, same⟩ : ∃ verdict, engine.execute (.get field (some (.object ref)) []) store =
      { outcome := some (verdict, store) } := silent_execute_get accessors _ _ store
  rw [Execution.run, same] at ran
  obtain ⟨rfl, -⟩ := Prod.mk.inj (Option.some.inj ran)
  exact same

/-- Storing handlers writes the field. -/
theorem storeSubscribers_eq_setValue (isField : field.IsField) (ref : ObjectRef)
    (delegate : Option Delegate) :
    engine.storeSubscribers field (.object ref) delegate =
      engine.setValue field (some (.object ref)) (Delegate.toValue delegate) [] := by
  rw [setValue, requireReceiver_object, Execution.ofExcept_ok_bind,
    closeFor_of_closed isField.closed, Execution.ofExcept_ok_bind]
  rfl

end Operations

section Events

variable {ref : ObjectRef} {name : String} {field : Member} {store : Store}
  (holds : engine.registry.HoldsEvent ref.type name field)
  (closed : field.declaring.isOpen = false)
include holds closed

/-- The handlers of an object are found in the slot of the event. -/
theorem subscribers_apply {handlers : Delegate}
    (slot : store.getSlot? ref name = some (Delegate.stored handlers)) :
    engine.subscribers field (.object ref) store =
      { outcome := some (.ok (if handlers.isEmpty then none else some handlers), store) } := by
  have fieldNamed : field.name = name := by rw [holds.toDeclaration]; rfl
  have read := execute_get_apply (holds.isField closed) holds.isInstance holds.assignable
    (fieldNamed ▸ slot)
  rw [subscribers, Execution.bind_eq_of_returned read]
  cases handlers <;> rfl

/-- Storing writes the slot of the event, and it is never refused: the field is declared as a
delegate, and both what a delegate is and null fit it. -/
theorem run_storeSubscribers (delegate : Option Delegate) (store : Store) :
    (engine.storeSubscribers field (.object ref) delegate).run store =
      some (.ok (), store.setSlot ref name (Delegate.toValue delegate)) := by
  have same := holds.toDeclaration
  have fieldNamed : field.name = name := by rw [same]; rfl
  have fits : engine.registry.Fits field.type (Delegate.toValue delegate) := by
    rw [same]
    cases delegate with
    | none => exact Or.inl ⟨rfl, rfl⟩
    | some handlers => exact Or.inr ⟨.delegate, rfl, Registry.isAssignable_self _ _⟩
  rw [storeSubscribers_eq_setValue (holds.isField closed), ← fieldNamed]
  exact (run_setValue_instance_eq_ok (holds.isField closed) holds.isInstance).mpr
    ⟨holds.assignable, fits, rfl⟩

variable (composed : engine.registry.Composed) (named : name ≠ "")
  (admitted : ∀ declaration ∈ Declaration.event name, declaration.kind = .event →
    engine.flags.admits declaration = true)
include composed named admitted

omit closed in
/-- The event of an object is found, with its field. -/
theorem eventPlace_object : engine.eventPlace (some (.object ref)) name =
    .ok (field, .object ref) := by
  have given : requireTarget (some (.object ref)) = .ok (.object ref) := rfl
  have spelt : requireName name = .ok () := by
    simp [requireName, named]
  have found : engine.eventField (.object ref) name = .ok field :=
    eventField_of_holdsEvent holds composed admitted rfl
  rw [eventPlace, given, spelt]
  show (do let field ← engine.eventField (.object ref) name; pure (field, Value.object ref)) = _
  rw [found]
  rfl

/-- Subscribing appends a handler to those that are stored. -/
theorem run_subscribe {handlers : Delegate}
    (slot : store.getSlot? ref name = some (Delegate.stored handlers)) (handler : Handler) :
    (engine.subscribe (some (.object ref)) name handler).run store =
      some (.ok (), store.setSlot ref name (Delegate.stored (handlers ++ [handler]))) := by
  rw [subscribe_eq, eventPlace_object holds composed named admitted, Execution.ofExcept_ok_bind,
    Execution.run, Execution.bind_eq_of_returned (subscribers_apply holds closed slot)]
  have appended : Delegate.toValue (some (Delegate.combine
      (if handlers.isEmpty then none else some handlers) handler)) =
      Delegate.stored (handlers ++ [handler]) := by
    cases handlers <;> rfl
  rw [← appended]
  exact run_storeSubscribers holds closed _ store

/-- Unsubscribing deletes the last handler that is the same from those that are stored. -/
theorem run_unsubscribe {handlers : Delegate}
    (slot : store.getSlot? ref name = some (Delegate.stored handlers)) (handler : Handler) :
    (engine.unsubscribe (some (.object ref)) name handler).run store =
      some (.ok (), if handlers.isEmpty then store
        else store.setSlot ref name (Delegate.stored (handlers.deleteLast handler))) := by
  rw [unsubscribe_eq, eventPlace_object holds composed named admitted,
    Execution.ofExcept_ok_bind, Execution.run,
    Execution.bind_eq_of_returned (subscribers_apply holds closed slot)]
  cases handlers with
  | nil => rfl
  | cons first rest =>
    rw [← Delegate.toValue_remove]
    exact run_storeSubscribers holds closed _ store

/-- Raising an event runs the handlers that are stored. -/
theorem raiseEvent_apply {handlers : Delegate}
    (slot : store.getSlot? ref name = some (Delegate.stored handlers)) (arguments : List Value) :
    engine.raiseEvent (some (.object ref)) name arguments store =
      engine.runHandlers arguments handlers store := by
  rw [raiseEvent_eq, eventPlace_object holds composed named admitted, Execution.ofExcept_ok_bind,
    Execution.bind_eq_of_returned (subscribers_apply holds closed slot)]
  cases handlers <;> rfl

end Events

end Engine

/-! ## Histories of events -/

namespace Store

/-- A new object has its slots at the next address, and all others have theirs. -/
theorem getSlot?_allocate (store : Store) (type : Ty) (slots : Slots) (ref : ObjectRef)
    (name : String) : (store.allocate type slots).2.getSlot? ref name =
      if ref.address = store.objects.length then slots.get? name else store.getSlot? ref name := by
  simp only [allocate, getSlot?, Store.slots]
  by_cases last : ref.address = store.objects.length
  · simp [last]
  · rcases Nat.lt_or_gt_of_ne last with below | above
    · simp [last, List.getElem?_append_left below]
    · have outside : (store.objects ++ [StoredObject.mk type slots]).length ≤ ref.address := by
        rw [List.length_append]
        exact above
      rw [if_neg last, List.getElem?_eq_none outside, List.getElem?_eq_none (Nat.le_of_lt above)]

/-- An object that has a slot is there. -/
theorem holds_of_getSlot? {store : Store} {ref : ObjectRef} {name : String} {value : Value}
    (slot : store.getSlot? ref name = some value) : store.Holds ref := by
  by_contra missing
  have outside : store.objects[ref.address]? = none :=
    List.getElem?_eq_none (Nat.le_of_not_lt missing)
  simp [getSlot?, slots, outside] at slot

end Store

/-- What may happen where objects have an event of a name, and the list of handlers that each of
them should have then. Objects are made as the host makes them, handlers are subscribed and
unsubscribed by an engine, and between these anything else may happen that leaves the slot of the
event alone. -/
inductive EventHistory (engine : Engine) (name : String) :
    Store → (ObjectRef → Option Delegate) → Prop
  | start (store : Store) : EventHistory engine name store fun _ => none
  | made {store after : Store} {book : ObjectRef → Option Delegate} {type : Ty} {field : Member}
      {ref : ObjectRef} :
    EventHistory engine name store book →
    engine.registry.HoldsEvent type name field → field.declaring.isOpen = false →
    store.allocate type (engine.registry.fieldSlots type) = (ref, after) →
    EventHistory engine name after (Function.update book ref (some []))
  | subscribed {store after : Store} {book : ObjectRef → Option Delegate} {ref : ObjectRef}
      {handlers : Delegate} {handler : Handler} {verdict : Except Error Unit} :
    EventHistory engine name store book → book ref = some handlers →
    (engine.subscribe (some (.object ref)) name handler).run store = some (verdict, after) →
    EventHistory engine name after (Function.update book ref (some (handlers ++ [handler])))
  | unsubscribed {store after : Store} {book : ObjectRef → Option Delegate} {ref : ObjectRef}
      {handlers remaining : Delegate} {handler : Handler} {verdict : Except Error Unit} :
    EventHistory engine name store book → book ref = some handlers →
    (engine.unsubscribe (some (.object ref)) name handler).run store = some (verdict, after) →
    Delegate.LosesLast handler handlers remaining →
    EventHistory engine name after (Function.update book ref (some remaining))
  | other {store after : Store} {book : ObjectRef → Option Delegate} :
    EventHistory engine name store book →
    (∀ ref handlers, book ref = some handlers →
      after.getSlot? ref name = store.getSlot? ref name) →
    EventHistory engine name after book

/-- Whether every object has stored the handlers that it should have. The objects have the event,
and no two of them are at one address. -/
structure Tracks (engine : Engine) (name : String) (store : Store)
    (book : ObjectRef → Option Delegate) : Prop where
  slot : ∀ ref handlers, book ref = some handlers →
    store.getSlot? ref name = some (Delegate.stored handlers)
  event : ∀ ref handlers, book ref = some handlers →
    ∃ field, engine.registry.HoldsEvent ref.type name field ∧ field.declaring.isOpen = false
  apart : ∀ left right, book left ≠ none → book right ≠ none →
    left.address = right.address → left = right

namespace Tracks

variable {engine : Engine} {name : String} {store after : Store}
  {book : ObjectRef → Option Delegate} (tracks : Tracks engine name store book)
include tracks

/-- The objects are all in the store. -/
theorem address_lt {ref : ObjectRef} (there : book ref ≠ none) :
    ref.address < store.objects.length := by
  obtain ⟨handlers, listed⟩ := Option.ne_none_iff_exists'.mp there
  exact Store.holds_of_getSlot? (tracks.slot ref handlers listed)

/-- One object has other handlers, and nothing changes for those at other addresses. -/
theorem update {ref : ObjectRef} {handlers : Delegate}
    (event : ∃ field, engine.registry.HoldsEvent ref.type name field ∧
      field.declaring.isOpen = false)
    (apart : ∀ object, book object ≠ none → object.address = ref.address → object = ref)
    (written : after.getSlot? ref name = some (Delegate.stored handlers))
    (kept : ∀ object, book object ≠ none → object.address ≠ ref.address →
      after.getSlot? object name = store.getSlot? object name) :
    Tracks engine name after (Function.update book ref (some handlers)) := by
  constructor
  · intro object list listed
    by_cases same : object = ref
    · subst same
      rw [Function.update_self] at listed
      rw [written, Option.some.inj listed]
    · rw [Function.update_of_ne same] at listed
      have there : book object ≠ none := by simp [listed]
      rw [kept object there fun sameAddress => same (apart object there sameAddress),
        tracks.slot object list listed]
  · intro object list listed
    by_cases same : object = ref
    · rw [same]
      exact event
    · rw [Function.update_of_ne same] at listed
      exact tracks.event object list listed
  · intro left right leftThere rightThere sameAddress
    by_cases isLeft : left = ref <;> by_cases isRight : right = ref
    · rw [isLeft, isRight]
    · rw [Function.update_of_ne isRight] at rightThere
      rw [isLeft] at sameAddress ⊢
      exact (apart right rightThere sameAddress.symm).symm
    · rw [Function.update_of_ne isLeft] at leftThere
      rw [isRight] at sameAddress ⊢
      exact apart left leftThere sameAddress
    · rw [Function.update_of_ne isLeft] at leftThere
      rw [Function.update_of_ne isRight] at rightThere
      exact tracks.apart left right leftThere rightThere sameAddress

/-- Other handlers are stored for an object. -/
theorem write {ref : ObjectRef} {handlers : Delegate} (known : book ref = some handlers)
    (others : Delegate) :
    Tracks engine name (store.setSlot ref name (Delegate.stored others))
      (Function.update book ref (some others)) := by
  have there : book ref ≠ none := by simp [known]
  have held : store.Holds ref := tracks.address_lt there
  refine tracks.update (tracks.event ref handlers known) ?_ ?_ ?_
  · intro object inside sameAddress
    exact tracks.apart object ref inside there sameAddress
  · rw [Store.getSlot?_setSlot held, if_pos ⟨rfl, rfl⟩]
  · intro object _ apart
    rw [Store.getSlot?_setSlot held, if_neg fun both => apart both.1]

/-- A new object that has the event starts without handlers. -/
theorem make {type : Ty} {field : Member} {ref : ObjectRef}
    (holds : engine.registry.HoldsEvent type name field)
    (closed : field.declaring.isOpen = false)
    (made : store.allocate type (engine.registry.fieldSlots type) = (ref, after)) :
    Tracks engine name after (Function.update book ref (some [])) := by
  have slots := store.getSlot?_allocate type (engine.registry.fieldSlots type)
  rw [made] at slots
  obtain rfl : ⟨store.objects.length, type⟩ = ref := congrArg Prod.fst made
  refine tracks.update ⟨field, holds, closed⟩ ?_ ?_ ?_
  · intro object there last
    exact absurd last (Nat.ne_of_lt (tracks.address_lt there))
  · rw [slots, if_pos rfl, holds.get?_fieldSlots]
    rfl
  · intro object _ apart
    rw [slots, if_neg apart]

end Tracks

/-- Along a history every object has stored the handlers that it should have. -/
theorem EventHistory.tracks {engine : Engine} {name : String}
    (composed : engine.registry.Composed) (named : name ≠ "")
    (admitted : ∀ declaration ∈ Declaration.event name, declaration.kind = .event →
      engine.flags.admits declaration = true) {store : Store}
    {book : ObjectRef → Option Delegate} (history : EventHistory engine name store book) :
    Tracks engine name store book := by
  induction history with
  | start store => exact ⟨by simp, by simp, by simp⟩
  | made history holds closed made tracks => exact tracks.make holds closed made
  | @subscribed store after book ref handlers handler verdict history known ran tracks =>
    obtain ⟨field, holds, closed⟩ := tracks.event ref handlers known
    have slot := tracks.slot ref handlers known
    rw [Engine.run_subscribe holds closed composed named admitted slot handler] at ran
    obtain ⟨-, rfl⟩ := Prod.mk.inj (Option.some.inj ran)
    exact tracks.write known (handlers ++ [handler])
  | @unsubscribed store after book ref handlers remaining handler verdict history known ran loses
      tracks =>
    obtain ⟨field, holds, closed⟩ := tracks.event ref handlers known
    have slot := tracks.slot ref handlers known
    rw [Engine.run_unsubscribe holds closed composed named admitted slot handler,
      loses.deleteLast] at ran
    obtain ⟨-, rfl⟩ := Prod.mk.inj (Option.some.inj ran)
    cases handlers with
    | nil =>
      -- nothing is written where nothing is subscribed
      obtain rfl : [] = remaining := loses.deleteLast
      rw [← known, Function.update_eq_self]
      exact tracks
    | cons first rest => exact tracks.write known remaining
  | @other store after book history kept tracks =>
    refine ⟨fun ref handlers known => ?_, tracks.event, tracks.apart⟩
    rw [kept ref handlers known, tracks.slot ref handlers known]

/-- The object that a constructor is called for is the new one. -/
theorem Registry.eq_of_constructed {registry : Registry} {run : Interpreter}
    {constructor : Member} {arguments : List Value} {store after : Store} {value : Value}
    (returned : (registry.perform run (.construct constructor arguments)).run store =
      some (.ok value, after)) :
    value = .object (store.allocate constructor.declaring
      (registry.fieldSlots constructor.declaring)).1 := by
  rw [perform] at returned
  obtain ⟨_, _, closed, returned⟩ := Execution.run_bind_eq_ok_iff.mp returned
  obtain ⟨_, _, counted, returned⟩ := Execution.run_bind_eq_ok_iff.mp returned
  obtain ⟨-, rfl⟩ := Prod.mk.inj (Option.some.inj closed)
  obtain ⟨-, rfl⟩ := Prod.mk.inj (Option.some.inj counted)
  cases body : constructor.body with
  | native script =>
    simp only [body] at returned
    obtain ⟨ref, between, allocated, returned⟩ := Execution.run_bind_eq_ok_iff.mp returned
    obtain ⟨_, _, _, returned⟩ := Execution.run_bind_eq_ok_iff.mp returned
    obtain ⟨made, -⟩ := Prod.mk.inj (Option.some.inj allocated)
    obtain ⟨same, -⟩ := Prod.mk.inj (Option.some.inj returned)
    rw [← Except.ok.inj same, ← Except.ok.inj made]
    rfl
  | _ =>
    rw [body] at returned
    obtain ⟨same, -⟩ := Prod.mk.inj (Option.some.inj returned)
    cases same

/-- An object that is constructed has its part in the history, if its constructor and whatever that
calls leave the slot of the event alone. -/
theorem EventHistory.constructed {engine : Engine} {name : String} {store after : Store}
    {book : ObjectRef → Option Delegate} (history : EventHistory engine name store book)
    {constructor : Member} {arguments : List Value} {ref : ObjectRef} {field : Member}
    (holds : engine.registry.HoldsEvent constructor.declaring name field)
    (closed : field.declaring.isOpen = false)
    (returned : (engine.registry.perform engine.run (.construct constructor arguments)).run store =
      some (.ok (.object ref), after))
    (kept : ∀ object : ObjectRef, after.getSlot? object name =
      (store.allocate constructor.declaring
        (engine.registry.fieldSlots constructor.declaring)).2.getSlot? object name) :
    EventHistory engine name after (Function.update book ref (some [])) := by
  have new := Value.object.inj (Registry.eq_of_constructed returned)
  have made : EventHistory engine name (store.allocate constructor.declaring
      (engine.registry.fieldSlots constructor.declaring)).2
      (Function.update book ref (some [])) :=
    history.made holds closed (Prod.ext new.symm rfl)
  exact made.other fun object _ _ => kept object

namespace Engine

/-- An event behaves as a list of handlers, on every object that has it and after any history.
Subscribing appends a handler and unsubscribing deletes the last that is the same, and both always
succeed. The list is stored as a delegate, and as null exactly when it is empty. Raising the event
runs the handlers that were there when it began, each once and in order, and each with the store
that the one before it left, whatever they do to the event. It returns if all of them return. Else
it ends with the error of the first that fails, which none of those behind it follows. -/
theorem event_is_list_of_handlers {engine : Engine} {name : String}
    (composed : engine.registry.Composed) (named : name ≠ "")
    (admitted : ∀ declaration ∈ Declaration.event name, declaration.kind = .event →
      engine.flags.admits declaration = true) {store : Store}
    {book : ObjectRef → Option Delegate} (history : EventHistory engine name store book)
    {ref : ObjectRef} {handlers : Delegate} (known : book ref = some handlers) :
    store.getSlot? ref name =
        some (if handlers.isEmpty then .null else .delegate handlers) ∧
      (∀ handler, ∃ after, (engine.subscribe (some (.object ref)) name handler).run store =
        some (.ok (), after)) ∧
      (∀ handler, ∃ after, (engine.unsubscribe (some (.object ref)) name handler).run store =
        some (.ok (), after)) ∧
      (∀ arguments actions after,
        engine.raiseEvent (some (.object ref)) name arguments store =
            ⟨actions, some (.ok (), after)⟩ ↔
          engine.InTurn arguments handlers store actions after) ∧
      ∀ arguments actions error after,
        engine.raiseEvent (some (.object ref)) name arguments store =
            ⟨actions, some (.error error, after)⟩ ↔
          ∃ earlier handler later done between own, handlers = earlier ++ handler :: later ∧
            engine.InTurn arguments earlier store done between ∧
            engine.invoke handler.method handler.target arguments between =
              ⟨own, some (.error error, after)⟩ ∧ actions = done ++ own := by
  have tracks := history.tracks composed named admitted
  have slot := tracks.slot ref handlers known
  obtain ⟨field, holds, closed⟩ := tracks.event ref handlers known
  refine ⟨slot, ?_, ?_, ?_, ?_⟩
  · intro handler
    exact ⟨_, run_subscribe holds closed composed named admitted slot handler⟩
  · intro handler
    exact ⟨_, run_unsubscribe holds closed composed named admitted slot handler⟩
  · intro arguments actions after
    rw [raiseEvent_apply holds closed composed named admitted slot, runHandlers_eq_ok_iff]
  · intro arguments actions error after
    rw [raiseEvent_apply holds closed composed named admitted slot, runHandlers_eq_error_iff]

/-- Doorbells, with a way to silence them and a way in which they get stuck. -/
def doorbells : Registry := .ofDefinitions
  [{ name := "Doorbell", kind := .classType
     declarations :=
       [{ name := "new", kind := .constructor, body := .native .unit },
        { name := "silence", kind := .method, body := .native (.setSlot "rung" (.literal .null)) },
        { name := "jam", kind := .method, body := .native (.fault "Stuck" "no sound") }] ++
          Declaration.event "rung" }]

/-- A doorbell has a constructor and two methods before its event. -/
theorem doorbells_composed : doorbells.Composed := by
  intro definition listed
  obtain rfl := List.mem_singleton.mp listed
  exact .single rfl (.single rfl (.single rfl (.event "rung" .nil)))

/-- A doorbell is silenced, jams and is silenced again when it is rung, but not the second time.
Ringing it deletes its handlers, and still it jams after that. -/
theorem doorbell_rings_until_stuck :
    let engine : Engine := { registry := doorbells, run := doorbells.interpreter 1 }
    let bell : ObjectRef := ⟨0, .named ⟨0⟩ []⟩
    let create : Member := { name := "new", kind := .constructor, body := .native .unit
                             id := ⟨⟨0⟩, 0⟩, declaring := bell.type }
    let silence : Member := { name := "silence", kind := .method, id := ⟨⟨0⟩, 1⟩
                              body := .native (.setSlot "rung" (.literal .null))
                              declaring := bell.type }
    let jam : Member := { name := "jam", kind := .method, id := ⟨⟨0⟩, 2⟩, declaring := bell.type
                          body := .native (.fault "Stuck" "no sound") }
    let silences : Handler := .mk (some (.object bell)) silence
    let jams : Handler := .mk (some (.object bell)) jam
    ∃ made once twice again left silent : Store,
      (doorbells.perform engine.run (.construct create [])).run .empty =
        some (.ok (.object bell), made) ∧
      (engine.subscribe (some (.object bell)) "rung" silences).run made = some (.ok (), once) ∧
      (engine.subscribe (some (.object bell)) "rung" jams).run once = some (.ok (), twice) ∧
      (engine.subscribe (some (.object bell)) "rung" silences).run twice = some (.ok (), again) ∧
      (engine.unsubscribe (some (.object bell)) "rung" silences).run again = some (.ok (), left) ∧
      left.getSlot? bell "rung" = some (.delegate [silences, jams]) ∧
      silent.getSlot? bell "rung" = some .null ∧
      engine.raiseEvent (some (.object bell)) "rung" [] left =
        ⟨[.entered ⟨.method, .setSlot "rung" (.literal .null),
            ⟨silence, some (.object bell), []⟩⟩,
          .entered ⟨.method, .fault "Stuck" "no sound", ⟨jam, some (.object bell), []⟩⟩],
         some (.error (.rethrown
          { kind := "Stuck", message := "no sound", trace := ["Doorbell.jam"] }), silent)⟩ := by
  intro engine bell create silence jam silences jams
  let backing : Member := { name := "rung", kind := .field, type := .delegate
                            visibility := .privateAccess, id := ⟨⟨0⟩, 3⟩, declaring := bell.type }
  have holds : engine.registry.HoldsEvent bell.type "rung" backing :=
    ⟨rfl, _, [_, _, _], [], rfl, rfl⟩
  let store (content : Value) : Store := { objects := [⟨bell.type, ⟨[("rung", content)]⟩⟩] }
  have created : (doorbells.perform engine.run (.construct create [])).run .empty =
      some (.ok (.object bell), store .null) := rfl
  have first : (engine.subscribe (some (.object bell)) "rung" silences).run (store .null) =
      some (.ok (), store (.delegate [silences])) := rfl
  have second : (engine.subscribe (some (.object bell)) "rung" jams).run
      (store (.delegate [silences])) = some (.ok (), store (.delegate [silences, jams])) := rfl
  have third : (engine.subscribe (some (.object bell)) "rung" silences).run
      (store (.delegate [silences, jams])) =
        some (.ok (), store (.delegate [silences, jams, silences])) := rfl
  have loses : Delegate.LosesLast silences ([silences, jams] ++ silences :: [])
      ([silences, jams] ++ []) :=
    .found (by simp [silences, silence, Value.sameHandler, Value.sameTarget, Value.same]) (by simp)
  have listed : (store (.delegate [silences, jams, silences])).getSlot? bell "rung" =
      some (Delegate.stored ([silences, jams] ++ silences :: [])) := rfl
  have last : (engine.unsubscribe (some (.object bell)) "rung" silences).run
      (store (.delegate [silences, jams, silences])) =
        some (.ok (), store (.delegate [silences, jams])) := by
    rw [run_unsubscribe holds rfl doorbells_composed (by decide)
      (fun _ _ _ => BindingFlags.admits_all _) listed, loses.deleteLast]
    rfl
  have start : EventHistory engine "rung" .empty _ := .start _
  have history := start.constructed holds rfl created fun _ => rfl
  have history := history.subscribed (Function.update_self ..) first
  have history := history.subscribed (Function.update_self ..) second
  have history := history.subscribed (Function.update_self ..) third
  have history := history.unsubscribed (Function.update_self ..) last loses
  obtain ⟨slot, -, -, -, failing⟩ := event_is_list_of_handlers doorbells_composed (by decide)
    (fun _ _ _ => BindingFlags.admits_all _) history (Function.update_self ..)
  have silenced : engine.InTurn [] [silences] (store (.delegate [silences, jams])) _
      (store .null) := .cons rfl .nil
  refine ⟨_, _, _, _, _, store .null, created, first, second, third, last, slot, rfl, ?_⟩
  exact (failing _ _ _ _).mpr ⟨[silences], jams, [], _, _, _, rfl, silenced, rfl, rfl⟩

/-- A class of bells with an event that has no name. -/
def unnamedBells : Registry := .ofDefinitions
  [{ name := "Bell", kind := .classType
     declarations := [{ name := "new", kind := .constructor, body := .native .unit }] ++
       Declaration.event "" }]

/-- Chimes of a material, and clocks that are chimes of a material which they take from the
definition of vases. -/
def borrowedChimes : Registry := .ofDefinitions
  [{ name := "Chime", kind := .classType, generics := ["Material"]
     declarations := Declaration.event "rung" },
   { name := "Vase", kind := .classType, generics := ["Material"] },
   { name := "Clock", kind := .classType
     base := some (.named ⟨0⟩ [.parameter ⟨.definition ⟨1⟩, 0⟩])
     declarations := [{ name := "new", kind := .constructor, body := .native .unit }] }]

/-- The builder takes an event without a name like any other; it is refused later, when it is used.
-/
theorem unnamedBells_composed : unnamedBells.Composed := by
  intro definition listed
  obtain rfl := List.mem_singleton.mp listed
  exact .single rfl (.event "" .nil)

/-- The builder also takes a base that mentions the parameter of another definition. -/
theorem borrowedChimes_composed : borrowedChimes.Composed := by
  simp only [Registry.Composed, borrowedChimes, Registry.ofDefinitions, List.forall_mem_cons]
  exact ⟨.event "rung" .nil, .nil, .single rfl .nil, fun _ none => nomatch none⟩

/-- Nothing can be subscribed to an event that has no name, nor to one of a class that is open as
seen from the object. Both objects are new, have the only field of the name of the event, and are
refused by an engine that admits everything. -/
theorem events_out_of_reach :
    let bell : ObjectRef := ⟨0, .named ⟨0⟩ []⟩
    let clock : ObjectRef := ⟨0, .named ⟨2⟩ []⟩
    let bells : Engine := { registry := unnamedBells, run := unnamedBells.interpreter 1 }
    let clocks : Engine := { registry := borrowedChimes, run := borrowedChimes.interpreter 1 }
    let handler : Handler := .mk none { name := "listen", kind := .method, id := ⟨⟨0⟩, 0⟩
                                        body := .native .unit, declaring := bell.type }
    unnamedBells.Composed ∧ borrowedChimes.Composed ∧
      (∃ field store, unnamedBells.HoldsEvent bell.type "" field ∧
        (bells.construct bell.type []).run .empty = some (.ok (.object bell), store) ∧
        (bells.subscribe (some (.object bell)) "" handler).run store =
          some (.error (.argumentNull "name"), store) ∧
        store.getSlot? bell "" = some .null) ∧
      ∃ field store, borrowedChimes.HoldsEvent clock.type "rung" field ∧
        (clocks.construct clock.type []).run .empty = some (.ok (.object clock), store) ∧
        (clocks.subscribe (some (.object clock)) "rung" handler).run store =
          some (.error (.cannotInfer "Chime<Material>.rung"), store) ∧
        store.getSlot? clock "rung" = some .null := by
  refine ⟨unnamedBells_composed, borrowedChimes_composed, ⟨_, _, ⟨rfl, ?_⟩, rfl, rfl, rfl⟩,
    _, _, ⟨rfl, ?_⟩, rfl, rfl, rfl⟩
  · exact ⟨_, [_], [], rfl, rfl⟩
  · exact ⟨_, [], [], rfl, rfl⟩

end Engine

end LateBinding
