import LateBinding.Engine

/-!
# Events

An event keeps its handlers in a field that holds a delegate, or null while there is no
handler. Subscribing appends a handler; unsubscribing deletes the last one that is the same as
the given handler. Raising an event reads the field once and runs the handlers it found there
in order, whatever they do to the field; the first that fails ends it.
-/
namespace LateBinding

namespace Engine

/-- The field that holds the handlers of an event: the first field of the event's field name on
the type that declares the event. -/
def eventField (engine : Engine) (target : Value) (name : String) : Except Error Member :=
  let type := target.type?.getD .object
  let missing (member : String) : Except Error Member :=
    .error (.missingMember (engine.registry.typeName type) member)
  match (engine.registry.members type name engine.flags).find? (·.kind = .event) with
  | none => missing name
  | some event => match event.body with
    | .event fieldName =>
      match (engine.registry.members event.declaring fieldName .all).find? (·.kind = .field) with
      | some field => .ok field
      | none => missing fieldName
    | _ => missing name

/-- The handlers in a field, none when it is null. -/
def subscribers (engine : Engine) (field : Member) (target : Value) :
    Execution Error (Option Delegate) := do
  match ← engine.execute (.get field (some target) []) with
  | .delegate handlers => pure (some handlers)
  | .literal .null => pure none
  | other => .fail (.invalidCast "delegate" (engine.registry.typeNameOrNull other.type?))

/-- Store handlers in a field. -/
def storeSubscribers (engine : Engine) (field : Member) (target : Value)
    (delegate : Option Delegate) : Execution Error Unit := do
  let _ ← engine.execute (.set field (some target) (Delegate.toValue delegate) [])
  pure ()

/-- Run handlers in order. -/
def runHandlers (engine : Engine) (arguments : List Value) : Delegate → Execution Error Unit
  | [] => pure ()
  | handler :: rest => do
    let _ ← engine.invoke handler.method handler.target arguments
    engine.runHandlers arguments rest

/-- Raise the event of a name on a value. An event without handlers does nothing. -/
def raiseEvent (engine : Engine) (target : Option Value) (name : String)
    (arguments : List Value) : Execution Error Unit := do
  let receiver ← .ofExcept (requireTarget target)
  .ofExcept (requireName name)
  let field ← .ofExcept (engine.eventField receiver name)
  match ← engine.subscribers field receiver with
  | some handlers => engine.runHandlers arguments handlers
  | none => pure ()

/-- Append a handler to an event. -/
def subscribe (engine : Engine) (target : Option Value) (name : String) (handler : Handler) :
    Execution Error Unit := do
  let receiver ← .ofExcept (requireTarget target)
  .ofExcept (requireName name)
  let field ← .ofExcept (engine.eventField receiver name)
  let current ← engine.subscribers field receiver
  engine.storeSubscribers field receiver (some (Delegate.combine current handler))

/-- Delete the last handler of an event that is the same as the given one. -/
def unsubscribe (engine : Engine) (target : Option Value) (name : String) (handler : Handler) :
    Execution Error Unit := do
  let receiver ← .ofExcept (requireTarget target)
  .ofExcept (requireName name)
  let field ← .ofExcept (engine.eventField receiver name)
  match ← engine.subscribers field receiver with
  | some current => engine.storeSubscribers field receiver (Delegate.remove current handler)
  | none => pure ()

end Engine

end LateBinding
