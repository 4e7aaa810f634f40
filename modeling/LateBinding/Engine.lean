import LateBinding.Resolution
import LateBinding.Call
import LateBinding.ResultShape

/-!
# The engine

The operations by which a program uses members it chooses while it runs: construct a type,
read and write fields and properties, call methods, by a descriptor or by name. Each operation
resolves the member from the types of the values it is given, closes it, and has the host
execute it. What a body fails with reaches the caller under its own identity, without the
layer that the host put around it.

An operation on an open descriptor closes it from the receiver, the arguments and the use of
the result. Names have to be given, and so do receivers, which null is not.
-/
namespace LateBinding

/-- What an operation needs to know: the registry, the members that may be chosen, and the
interpreter that runs bodies. -/
structure Engine where
  registry : Registry
  flags : BindingFlags := .all
  run : Interpreter

namespace Engine

/-- Have the host execute a call, and take off the layer around a fault. -/
def execute (engine : Engine) (call : Call) : Execution Error Value :=
  (engine.registry.perform engine.run call).mapError Error.unwrapInvocation

/-- Read a value in a shape, or fail because it has another. -/
def readAs (engine : Engine) (shape : ResultShape) (value : Value) : Except Error TypedResult :=
  match shape.read? value with
  | some result => .ok result
  | none => .error (.invalidCast (engine.registry.typeName shape.type)
      (engine.registry.typeNameOrNull value.type?))

/-- An execution whose value is read in a shape. -/
def andRead (engine : Engine) (shape : ResultShape) (execution : Execution Error Value) :
    Execution Error TypedResult := do
  let value ← execution
  .ofExcept (engine.readAs shape value)

/-- A value that is there and not null. -/
def present? (target : Option Value) : Option Value :=
  target.filter fun value => !value.isNull

/-- A receiver has to be given. -/
def requireTarget (target : Option Value) : Except Error Value :=
  match present? target with
  | some value => .ok value
  | none => .error (.argumentNull "target")

/-- A name has to be given. -/
def requireName (name : String) : Except Error Unit :=
  if name.isEmpty then .error (.argumentNull "name") else .ok ()

/-- An instance member other than a constructor needs a receiver. -/
def requireReceiver (engine : Engine) (member : Member) (target : Option Value) :
    Except Error Unit :=
  if member.isStatic || member.kind = .constructor || (present? target).isSome then .ok ()
  else .error (.memberAccess (engine.registry.memberPath member))

/-- Close a descriptor for its use, if it is open. -/
def closeFor (engine : Engine) (member : Member) (target : Option Value)
    (arguments : List Value) (expectation : Expectation) : Except Error Member :=
  if member.isOpen then
    match engine.registry.unifyWith member (target.bind Value.type?) (argumentTypes arguments)
        expectation with
    | .ok matched => engine.registry.close member matched
    | .error _ => .error (.cannotInfer (engine.registry.memberPath member))
  else .ok member

/-! ## Construction -/

/-- Construct a type with the first constructor that the arguments fit. An open type is closed
with what the arguments say of its parameters. -/
def construct (engine : Engine) (type : Ty) (arguments : List Value) :
    Execution Error Value := do
  let site : CallSite :=
    { type, name := Declaration.constructorName, kind := .constructor, receiver := none
      arguments := argumentTypes arguments, expected := none }
  match engine.registry.resolve engine.flags site with
  | .error _ => .fail (.cannotInfer
      (engine.registry.typeName type ++ "." ++ Declaration.constructorName))
  | .ok selected =>
    let constructor ← .ofExcept (engine.registry.close selected.candidate selected.matched)
    engine.execute (.construct constructor arguments)

/-- Construct a type and read the object in a shape. -/
def constructAs (engine : Engine) (shape : ResultShape) (type : Ty) (arguments : List Value) :
    Execution Error TypedResult :=
  engine.andRead shape (engine.construct type arguments)

/-- Construct a type without arguments. -/
def createDefault (engine : Engine) (type : Ty) : Execution Error Value :=
  engine.construct type []

/-! ## Fields and properties -/

/-- Read a field or property whose value is used at a type, if one is expected. -/
def getExpecting (engine : Engine) (member : Member) (target : Option Value)
    (indices : List Value) (expected : Option Ty) : Execution Error Value := do
  .ofExcept (engine.requireReceiver member target)
  let closed ← .ofExcept (engine.closeFor member target indices (.ofResult expected))
  engine.execute (.get closed target indices)

/-- Read a field or property. -/
def getValue (engine : Engine) (member : Member) (target : Option Value)
    (indices : List Value) : Execution Error Value :=
  engine.getExpecting member target indices none

/-- Read a field or property in a shape, which helps to close an open property. -/
def getValueAs (engine : Engine) (shape : ResultShape) (member : Member) (target : Option Value)
    (indices : List Value) : Execution Error TypedResult :=
  engine.andRead shape (engine.getExpecting member target indices shape.expected?)

/-- Write a field or property. -/
def setValue (engine : Engine) (member : Member) (target : Option Value) (value : Value)
    (indices : List Value) : Execution Error Unit := do
  .ofExcept (engine.requireReceiver member target)
  let closed ← .ofExcept (engine.closeFor member target indices (.accepts value.type?))
  let _ ← engine.execute (.set closed target value indices)
  pure ()

/-- The first field of a name on the type of a value. -/
def field (engine : Engine) (target : Value) (name : String) : Except Error Member :=
  let type := target.type?.getD .object
  match (engine.registry.members type name engine.flags).find? (·.kind = .field) with
  | some field => .ok field
  | none => .error (.missingMember (engine.registry.typeName type) name)

/-- Read the field of a name in a shape. -/
def getFieldAs (engine : Engine) (shape : ResultShape) (target : Option Value) (name : String) :
    Execution Error TypedResult := do
  let receiver ← .ofExcept (requireTarget target)
  .ofExcept (requireName name)
  let field ← .ofExcept (engine.field receiver name)
  engine.andRead shape (engine.getValue field (some receiver) [])

/-- Write the field of a name. -/
def setField (engine : Engine) (target : Option Value) (name : String) (value : Value) :
    Execution Error Unit := do
  let receiver ← .ofExcept (requireTarget target)
  .ofExcept (requireName name)
  let field ← .ofExcept (engine.field receiver name)
  engine.setValue field (some receiver) value []

/-! ## Calls -/

/-- Call a method or constructor by its descriptor, for a result used at a type, if one is
expected. -/
def invokeExpecting (engine : Engine) (member : Member) (target : Option Value)
    (arguments : List Value) (expected : Option Ty) : Execution Error Value := do
  .ofExcept (engine.requireReceiver member target)
  let closed ← .ofExcept (engine.closeFor member target arguments (.ofResult expected))
  if closed.kind = .constructor then engine.execute (.construct closed arguments)
  else engine.execute (.invoke closed target arguments)

/-- Call a method or constructor by its descriptor. -/
def invoke (engine : Engine) (member : Member) (target : Option Value)
    (arguments : List Value) : Execution Error Value :=
  engine.invokeExpecting member target arguments none

/-- Call by a descriptor and read the result in a shape. -/
def invokeAs (engine : Engine) (shape : ResultShape) (member : Member) (target : Option Value)
    (arguments : List Value) : Execution Error TypedResult :=
  engine.andRead shape (engine.invokeExpecting member target arguments shape.expected?)

/-- Call the method of a name on a value, for a result used at a type, if one is expected.
Only methods whose result can be used at that type are considered. -/
def invokeMethodExpecting (engine : Engine) (target : Option Value) (name : String)
    (arguments : List Value) (expected : Option Ty) : Execution Error Value := do
  let receiver ← .ofExcept (requireTarget target)
  .ofExcept (requireName name)
  let type := receiver.type?.getD .object
  let site : CallSite :=
    { type, name, kind := .method, receiver := some type
      arguments := argumentTypes arguments, expected }
  let resolved ← .ofExcept (engine.registry.resolveMember engine.flags site)
  engine.execute (.invoke resolved.member (some receiver) arguments)

/-- Call the method of a name on a value. -/
def invokeMethod (engine : Engine) (target : Option Value) (name : String)
    (arguments : List Value) : Execution Error Value :=
  engine.invokeMethodExpecting target name arguments none

/-- Call the method of a name on a value and read the result in a shape. -/
def invokeMethodAs (engine : Engine) (shape : ResultShape) (target : Option Value)
    (name : String) (arguments : List Value) : Execution Error TypedResult :=
  engine.andRead shape (engine.invokeMethodExpecting target name arguments shape.expected?)

/-- Call the static method of a name on a type. -/
def invokeStatic (engine : Engine) (type : Ty) (name : String) (arguments : List Value) :
    Execution Error Value := do
  .ofExcept (requireName name)
  let site : CallSite :=
    { type, name, kind := .method, receiver := none
      arguments := argumentTypes arguments, expected := none }
  let resolved ← .ofExcept
    (engine.registry.resolveMember engine.flags.withoutInstance site)
  engine.execute (.invoke resolved.member none arguments)

end Engine

end LateBinding
