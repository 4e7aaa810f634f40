import LateBinding.Error
import LateBinding.Registry.Enumeration
import LateBinding.Execution

/-!
# Executing closed members

The host executes a member that is closed, on behalf of whoever resolved it, and trusts no
one: it checks that the member is closed, that the receiver is an instance of the declaring
type, that there are as many arguments as parameters and that each is of a type its parameter
admits. Only then does a body run, or a slot change.

Bodies are run by an interpreter that the host is given. Everything said of the host here
therefore holds whatever bodies do; `Script.Evaluation` supplies the interpreter that gives
scripts their meaning.
-/
namespace LateBinding

/-- Something that runs the body of a member. -/
abbrev Interpreter := Script → Frame → Execution Fault Value

/-- A request to execute a closed member. -/
inductive Call
  | construct (constructor : Member) (arguments : List Value)
  | invoke (method : Member) (target : Option Value) (arguments : List Value)
  | get (member : Member) (target : Option Value) (indices : List Value)
  | set (member : Member) (target : Option Value) (value : Value) (indices : List Value)

namespace Registry

/-- What a field of a type holds before it is written. -/
def defaultValue : Ty → Value
  | .primitive primitive => .literal (.default primitive)
  | _ => .null

/-- The slots of a new object: the instance fields of its class and base classes, those of the
root class first. A field takes the place of an earlier one of its name. -/
def fieldSlots (registry : Registry) (type : Ty) : Slots :=
  let declared := (registry.baseChain type).reverse.flatMap registry.declaredMembers
  let fields := declared.filter fun member => member.kind = .field && !member.isStatic
  .ofList (fields.map fun field => (field.name, defaultValue field.type))

/-- Only closed members are executed. -/
def checkClosed (registry : Registry) (member : Member) : Except Error Unit :=
  if member.isOpen then .error (.cannotInfer (registry.memberPath member)) else .ok ()

/-- Whether a value is admitted where a type is declared: null unless it is a value type, any
other value by assignability. -/
def admits (registry : Registry) (declared : Ty) (value : Value) : Bool :=
  match value.type? with
  | none => !registry.isValueType declared
  | some actual => registry.isAssignable actual declared

/-- A value has to be admitted where it is used. -/
def checkValue (registry : Registry) (declared : Ty) (value : Value) : Except Error Unit :=
  if registry.admits declared value then .ok ()
  else .error (.invalidCast (registry.typeName declared) (registry.typeNameOrNull value.type?))

/-- Check values against declared types, place by place. -/
def checkValues (registry : Registry) : List Ty → List Value → Except Error Unit
  | declared :: declaredRest, value :: valueRest => do
    registry.checkValue declared value
    registry.checkValues declaredRest valueRest
  | _, _ => .ok ()

/-- Arguments have to be as many as the parameters, and each admitted. -/
def checkArguments (registry : Registry) (member : Member) (arguments : List Value) :
    Except Error Unit :=
  if member.parameters.length = arguments.length then
    registry.checkValues member.parameters arguments
  else
    .error (.argumentCount (registry.memberPath member) member.parameters.length arguments.length)

/-- The receiver that a member runs on: none for a static member, else the given value, which
has to be an instance of the declaring type. -/
def checkTarget (registry : Registry) (member : Member) (target : Option Value) :
    Except Error (Option Value) :=
  if member.isStatic then .ok none
  else match target.bind fun value => value.type?.map ((value, ·)) with
    | none => .error (.memberAccess (registry.memberPath member))
    | some (value, actual) =>
      if registry.isAssignable actual member.declaring then .ok (some value)
      else .error (.targetMismatch (registry.typeName member.declaring)
        (registry.typeName actual))

/-- Run a body. A fault leaves with the member in its trace and one layer around it. -/
def activate (registry : Registry) (run : Interpreter) (role : Role) (script : Script)
    (frame : Frame) : Execution Error Value := do
  .enter { role, script, frame }
  (run script frame).mapError fun fault =>
    let path := registry.memberPath frame.member
    .targetInvocation path (fault.pushFrame path)

/-- Read a field of an object, or of a type when it is static. A slot that was never written,
or that the object does not have, holds the default. -/
def readField (registry : Registry) (field : Member) (target : Option Value) :
    Execution Error Value :=
  let initial := defaultValue field.type
  if field.isStatic then
    .look fun store => (store.statics.get? (field.declaring, field.name)).getD initial
  else match target.bind Value.object? with
    | some ref => .look fun store => (store.getSlot? ref field.name).getD initial
    | none => .fail (.memberAccess (registry.memberPath field))

/-- Write a field of an object, or of a type when it is static. -/
def writeField (registry : Registry) (field : Member) (target : Option Value) (value : Value) :
    Execution Error Unit := do
  .ofExcept (registry.checkValue field.type value)
  if field.isStatic then .update fun store => store.setStatic field.declaring field.name value
  else match target.bind Value.object? with
    | some ref => .update fun store => store.setSlot ref field.name value
    | none => .fail (.memberAccess (registry.memberPath field))

/-- Execute a closed member. -/
def perform (registry : Registry) (run : Interpreter) : Call → Execution Error Value
  | .construct constructor arguments => do
    .ofExcept (registry.checkClosed constructor)
    .ofExcept (registry.checkArguments constructor arguments)
    match constructor.body with
    | .native script =>
      let ref ← .allocate constructor.declaring (registry.fieldSlots constructor.declaring)
      let frame : Frame := ⟨constructor, some (.object ref), arguments⟩
      let _ ← registry.activate run .constructor script frame
      pure (.object ref)
    | _ => .fail (.cannotInfer (registry.memberPath constructor))
  | .invoke method target arguments => do
    .ofExcept (registry.checkClosed method)
    let receiver ← .ofExcept (registry.checkTarget method target)
    .ofExcept (registry.checkArguments method arguments)
    match method.body with
    | .native script => registry.activate run .method script ⟨method, receiver, arguments⟩
    | _ => .fail (.missingMethod (registry.typeName method.declaring) method.name)
  | .get member target indices => do
    .ofExcept (registry.checkClosed member)
    let receiver ← .ofExcept (registry.checkTarget member target)
    match member.body with
    | .field => registry.readField member receiver
    | .property (some getter) _ =>
      .ofExcept (registry.checkArguments member indices)
      registry.activate run .getter getter ⟨member, receiver, indices⟩
    | _ => .fail (.noAccessor (registry.memberPath member))
  | .set member target value indices => do
    .ofExcept (registry.checkClosed member)
    let receiver ← .ofExcept (registry.checkTarget member target)
    match member.body with
    | .field =>
      registry.writeField member receiver value
      pure .unit
    | .property _ (some setter) =>
      .ofExcept (registry.checkArguments member indices)
      .ofExcept (registry.checkValue member.type value)
      let _ ← registry.activate run .setter setter ⟨member, receiver, indices ++ [value]⟩
      pure .unit
    | _ => .fail (.noAccessor (registry.memberPath member))

end Registry

end LateBinding
