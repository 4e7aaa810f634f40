import LateBinding.Engine.Events

/-!
# The meaning of scripts

A script is evaluated in the frame of the member it belongs to. Parts are evaluated from left
to right, and the first that fails ends the whole. Values are joined as text once all of them
are there, so an object shows the slots that it has by then.

What a script asks of the engine is handed to a function that answers requests, so a script by
itself is evaluated by recursion on its parts; `Registry.interpreter` ties the two together,
and counts how deep members call one another.

In a script the engine may choose every member. An error that a request ends with becomes a
fault of the running member.
-/
namespace LateBinding

/-- What a script may ask of the engine. -/
inductive Request
  | callMethod (target : Value) (name : String) (arguments : List Value)
  | callStatic (type : Ty) (name : String) (arguments : List Value)
  | construct (type : Ty) (arguments : List Value)
  | raise (target : Value) (event : String) (arguments : List Value)

/-- The engine's answer to a request. -/
def Engine.answer (engine : Engine) : Request → Execution Error Value
  | .callMethod target name arguments => engine.invokeMethod (some target) name arguments
  | .callStatic type name arguments => engine.invokeStatic type name arguments
  | .construct type arguments => engine.construct type arguments
  | .raise target event arguments => do
    engine.raiseEvent (some target) event arguments
    pure .unit

namespace Frame

/-- The receiver, which has to be an object. -/
def self (frame : Frame) : Except Fault ObjectRef :=
  match frame.target.bind Value.object? with
  | some ref => .ok ref
  | none => .error
      { kind := "NullReference"
        message := "'" ++ frame.member.name ++ "' requires an object target" }

/-- The argument at a position, null beyond the last. -/
def argument (frame : Frame) (position : Nat) : Value :=
  frame.arguments.getD position .null

end Frame

namespace Script

/-- The sum of two integers. -/
def sum (overflow : String) (left right : Value) : Except Fault Value :=
  match left.int?, right.int? with
  | some a, some b => match Literal.ofInt32? (a.toInt + b.toInt) with
    | some result => .ok (.literal result)
    | none => .error { kind := "Overflow", message := overflow }
  | _, _ => .error { kind := "Type", message := "add needs two i32 values" }

/-- The quotient of two integers, rounded toward zero. A quotient that does not exist or does
not fit is reported as a division by zero. -/
def quotient (left right : Value) : Except Fault Value :=
  let undefinedQuotient : Except Fault Value :=
    .error { kind := "DivideByZero", message := "attempted to divide by zero" }
  match left.int?, right.int? with
  | some a, some b =>
    if b.toInt = 0 then undefinedQuotient
    else match Literal.ofInt32? (a.toInt.tdiv b.toInt) with
      | some result => .ok (.literal result)
      | none => undefinedQuotient
  | _, _ => .error { kind := "Type", message := "divide needs two i32 values" }

/-- A text repeated; no text repeats as the empty one, which stays empty however often. -/
def repeated (content times : Value) : Except Fault Value :=
  let count := (times.int?.getD 0).toInt
  let text := content.text?.getD ""
  if count < 0 then
    .error { kind := "ArgumentOutOfRange", message := "count must not be negative" }
  else if text.isEmpty then .ok (.text "")
  else .ok (.text (String.join (List.replicate count.toNat text)))

mutual

/-- Evaluate a script. -/
def evaluate (registry : Registry) (answer : Request → Execution Error Value) (frame : Frame) :
    Script → Execution Fault Value
  | .literal content => pure (.literal content)
  | .argument position => pure (frame.argument position)
  | .self => do
    let ref ← .ofExcept frame.self
    pure (.object ref)
  | .target => pure (frame.target.getD .null)
  | .getSlot name => do
    let ref ← .ofExcept frame.self
    .look fun store => (store.getSlot? ref name).getD .null
  | .setSlot name content => do
    let value ← evaluate registry answer frame content
    let ref ← .ofExcept frame.self
    Execution.update fun store => store.setSlot ref name value
    pure .unit
  | .sequence steps => do
    let values ← evaluateAll registry answer frame steps
    pure (values.getLast?.getD .unit)
  | .fault kind message => .fail { kind, message }
  | .ifNull scrutinee whenNull otherwise => do
    let value ← evaluate registry answer frame scrutinee
    if value.isNull then evaluate registry answer frame whenNull
    else evaluate registry answer frame otherwise
  | .add overflow left right => do
    let a ← evaluate registry answer frame left
    let b ← evaluate registry answer frame right
    .ofExcept (sum overflow a b)
  | .divide left right => do
    let a ← evaluate registry answer frame left
    let b ← evaluate registry answer frame right
    .ofExcept (quotient a b)
  | .concat parts => do
    let values ← evaluateAll registry answer frame parts
    .look fun store => .text (String.join (values.map store.plainText))
  | .display content => do
    let value ← evaluate registry answer frame content
    .look fun store => .text (store.display value)
  | .repeatText content times => do
    let text ← evaluate registry answer frame content
    let count ← evaluate registry answer frame times
    .ofExcept (repeated text count)
  | .typeArguments =>
    pure (.text (commaSeparated (registry.typeNames frame.member.declaring.arguments)))
  | .methodArguments =>
    pure (.text (commaSeparated (registry.typeNames frame.member.methodArguments)))
  | .typeName content => do
    let value ← evaluate registry answer frame content
    pure (.text (registry.typeNameOrNull value.type?))
  | .path => pure (.text (registry.memberPath frame.member))
  | .argumentCount => pure (.int (Int32.ofNat frame.arguments.length))
  | .callMethod receiver name arguments => do
    let called ← evaluate registry answer frame receiver
    let values ← evaluateAll registry answer frame arguments
    (answer (.callMethod called name values)).mapError Fault.ofError
  | .callStatic type name arguments => do
    let values ← evaluateAll registry answer frame arguments
    (answer (.callStatic type name values)).mapError Fault.ofError
  | .construct type arguments => do
    let values ← evaluateAll registry answer frame arguments
    (answer (.construct type values)).mapError Fault.ofError
  | .raise receiver event arguments => do
    let raised ← evaluate registry answer frame receiver
    let values ← evaluateAll registry answer frame arguments
    (answer (.raise raised event values)).mapError Fault.ofError

/-- Evaluate scripts in order and keep every value. -/
def evaluateAll (registry : Registry) (answer : Request → Execution Error Value)
    (frame : Frame) : List Script → Execution Fault (List Value)
  | [] => pure []
  | script :: rest => do
    let value ← evaluate registry answer frame script
    let values ← evaluateAll registry answer frame rest
    pure (value :: values)

end

end Script

/-- The interpreter that evaluates scripts, with members calling one another to a depth. -/
def Registry.interpreter (registry : Registry) : (depth : Nat) → Interpreter
  | 0 => fun _ _ => .exhausted
  | depth + 1 => fun script frame =>
    let engine : Engine := { registry, run := registry.interpreter depth }
    script.evaluate registry engine.answer frame

end LateBinding
