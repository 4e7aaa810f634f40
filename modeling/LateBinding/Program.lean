import LateBinding.Script.Evaluation

/-!
# Programs

What may be done with a registry from outside, and from inside a body: operations of the engine
with any flags, calls of the host with any member, and changes of the store. A program does
these in an order that may depend on all answers so far, errors included, and ends with a verdict
of its own.

Bodies may be programs instead of scripts. Such bodies call one another to a depth, as scripts
do.
-/
namespace LateBinding

/-- An operation of the engine with its inputs. -/
inductive Operation
  | construct (type : Ty) (arguments : List Value)
  | constructAs (shape : ResultShape) (type : Ty) (arguments : List Value)
  | createDefault (type : Ty)
  | getValue (member : Member) (target : Option Value) (indices : List Value)
  | getValueAs (shape : ResultShape) (member : Member) (target : Option Value)
      (indices : List Value)
  | setValue (member : Member) (target : Option Value) (value : Value) (indices : List Value)
  | getFieldAs (shape : ResultShape) (target : Option Value) (name : String)
  | setField (target : Option Value) (name : String) (value : Value)
  | invoke (member : Member) (target : Option Value) (arguments : List Value)
  | invokeAs (shape : ResultShape) (member : Member) (target : Option Value)
      (arguments : List Value)
  | invokeMethod (target : Option Value) (name : String) (arguments : List Value)
  | invokeMethodAs (shape : ResultShape) (target : Option Value) (name : String)
      (arguments : List Value)
  | invokeStatic (type : Ty) (name : String) (arguments : List Value)
  | raiseEvent (target : Option Value) (name : String) (arguments : List Value)
  | subscribe (target : Option Value) (name : String) (handler : Handler)
  | unsubscribe (target : Option Value) (name : String) (handler : Handler)

/-- What an operation answers. -/
inductive Answer
  | value (value : Value)
  | typed (result : TypedResult)
  | done

/-- Execute an operation. -/
def Engine.operate (engine : Engine) : Operation → Execution Error Answer
  | .construct type arguments => Answer.value <$> engine.construct type arguments
  | .constructAs shape type arguments => Answer.typed <$> engine.constructAs shape type arguments
  | .createDefault type => Answer.value <$> engine.createDefault type
  | .getValue member target indices => Answer.value <$> engine.getValue member target indices
  | .getValueAs shape member target indices =>
    Answer.typed <$> engine.getValueAs shape member target indices
  | .setValue member target value indices => do
    engine.setValue member target value indices
    pure .done
  | .getFieldAs shape target name => Answer.typed <$> engine.getFieldAs shape target name
  | .setField target name value => do
    engine.setField target name value
    pure .done
  | .invoke member target arguments => Answer.value <$> engine.invoke member target arguments
  | .invokeAs shape member target arguments =>
    Answer.typed <$> engine.invokeAs shape member target arguments
  | .invokeMethod target name arguments =>
    Answer.value <$> engine.invokeMethod target name arguments
  | .invokeMethodAs shape target name arguments =>
    Answer.typed <$> engine.invokeMethodAs shape target name arguments
  | .invokeStatic type name arguments => Answer.value <$> engine.invokeStatic type name arguments
  | .raiseEvent target name arguments => do
    engine.raiseEvent target name arguments
    pure .done
  | .subscribe target name handler => do
    engine.subscribe target name handler
    pure .done
  | .unsubscribe target name handler => do
    engine.unsubscribe target name handler
    pure .done

/-- A program that ends with an error of one type or a value of another. -/
inductive Program (ε α : Type)
  | done (verdict : Except ε α)
  /-- Look at the store. -/
  | look (next : Store → Program ε α)
  /-- Change the store. -/
  | change (edit : Store → Store) (next : Program ε α)
  /-- Have the host execute a call. -/
  | call (call : Call) (next : Except Error Value → Program ε α)
  /-- Have an engine that may choose the members admitted by some flags operate. -/
  | operate (flags : BindingFlags) (operation : Operation)
      (next : Except Error Answer → Program ε α)

namespace Program

variable {ε α : Type}

/-- Execute a program, with an interpreter for the bodies that it reaches. -/
def execute (registry : Registry) (run : Interpreter) : Program ε α → Execution ε α
  | .done verdict => .ofExcept verdict
  | .look next => do
    let store ← .look id
    (next store).execute registry run
  | .change edit next => do
    .update edit
    next.execute registry run
  | .call request next => do
    let verdict ← (registry.perform run request).attempt
    (next verdict).execute registry run
  | .operate flags operation next => do
    let verdict ← (Engine.operate { registry, flags, run } operation).attempt
    (next verdict).execute registry run

end Program

/-- The interpreter of bodies that are programs, with bodies calling one another to a depth. -/
def Registry.programInterpreter (registry : Registry)
    (bodies : Script → Frame → Program Fault Value) : (depth : Nat) → Interpreter
  | 0 => fun _ _ => .exhausted
  | depth + 1 => fun script frame =>
    (bodies script frame).execute registry (registry.programInterpreter bodies depth)

end LateBinding
