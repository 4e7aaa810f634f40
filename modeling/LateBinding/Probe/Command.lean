import LateBinding.Literal.Reader
import LateBinding.Probe.Report
import LateBinding.Script.Evaluation
import LateBinding.TypeName

/-!
# Commands of the probe

A command looks at a registry, or constructs a type or uses a member of it with arguments that
are written as literals. Members are used by name: a method if there is one, else an event,
else whatever has the name. An instance is constructed without arguments where one is needed.
-/
namespace LateBinding.Probe

/-- What the probe is asked for. Types are given by name and arguments as literals. -/
inductive Command
  | config
  | types
  | members (type : String)
  | construct (type : String) (arguments : List String)
  | invoke (type member : String) (arguments : List String)
deriving DecidableEq, Repr

/-- What went wrong beneath a failure. -/
inductive Cause
  | typeName (error : TypeNameError)
  | literal (error : LiteralError)
  | engine (error : Error)
deriving Repr

/-- The text of a cause. -/
def Cause.message : Cause → String
  | .typeName error => error.message
  | .literal error => error.message
  | .engine error => error.message

/-- Why a command failed: a cause, and what it was needed for, the outermost first. -/
structure Failure where
  contexts : List String := []
  cause : Cause
deriving Repr

namespace Failure

/-- The failure of the engine. -/
def ofError (error : Error) : Failure :=
  { cause := .engine error }

/-- The texts of a failure, from the outermost context to the cause. -/
def chain (failure : Failure) : List String :=
  failure.contexts ++ [failure.cause.message]

/-- The outermost text of a failure. -/
def message (failure : Failure) : String :=
  failure.contexts.headD failure.cause.message

end Failure

/-- Read the name of a type. -/
def readType (registry : Registry) (name : String) : Except Failure Ty :=
  (TypeName.read registry name).mapError fun error => { cause := .typeName error }

/-- Read arguments. -/
def readArguments (words : List String) : Except Failure (List Value) :=
  match Literal.readAll words with
  | .ok literals => .ok (literals.map Value.literal)
  | .error error => .error { cause := .literal error }

/-- An instance of a type to use a member on. -/
def makeInstance (engine : Engine) (type : Ty) : Execution Failure Value :=
  (engine.createDefault type).mapError fun error =>
    { contexts := ["'" ++ engine.registry.typeName type ++ "' needs an instance"]
      cause := .engine error }

/-- The kind of member that a name stands for, of those that share it. An event shares its
name with the field that holds its handlers. -/
def kindOf (first : Member) (members : List Member) : MemberKind :=
  if members.any (·.kind = .method) then .method
  else if members.any (·.kind = .event) then .event
  else first.kind

/-- Call the methods of a name. An instance is made unless all of them are static. -/
def callMethod (engine : Engine) (type : Ty) (name : String) (members : List Member)
    (arguments : List Value) : Execution Failure Value := do
  let methods := members.filter (·.kind = .method)
  if methods.all (·.isStatic) then
    (engine.invokeStatic type name arguments).mapError .ofError
  else
    let target ← makeInstance engine type
    (engine.invokeMethod (some target) name arguments).mapError .ofError

/-- Read a field or property. -/
def readMember (engine : Engine) (type : Ty) (member : Member) (indices : List Value) :
    Execution Failure Value := do
  let target ← if member.isStatic then pure none else some <$> makeInstance engine type
  (engine.getValue member target indices).mapError .ofError

/-- Raise an event. -/
def raise (engine : Engine) (type : Ty) (name : String) (arguments : List Value) :
    Execution Failure Value := do
  let target ← makeInstance engine type
  (engine.raiseEvent (some target) name arguments).mapError .ofError
  pure .unit

/-- Use the member of a name. -/
def useMember (engine : Engine) (type : Ty) (name : String) (arguments : List Value) :
    Execution Failure Value :=
  match engine.registry.members type name engine.flags with
  | [] => .fail (.ofError (.missingMember (engine.registry.typeName type) name))
  | first :: rest =>
    let members := first :: rest
    match kindOf first members with
    | .method => callMethod engine type name members arguments
    | .event => raise engine type name arguments
    | .field | .property | .constructor => readMember engine type first arguments

/-- Report a value as it is in the end. -/
def reportValue (engine : Engine) (execution : Execution Failure Value) :
    Execution Failure Report := do
  let value ← execution
  .look fun store => Report.ofValue engine.registry store value

/-- How deep members may call one another in the probe. -/
def callDepth : Nat := 1000

/-- Execute a command. -/
def Command.execute (registry : Registry) (configuration : Configuration) (command : Command) :
    Execution Failure Report :=
  let engine : Engine :=
    { registry, flags := configuration.binding, run := registry.interpreter callDepth }
  match command with
  | .config => pure (.configuration configuration)
  | .types => pure (.ofRegistry registry)
  | .members type => do
    let type ← .ofExcept (readType registry type)
    pure (.ofType registry configuration.binding type)
  | .construct type words => do
    let type ← .ofExcept (readType registry type)
    let arguments ← .ofExcept (readArguments words)
    reportValue engine ((engine.construct type arguments).mapError .ofError)
  | .invoke type member words => do
    let type ← .ofExcept (readType registry type)
    let arguments ← .ofExcept (readArguments words)
    reportValue engine (useMember engine type member arguments)

end LateBinding.Probe
