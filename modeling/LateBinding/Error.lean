/-!
# Errors and faults

A fault is what the body of a member fails with; its trace grows by one frame with every
member it leaves. An error is what an operation of the library fails with. The host wraps the
fault of a body in one layer, `targetInvocation`, and the engine takes exactly one layer off,
so that a caller sees `rethrown` with the fault itself.

Errors are causes. Their wording is in `Error.message`, and `Error.category` names the kind
of failure for a program to branch on.
-/
namespace LateBinding

/-- A failure raised by the body of a member. The trace lists the members it has left, the
innermost first. -/
structure Fault where
  kind : String
  message : String
  trace : List String := []
deriving DecidableEq, Repr

namespace Fault

/-- The fault after it left the member at a path. -/
def pushFrame (fault : Fault) (path : String) : Fault :=
  { fault with trace := fault.trace ++ [path] }

/-- A fault in one line. -/
def text (fault : Fault) : String :=
  fault.kind ++ ": " ++ fault.message

end Fault

/-- Why an operation failed. Types and members are given by their display names. -/
inductive Error
  /-- A required input was absent. -/
  | argumentNull (input : String)
  /-- An instance member was used without an instance. -/
  | memberAccess (member : String)
  /-- No method or constructor fits. -/
  | missingMethod (type member : String)
  /-- No field, property or event fits. -/
  | missingMember (type member : String)
  /-- A given member could not be closed for its use. -/
  | cannotInfer (member : String)
  | argumentCount (member : String) (expected found : Nat)
  | typeArgumentCount (type : String) (expected found : Nat)
  /-- The receiver is no instance of the declaring type. -/
  | targetMismatch (expected found : String)
  /-- A value is not of the type it is used at. -/
  | invalidCast (expected found : String)
  /-- A property has no accessor for the direction of the access. -/
  | noAccessor (member : String)
  /-- The layer around the fault of a body. -/
  | targetInvocation (member : String) (fault : Fault)
  /-- The fault of a body under its own identity. -/
  | rethrown (fault : Fault)
deriving DecidableEq, Repr

namespace Error

/-- The short name of the category of an error. -/
def category : Error → String
  | .argumentNull _ => "ArgumentNull"
  | .memberAccess _ => "MemberAccess"
  | .missingMethod _ _ => "MissingMethod"
  | .missingMember _ _ => "MissingMember"
  | .cannotInfer _ => "InvalidOperation"
  | .argumentCount _ _ _ => "TargetParameterCount"
  | .typeArgumentCount _ _ _ => "Argument"
  | .targetMismatch _ _ => "Target"
  | .invalidCast _ _ => "InvalidCast"
  | .noAccessor _ => "Argument"
  | .targetInvocation _ _ => "TargetInvocation"
  | .rethrown _ => "Rethrown"

/-- What the categories of wrong counts say. -/
def countText (expected found : Nat) (noun : String) : String :=
  "expects " ++ toString expected ++ " " ++ noun ++ "(s), got " ++ toString found

/-- The text of an error. -/
def message : Error → String
  | .argumentNull input => "value cannot be null (parameter '" ++ input ++ "')"
  | .memberAccess member =>
    "cannot access instance member '" ++ member ++ "' without a target"
  | .missingMethod type member => "method '" ++ type ++ "." ++ member ++ "' not found"
  | .missingMember type member => "member '" ++ type ++ "." ++ member ++ "' not found"
  | .cannotInfer member =>
    "unable to infer usage of '" ++ member ++ "' from supplied arguments"
  | .argumentCount member expected found =>
    "'" ++ member ++ "' " ++ countText expected found "argument"
  | .typeArgumentCount type expected found =>
    "type '" ++ type ++ "' " ++ countText expected found "type argument"
  | .targetMismatch expected found =>
    "object of type '" ++ found ++ "' does not match target type '" ++ expected ++ "'"
  | .invalidCast expected found =>
    "cannot convert value of type '" ++ found ++ "' to '" ++ expected ++ "'"
  | .noAccessor member =>
    "property '" ++ member ++ "' cannot be accessed in this direction"
  | .targetInvocation member _ =>
    "exception has been thrown by the target of an invocation ('" ++ member ++ "')"
  | .rethrown fault => fault.text

/-- Take off one layer around a fault; every other error stays. -/
def unwrapInvocation : Error → Error
  | .targetInvocation _ fault => .rethrown fault
  | other => other

/-- The fault that an error carries. -/
def fault? : Error → Option Fault
  | .targetInvocation _ fault | .rethrown fault => some fault
  | _ => none

/-- The cause beneath an error: the wrapped fault. A rethrown fault is the error itself and
has nothing beneath it. -/
def source? : Error → Option Fault
  | .targetInvocation _ fault => some fault
  | _ => none

/-- Whether no member was found. -/
def isMissing : Error → Bool
  | .missingMethod _ _ | .missingMember _ _ => true
  | _ => false

end Error

namespace Fault

/-- An error as it passes into the body of a member. A rethrown fault goes on as it is, with
its trace; any other error becomes a fault of its category. -/
def ofError : Error → Fault
  | .rethrown fault => fault
  | other => { kind := other.category, message := other.message }

end Fault

/-- A chain of two steps succeeds when both do. -/
theorem bind_eq_ok {ε α β : Type} {first : Except ε α} {next : α → Except ε β} {value : β} :
    first >>= next = .ok value ↔ ∃ between, first = .ok between ∧ next between = .ok value := by
  cases first with
  | error failure => simp [bind, Except.bind]
  | ok between => simp [bind, Except.bind]

/-- A chain of two steps fails when the first does, or the second after it. -/
theorem bind_eq_error {ε α β : Type} {first : Except ε α} {next : α → Except ε β} {failure : ε} :
    first >>= next = .error failure ↔ first = .error failure ∨
      ∃ between, first = .ok between ∧ next between = .error failure := by
  cases first with
  | error failure => simp [bind, Except.bind]
  | ok between => simp [bind, Except.bind]

end LateBinding
