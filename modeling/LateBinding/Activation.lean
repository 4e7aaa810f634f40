import LateBinding.Store

/-!
# Activations

A body runs in a frame: it sees the member it belongs to, the receiver and the arguments. Which
part of the member's body runs depends on the request, and an activation records this as well.

What the host does in the course of an execution, apart from changing slots, is to make objects
and to start bodies. These are its actions.
-/
namespace LateBinding

/-- What the body of a member sees while it runs. -/
structure Frame where
  member : Member
  target : Option Value
  arguments : List Value

/-- The request on which a body runs. -/
inductive Role
  | constructor
  | method
  | getter
  | setter
deriving DecidableEq, Repr

/-- The script of a body that runs in a role, if it has one. -/
def Body.script? : Body → Role → Option Script
  | .native script, .constructor => some script
  | .native script, .method => some script
  | .property getter _, .getter => getter
  | .property _ setter, .setter => setter
  | _, _ => none

/-- A body that starts to run. -/
structure Activation where
  role : Role
  script : Script
  frame : Frame

/-- Something that the host does. -/
inductive Action
  /-- An object is made for a constructor. -/
  | made (object : ObjectRef)
  /-- A body starts to run. -/
  | entered (activation : Activation)

end LateBinding
