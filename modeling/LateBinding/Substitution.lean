import LateBinding.OrderedMap
import LateBinding.Ty

/-!
# Substitution

A substitution sends generic parameters to types. It acts on a type everywhere at once:
what it puts in is not looked at again, also when it mentions a parameter that the same
substitution sends elsewhere. `Ty.replace` is that action; `Ty.substitute` is the one to
call, which leaves a type alone when there is nothing to do.
-/
namespace LateBinding

/-- Types for some parameters. -/
abbrev Substitution := OrderedMap Parameter Ty

namespace Substitution

/-- Pair parameters with arguments; whichever list is longer keeps a rest without partner. -/
def ofParameters (parameters : List Parameter) (arguments : List Ty) : Substitution :=
  OrderedMap.ofList (parameters.zip arguments)

end Substitution

namespace Ty

mutual

/-- Put the image in the place of every parameter that has one. -/
def replace (images : Substitution) : Ty → Ty
  | .parameter p => (images.get? p).getD (.parameter p)
  | .named id arguments => .named id (replaceAll images arguments)
  | .primitive p => .primitive p
  | .object => .object
  | .delegate => .delegate

/-- Replace in each type of a list. -/
def replaceAll (images : Substitution) : List Ty → List Ty
  | [] => []
  | type :: rest => replace images type :: replaceAll images rest

end

/-- The type under a substitution. A type without parameters, and any type under the empty
substitution, is returned as it is. -/
def substitute (images : Substitution) (type : Ty) : Ty :=
  if images.isEmpty || !type.isOpen then type else type.replace images

/-- Replacing in a list of types is replacing in each of them; the recursion of its own is only
there for the nesting of the definitions. -/
theorem replaceAll_eq (images : Substitution) (types : List Ty) :
    replaceAll images types = types.map (replace images) := by
  induction types with
  | nil => rfl
  | cons type rest inductionHypothesis => simp [replaceAll, inductionHypothesis]

/-- A replacement goes down into the arguments and keeps the definition. -/
@[simp] theorem replace_named (images : Substitution) (id : DefinitionId)
    (arguments : List Ty) :
    replace images (.named id arguments) = .named id (arguments.map (replace images)) := by
  simp [replace, replaceAll_eq]

end Ty

end LateBinding
