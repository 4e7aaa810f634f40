import LateBinding.Inference.Bindings
import LateBinding.Registry.Hierarchy

/-!
# Matching a declared type with an actual one

May a value of the actual type be supplied where the declared type is written, and what do
the declared type's parameters then stand for? With `List<T>`, `IntList : List<i32>` and
`Dog : Animal`:

```text
T          with i32                       T = i32, resolved i32
List<T>    with IntList                   T = i32, resolved List<i32>
T          with str        when T = i32   conflict
Animal     with Dog                       resolved Animal
Dog        with Animal     contravariant  resolved Dog
List<T>    with List<Dog>  when T = Animal conflict
```

A declared type without parameters is a question of assignability. In one with parameters, a
parameter is bound where it is met first and compared with its binding from then on: at the
outside a subtype of the binding will do, inside an argument list only the binding itself,
because the arguments of a generic type are invariant.

A match that fails half way keeps the bindings made until then, which is why every function
here returns bindings beside its verdict.
-/
namespace LateBinding

/-- Why a declared type does not admit an actual type. -/
inductive Mismatch
  /-- The actual type is not assignable in the direction asked for. -/
  | notAssignable (declared actual : Ty)
  /-- The actual type is no instance of the definition. -/
  | notInstanceOf (definition : DefinitionId) (actual : Ty)
  /-- The parameter stands for a type that does not admit the one found. -/
  | conflict (parameter : Parameter) (bound found : Ty)
deriving DecidableEq, Repr

namespace Registry

/-- What a parameter contributes to the resolved type. A method's own parameter stays: the
method is closed later, with arguments of its own. -/
def resolvedParameter (parameter : Parameter) (bound : Ty) : Ty :=
  if parameter.isMethodLevel then .parameter parameter else bound

/-- Bind a parameter, or compare with its binding. -/
def matchParameter (registry : Registry) (nested : Bool) (parameter : Parameter) (actual : Ty)
    (bindings : Bindings) : Except Mismatch Ty × Bindings :=
  match bindings.bound? parameter with
  | none => (.ok (resolvedParameter parameter actual), bindings.bind parameter actual)
  | some bound =>
    if bound = actual ∨ (nested = false ∧ registry.isAssignable actual bound) then
      (.ok (resolvedParameter parameter bound), bindings)
    else (.error (.conflict parameter bound actual), bindings)

mutual

/-- Match a declared type that has parameters. -/
def matchOpen (registry : Registry) (nested : Bool) :
    (declared actual : Ty) → Bindings → Except Mismatch Ty × Bindings
  | .parameter parameter, actual, bindings =>
    registry.matchParameter nested parameter actual bindings
  | .named id arguments, actual, bindings =>
    if nested = true ∧ actual.definition? ≠ some id then
      (.error (.notAssignable (.named id arguments) actual), bindings)
    else match registry.instantiation? actual id with
      | none => (.error (.notInstanceOf id actual), bindings)
      | some actualArguments =>
        match registry.matchArguments arguments actualArguments bindings with
        | (.ok resolved, after) => (.ok (.named id resolved), after)
        | (.error mismatch, after) => (.error mismatch, after)
  | declared, actual, bindings => (.error (.notAssignable declared actual), bindings)

/-- Match argument lists place by place, up to the end of the shorter one. -/
def matchArguments (registry : Registry) :
    (declared actual : List Ty) → Bindings → Except Mismatch (List Ty) × Bindings
  | declared :: declaredRest, actual :: actualRest, bindings =>
    let first :=
      if declared.isOpen then registry.matchOpen true declared actual bindings
      else if declared = actual then (.ok declared, bindings)
      else (.error (.notAssignable declared actual), bindings)
    match first with
    | (.error mismatch, after) => (.error mismatch, after)
    | (.ok resolved, after) =>
      match registry.matchArguments declaredRest actualRest after with
      | (.ok resolvedRest, final) => (.ok (resolved :: resolvedRest), final)
      | (.error mismatch, final) => (.error mismatch, final)
  | _, _, bindings => (.ok [], bindings)

end

/-- Match a declared type with an actual one and answer with the resolved declared type. For a
declared type without parameters the direction of assignability can be reversed, as is done
for the type of a result. -/
def matchType (registry : Registry) (contravariant : Bool) (declared actual : Ty)
    (bindings : Bindings) : Except Mismatch Ty × Bindings :=
  if declared.isOpen then registry.matchOpen false declared actual bindings
  else
    let admitted :=
      if contravariant then registry.isAssignable declared actual
      else registry.isAssignable actual declared
    (if admitted then .ok declared else .error (.notAssignable declared actual), bindings)

end Registry

end LateBinding
