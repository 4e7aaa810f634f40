import LateBinding.Substitution

/-!
# Bindings

What an inference has found out so far: the parameters it has to find types for, in the order
in which they came up, and the types of those it has found. A parameter may also be bound
without having been asked for. The first binding of a parameter stands; whoever meets the
parameter again compares with it.
-/
namespace LateBinding

/-- Parameters that were asked for or bound, with the types of those that are bound. -/
abbrev Bindings := OrderedMap Parameter (Option Ty)

namespace Bindings

/-- Ask for a parameter, unless it is there already. -/
def seed (bindings : Bindings) (parameter : Parameter) : Bindings :=
  if bindings.get? parameter = none then bindings.insert parameter none else bindings

/-- Ask for several parameters. -/
def seedAll (bindings : Bindings) (parameters : List Parameter) : Bindings :=
  parameters.foldl seed bindings

/-- The type of a parameter, if it is bound. -/
def bound? (bindings : Bindings) (parameter : Parameter) : Option Ty :=
  (bindings.get? parameter).join

/-- Give a parameter a type. -/
def bind (bindings : Bindings) (parameter : Parameter) (type : Ty) : Bindings :=
  bindings.insert parameter (some type)

/-- The first parameter that was asked for and is not bound. -/
def firstUnbound? (bindings : Bindings) : Option Parameter :=
  (bindings.entries.find? fun entry => entry.2 = none).map Prod.fst

/-- The types of several parameters, if all of them are bound. -/
def resolve? (bindings : Bindings) (parameters : List Parameter) : Option (List Ty) :=
  parameters.mapM bindings.bound?

/-- The bound parameters that pass a test, as a substitution. -/
def toSubstitution (bindings : Bindings) (keep : Parameter → Bool) : Substitution :=
  ⟨bindings.entries.filterMap fun (parameter, type) =>
    if keep parameter then type.map ((parameter, ·)) else none⟩

/-- Every bound parameter, as a substitution. -/
def all (bindings : Bindings) : Substitution :=
  bindings.toSubstitution fun _ => true

/-- The bound parameters of type definitions, as a substitution. -/
def typeLevel (bindings : Bindings) : Substitution :=
  bindings.toSubstitution fun parameter => !parameter.isMethodLevel

end Bindings

end LateBinding
