import LateBinding.Inference.Matching

/-!
# Unifying a signature with a call site

A call site offers a receiver type, the types of its arguments, with none for null, and what it
expects of the result. Unification matches a member's declaring type, result type and
parameter types with these, in this order and with one set of bindings, and succeeds when
everything matches and no parameter is left unbound.

Null fits every type that can be null. When the declared type is not known yet to be a value
type, because a parameter in it is bound later, the position is noted and looked at again once
all bindings are there.
-/
namespace LateBinding

/-- Why a member does not fit a call site. Positions count from zero; a null value that is
assigned has the position after the last argument. -/
inductive MatchFailure
  | arity (expected found : Nat)
  | receiver (mismatch : Mismatch)
  | returnType (mismatch : Mismatch)
  | argument (position : Nat) (mismatch : Mismatch)
  | nullToValueType (position : Nat)
  | unbound (parameter : Parameter)
deriving DecidableEq, Repr

/-- What closing a member takes. -/
structure Match where
  /-- The arguments of the declaring type. -/
  typeArguments : List Ty
  /-- The arguments of the member's own parameters. -/
  methodArguments : List Ty
  /-- The parameter types on the closed declaring type, where the member's own parameters are
  still in place. -/
  parameterTypes : List Ty
deriving DecidableEq, Repr

/-- What an access expects of the member's type. -/
inductive Expectation
  /-- Nothing. -/
  | any
  /-- The result is used at this type. -/
  | returns (type : Ty)
  /-- A value of this type is assigned, null if there is none. -/
  | accepts (value : Option Ty)
deriving DecidableEq, Repr

namespace Expectation

/-- An expected result type; `object` expects nothing. -/
def ofResult : Option Ty → Expectation
  | some type => if type.isObject then .any else .returns type
  | none => .any

/-- Whether a value is assigned. -/
def isAssignment : Expectation → Bool
  | .accepts _ => true
  | _ => false

end Expectation

namespace Member

/-- The member's own parameters that unification has to find: all of them while the member is
open, none once it is closed. -/
def wantedMethodParameters (member : Member) : List Parameter :=
  if member.hasOpenMethodParameters then member.methodParameters else []

/-- The parameters that unification has to find, those of the declaring type first. -/
def wantedParameters (member : Member) : List Parameter :=
  member.declaring.parameters ++ member.wantedMethodParameters

/-- Whether the member's type takes part: methods and properties have a result, and a field
has a value when it is assigned. -/
def hasValueFor (member : Member) (expectation : Expectation) : Bool :=
  match member.kind with
  | .method | .property => true
  | .field => expectation.isAssignment
  | .constructor | .event => false

end Member

namespace Registry

/-- Match the receiver, which only instance members other than constructors have. -/
def matchReceiver (registry : Registry) (member : Member) (receiver : Option Ty)
    (bindings : Bindings) : Except MatchFailure Bindings :=
  match receiver with
  | none => .ok bindings
  | some type =>
    if member.isStatic ∨ member.kind = .constructor then .ok bindings
    else match registry.matchType false member.declaring type bindings with
      | (.ok _, after) => .ok after
      | (.error mismatch, _) => .error (.receiver mismatch)

/-- Match the member's type with what is expected of it. `position` is the place that a null
value is reported at. -/
def matchResult (registry : Registry) (member : Member) (expectation : Expectation)
    (position : Nat) (bindings : Bindings) : Except MatchFailure Bindings :=
  if member.hasValueFor expectation then
    match expectation with
    | .any => .ok bindings
    | .returns type => match registry.matchType true member.type type bindings with
      | (.ok _, after) => .ok after
      | (.error mismatch, _) => .error (.returnType mismatch)
    | .accepts (some type) => match registry.matchType false member.type type bindings with
      | (.ok _, after) => .ok after
      | (.error mismatch, _) => .error (.returnType mismatch)
    | .accepts none =>
      if registry.isValueType member.type then .error (.nullToValueType position)
      else .ok bindings
  else .ok bindings

/-- Match the arguments in order. The answer has the bindings and the resolved parameter types;
the type at a null stays as declared. -/
def matchParameters (registry : Registry) :
    (position : Nat) → (declared : List Ty) → (actual : List (Option Ty)) → Bindings →
      Except MatchFailure (Bindings × List Ty)
  | position, declared :: declaredRest, none :: actualRest, bindings =>
    if registry.isValueType declared then .error (.nullToValueType position)
    else match registry.matchParameters (position + 1) declaredRest actualRest bindings with
      | .ok (after, resolved) => .ok (after, declared :: resolved)
      | .error failure => .error failure
  | position, declared :: declaredRest, some type :: actualRest, bindings =>
    match registry.matchType false declared type bindings with
    | (.error mismatch, _) => .error (.argument position mismatch)
    | (.ok first, between) =>
      match registry.matchParameters (position + 1) declaredRest actualRest between with
      | .ok (after, resolved) => .ok (after, first :: resolved)
      | .error failure => .error failure
  | _, _, _, bindings => .ok (bindings, [])

/-- The positions of nulls whose declared types have parameters, with these types. -/
def openNulls (declared : List Ty) (actual : List (Option Ty)) : List (Nat × Ty) :=
  (declared.zip actual).zipIdx.filterMap fun ((type, argument), position) =>
    if argument = none ∧ type.isOpen then some (position, type) else none

/-- The nulls to look at again once all parameters are bound, the assigned value first. -/
def deferredNulls (member : Member) (arguments : List (Option Ty))
    (expectation : Expectation) : List (Nat × Ty) :=
  let assigned :=
    if member.hasValueFor expectation ∧ expectation = .accepts none ∧ member.type.isOpen then
      [(arguments.length, member.type)]
    else []
  assigned ++ openNulls member.parameters arguments

/-- Unify a member with a call site. -/
def unifyWith (registry : Registry) (member : Member) (receiver : Option Ty)
    (arguments : List (Option Ty)) (expectation : Expectation) : Except MatchFailure Match := do
  if member.parameters.length ≠ arguments.length then
    throw (.arity member.parameters.length arguments.length)
  let seeded := Bindings.seedAll .empty member.wantedParameters
  let received ← registry.matchReceiver member receiver seeded
  let expected ← registry.matchResult member expectation arguments.length received
  let (bindings, parameterTypes) ←
    registry.matchParameters 0 member.parameters arguments expected
  match bindings.firstUnbound? with
  | some parameter => throw (.unbound parameter)
  | none => pure ()
  match (deferredNulls member arguments expectation).find? fun (_, type) =>
      registry.isValueType (type.substitute bindings.all) with
  | some (position, _) => throw (.nullToValueType position)
  | none => pure ()
  pure
    { typeArguments := member.declaring.arguments.map (Ty.substitute bindings.typeLevel)
      methodArguments := (bindings.resolve? member.wantedMethodParameters).getD []
      parameterTypes := parameterTypes.map (Ty.substitute bindings.typeLevel) }

/-- Unify a member that is called or read; the result is used at the expected type, if any. -/
def unify (registry : Registry) (member : Member) (receiver : Option Ty)
    (arguments : List (Option Ty)) (expected : Option Ty) : Except MatchFailure Match :=
  registry.unifyWith member receiver arguments (.ofResult expected)

/-- Unify a field or property that is assigned a value, null if it has no type. -/
def unifyAssignment (registry : Registry) (member : Member) (receiver : Option Ty)
    (indices : List (Option Ty)) (value : Option Ty) : Except MatchFailure Match :=
  registry.unifyWith member receiver indices (.accepts value)

end Registry

end LateBinding
