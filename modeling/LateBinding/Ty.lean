/-!
# Types

A type is a primitive, the root `object`, the type of delegates, a registered definition
applied to arguments, or a generic parameter that nothing has replaced yet. A generic
definition is spoken of through its open type, the definition applied to its own parameters,
so whether a type is open is a matter of its shape alone.

A parameter is known by its owner and its position. Its name belongs to the definition or
member that declares it and is looked up there when a type is displayed; two parameters are
never told apart by name.

Recursion on types goes through the argument list; the definitions here come in pairs, one
for a type and one for a list of types, and a lemma turns the second into a list operation.
-/
namespace LateBinding

/-- The place of a definition in its registry. -/
structure DefinitionId where
  index : Nat
deriving DecidableEq, Repr

/-- A member is known by its definition and its place in declaration order. The open form of
a member and its closed forms share this identity. -/
structure MemberId where
  definition : DefinitionId
  index : Nat
deriving DecidableEq, Repr

/-- What declares a generic parameter. -/
inductive ParameterOwner
  | definition (id : DefinitionId)
  | member (id : MemberId)
deriving DecidableEq, Repr

/-- A generic parameter. -/
structure Parameter where
  owner : ParameterOwner
  index : Nat
deriving DecidableEq, Repr

namespace Parameter

/-- Whether a member declares the parameter, rather than a type definition. -/
def isMethodLevel (parameter : Parameter) : Bool :=
  match parameter.owner with
  | .member _ => true
  | .definition _ => false

end Parameter

/-- The built-in types with inline values, and text. -/
inductive Primitive
  | bool
  | i32
  | i64
  | f64
  | char
  | str
  | unit
deriving DecidableEq, Repr

namespace Primitive

/-- The name by which a primitive is written. -/
def name : Primitive → String
  | .bool => "bool"
  | .i32 => "i32"
  | .i64 => "i64"
  | .f64 => "f64"
  | .char => "char"
  | .str => "str"
  | .unit => "unit"

/-- Text is the one primitive that can be null. -/
def isValueType : Primitive → Bool
  | .str => false
  | _ => true

/-- Every primitive. -/
def all : List Primitive := [.bool, .i32, .i64, .f64, .char, .str, .unit]

end Primitive

/-- A type descriptor. -/
inductive Ty
  | primitive (primitive : Primitive)
  | object
  | delegate
  | named (definition : DefinitionId) (arguments : List Ty)
  | parameter (parameter : Parameter)
deriving Repr

namespace Ty

abbrev bool : Ty := .primitive .bool
abbrev i32 : Ty := .primitive .i32
abbrev i64 : Ty := .primitive .i64
abbrev f64 : Ty := .primitive .f64
abbrev char : Ty := .primitive .char
abbrev str : Ty := .primitive .str
abbrev unit : Ty := .primitive .unit

instance : Inhabited Ty := ⟨.object⟩

mutual

/-- Types are compared by structure. -/
def decideEq : (left right : Ty) → Decidable (left = right)
  | .primitive left, .primitive right =>
    if same : left = right then isTrue (by rw [same]) else isFalse (by simp [same])
  | .object, .object => isTrue rfl
  | .delegate, .delegate => isTrue rfl
  | .named left leftArguments, .named right rightArguments =>
    if same : left = right then
      match decideEqAll leftArguments rightArguments with
      | isTrue equal => isTrue (by rw [same, equal])
      | isFalse differs => isFalse (by simp [differs])
    else isFalse (by simp [same])
  | .parameter left, .parameter right =>
    if same : left = right then isTrue (by rw [same]) else isFalse (by simp [same])
  | .primitive _, .object | .primitive _, .delegate | .primitive _, .named _ _
  | .primitive _, .parameter _ | .object, .primitive _ | .object, .delegate
  | .object, .named _ _ | .object, .parameter _ | .delegate, .primitive _
  | .delegate, .object | .delegate, .named _ _ | .delegate, .parameter _
  | .named _ _, .primitive _ | .named _ _, .object | .named _ _, .delegate
  | .named _ _, .parameter _ | .parameter _, .primitive _ | .parameter _, .object
  | .parameter _, .delegate | .parameter _, .named _ _ => isFalse (by simp)

/-- Equal lists of types have equal types at every place. -/
def decideEqAll : (left right : List Ty) → Decidable (left = right)
  | [], [] => isTrue rfl
  | [], _ :: _ => isFalse (by simp)
  | _ :: _, [] => isFalse (by simp)
  | left :: leftRest, right :: rightRest =>
    match decideEq left right, decideEqAll leftRest rightRest with
    | isTrue same, isTrue sameRest => isTrue (by rw [same, sameRest])
    | isFalse differs, _ => isFalse (by simp [differs])
    | _, isFalse differs => isFalse (by simp [differs])

end

instance : DecidableEq Ty := decideEq

/-- To prove something of every type, prove it of a named type from the same fact about each
of its arguments. -/
@[elab_as_elim]
theorem induction {motive : Ty → Prop} (primitive : ∀ p, motive (.primitive p))
    (object : motive .object) (delegate : motive .delegate)
    (named : ∀ id arguments, (∀ argument ∈ arguments, motive argument) →
      motive (.named id arguments))
    (parameter : ∀ p, motive (.parameter p)) (type : Ty) : motive type :=
  Ty.rec (motive_1 := motive) (motive_2 := fun types => ∀ t ∈ types, motive t)
    primitive object delegate named parameter (by simp)
    (fun _ _ head tail => by simpa using ⟨head, tail⟩) type

/-- Whether this is the root type. -/
def isObject : Ty → Bool
  | .object => true
  | _ => false

/-- The parameter, when the type is nothing else. -/
def parameter? : Ty → Option Parameter
  | .parameter p => some p
  | _ => none

/-- The definition of a named type. -/
def definition? : Ty → Option DefinitionId
  | .named id _ => some id
  | _ => none

/-- The arguments of a named type; other types have none. -/
def arguments : Ty → List Ty
  | .named _ arguments => arguments
  | _ => []

/-- The same definition applied to other arguments; a type that is not named stays. -/
def withArguments (replacement : List Ty) : Ty → Ty
  | .named id _ => .named id replacement
  | other => other

mutual

/-- Whether a generic parameter occurs anywhere in the type. -/
def isOpen : Ty → Bool
  | .parameter _ => true
  | .named _ arguments => anyOpen arguments
  | _ => false

/-- Whether one of the types is open. -/
def anyOpen : List Ty → Bool
  | [] => false
  | type :: rest => isOpen type || anyOpen rest

end

mutual

/-- Every parameter written in the type, from left to right and as often as it is written. -/
def occurrences : Ty → List Parameter
  | .parameter p => [p]
  | .named _ arguments => occurrencesAll arguments
  | _ => []

/-- The occurrences in a list of types, from left to right. -/
def occurrencesAll : List Ty → List Parameter
  | [] => []
  | type :: rest => occurrences type ++ occurrencesAll rest

end

/-- The parameters of the type, each once, in the order of their first occurrence. -/
def parameters (type : Ty) : List Parameter :=
  type.occurrences.eraseDups

/-- One of several types is open when the test holds of one of them. -/
theorem anyOpen_eq (types : List Ty) : anyOpen types = types.any isOpen := by
  induction types with
  | nil => rfl
  | cons type rest inductionHypothesis => simp [anyOpen, inductionHypothesis]

/-- The occurrences in a list are those in its types, one type after the other. -/
theorem occurrencesAll_eq (types : List Ty) :
    occurrencesAll types = types.flatMap occurrences := by
  induction types with
  | nil => rfl
  | cons type rest inductionHypothesis => simp [occurrencesAll, inductionHypothesis]

end Ty

end LateBinding
