import LateBinding.Proofs.Matching
import LateBinding.Inference.Unification

/-!
# What unification looks at

Unification asks a registry what stands above a type and whether null is a value of it, and nothing
else. Registries that answer these questions alike unify every member with every call site alike,
whatever members their definitions declare.
-/
namespace LateBinding

namespace Registry

/-- Registries with the same types above each type and the same value types, in which searches go
equally far. -/
structure SameHierarchy (left right : Registry) : Prop where
  searchLimit : left.searchLimit = right.searchLimit
  parentTypes : ∀ type, left.parentTypes type = right.parentTypes type
  isValueType : ∀ type, left.isValueType type = right.isValueType type

namespace SameHierarchy

variable {left right : Registry} (same : left.SameHierarchy right)
include same

/-- The walk upward takes the same steps in both. -/
theorem supertypes_eq (type : Ty) : left.supertypes type = right.supertypes type := by
  have above : left.parentTypes = right.parentTypes := funext same.parentTypes
  rw [supertypes, supertypes, same.searchLimit, above]

/-- Assignability looks at the supertypes only. -/
theorem isAssignable_eq (actual declared : Ty) :
    left.isAssignable actual declared = right.isAssignable actual declared := by
  unfold isAssignable
  rw [same.supertypes_eq]

/-- So does the search for an instantiation. -/
theorem instantiation?_eq (actual : Ty) (id : DefinitionId) :
    left.instantiation? actual id = right.instantiation? actual id := by
  rw [instantiation?, instantiation?, same.supertypes_eq]

/-! ## Matching -/

/-- A parameter is bound or compared alike. -/
theorem matchParameter_eq (nested : Bool) (parameter : Parameter) (actual : Ty)
    (bindings : Bindings) :
    left.matchParameter nested parameter actual bindings =
      right.matchParameter nested parameter actual bindings := by
  unfold matchParameter
  simp only [same.isAssignable_eq]

omit same in
/-- Argument lists are matched alike if their types are. Which registry it is enters through these
matches only. -/
theorem matchArguments_eq_of {declared : List Ty}
    (each : ∀ type ∈ declared, ∀ actual bindings,
      left.matchOpen true type actual bindings = right.matchOpen true type actual bindings)
    (actual : List Ty) (bindings : Bindings) :
    left.matchArguments declared actual bindings =
      right.matchArguments declared actual bindings := by
  induction declared generalizing actual bindings with
  | nil => rw [matchArguments_nil, matchArguments_nil]
  | cons first rest inductionHypothesis =>
    have later := inductionHypothesis fun type inside => each type (List.mem_cons_of_mem _ inside)
    cases actual with
    | nil => rw [matchArguments_cons_nil, matchArguments_cons_nil]
    | cons other others =>
      have here : left.matchNested first other bindings =
          right.matchNested first other bindings := by
        rw [matchNested, matchNested, each first List.mem_cons_self]
      simp only [matchArguments_cons, here, later]

/-- An open type is matched alike. The induction is on the declared type, since the match goes down
into its arguments. -/
theorem matchOpen_eq (declared : Ty) (nested : Bool) (actual : Ty) (bindings : Bindings) :
    left.matchOpen nested declared actual bindings =
      right.matchOpen nested declared actual bindings := by
  induction declared using Ty.induction generalizing nested actual bindings with
  | primitive p => simp only [matchOpen]
  | object => simp only [matchOpen]
  | delegate => simp only [matchOpen]
  | parameter p => rw [matchOpen, matchOpen, same.matchParameter_eq]
  | named id arguments inductionHypothesis =>
    have deeper := matchArguments_eq_of fun type inside =>
      inductionHypothesis type inside true
    simp only [matchOpen, same.instantiation?_eq, deeper]

/-- Any declared type is matched alike, in either direction. -/
theorem matchType_eq (contravariant : Bool) (declared actual : Ty) (bindings : Bindings) :
    left.matchType contravariant declared actual bindings =
      right.matchType contravariant declared actual bindings := by
  simp only [matchType, same.matchOpen_eq, same.isAssignable_eq]

/-! ## Unification -/

/-- A receiver is matched alike with the declaring type. -/
theorem matchReceiver_eq (member : Member) (receiver : Option Ty) (bindings : Bindings) :
    left.matchReceiver member receiver bindings =
      right.matchReceiver member receiver bindings := by
  simp only [matchReceiver, same.matchType_eq]

/-- What is expected of the result is matched alike. -/
theorem matchResult_eq (member : Member) (expectation : Expectation) (position : Nat)
    (bindings : Bindings) :
    left.matchResult member expectation position bindings =
      right.matchResult member expectation position bindings := by
  simp only [matchResult, same.matchType_eq, same.isValueType]

/-- So are the arguments, one after the other. A null asks only whether the declared type is a value
type. -/
theorem matchParameters_eq (position : Nat) (declared : List Ty) (actual : List (Option Ty))
    (bindings : Bindings) :
    left.matchParameters position declared actual bindings =
      right.matchParameters position declared actual bindings := by
  induction declared generalizing position actual bindings with
  | nil => simp only [matchParameters]
  | cons first rest inductionHypothesis =>
    cases actual with
    | nil => simp only [matchParameters]
    | cons argument others =>
      cases argument with
      | none => simp only [matchParameters, same.isValueType, inductionHypothesis]
      | some type => simp only [matchParameters, same.matchType_eq, inductionHypothesis]

/-- Registries with the same hierarchy unify alike. -/
theorem unify_eq (member : Member) (receiver : Option Ty) (arguments : List (Option Ty))
    (expected : Option Ty) :
    left.unify member receiver arguments expected =
      right.unify member receiver arguments expected := by
  simp only [unify, unifyWith, same.matchReceiver_eq, same.matchResult_eq, same.matchParameters_eq,
    same.isValueType]

end SameHierarchy

end Registry

end LateBinding
