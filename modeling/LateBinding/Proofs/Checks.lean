import LateBinding.Proofs.Acceptance

/-!
# What the checks of the host establish

The host checks values by their types. A value that passes fits: null stands where no value type
is declared, and anything else where its type is assignable. Each check is read off here once,
and whoever has passed it cites the fact.
-/
namespace LateBinding

/-- Only an object is taken for an object. -/
theorem Value.bind_object?_eq_some {target : Option Value} {ref : ObjectRef} :
    target.bind object? = some ref ↔ target = some (.object ref) := by
  cases target with
  | none => simp
  | some value => cases value <;> simp [object?]

namespace Registry

/-- Whether a value may stand where a type is declared: null where the type is no value type, and
any other value where its type is assignable. -/
def Fits (registry : Registry) (declared : Ty) (value : Value) : Prop :=
  value.isNull = true ∧ registry.isValueType declared = false ∨
    ∃ actual, value.type? = some actual ∧ registry.isAssignable actual declared = true

variable {registry : Registry}

/-- The test that the host runs decides whether a value fits: a value without a type is null. -/
theorem admits_iff {declared : Ty} {value : Value} :
    registry.admits declared value = true ↔ registry.Fits declared value := by
  rw [admits, Fits]
  cases absent : value.isNull with
  | true =>
    obtain rfl := Value.eq_null_of_isNull absent
    simp [Value.type?, Literal.type?]
  | false =>
    obtain ⟨actual, typed⟩ := Value.exists_type? absent
    simp [typed]

/-- Members pass that are closed, and no others. -/
theorem checkClosed_eq_ok_iff {member : Member} :
    registry.checkClosed member = .ok () ↔ member.isOpen = false := by
  rw [checkClosed]
  cases member.isOpen <;> simp

/-- A value that passes fits. -/
theorem fits_of_checkValue {declared : Ty} {value : Value} {passed : Unit}
    (checked : registry.checkValue declared value = .ok passed) :
    registry.Fits declared value := by
  rw [checkValue] at checked
  cases admitted : registry.admits declared value with
  | true => exact admits_iff.mp admitted
  | false => simp [admitted] at checked

/-- Arguments that pass are as many as the parameters, and each fits. -/
theorem fits_of_checkArguments {member : Member} {arguments : List Value} {passed : Unit}
    (checked : registry.checkArguments member arguments = .ok passed) :
    List.Forall₂ registry.Fits member.parameters arguments := by
  rw [checkArguments] at checked
  by_cases count : member.parameters.length = arguments.length
  · rw [if_pos count] at checked
    have admitted := (checkValues_eq_ok_iff count).mp checked
    exact admitted.imp fun _ _ => admits_iff.mp
  · simp [count] at checked

/-- A static member runs without a receiver, any other on the one given, which is an instance of
the declaring type. -/
theorem checkTarget_eq_ok_iff {member : Member} {target receiver : Option Value} :
    registry.checkTarget member target = .ok receiver ↔
      member.isStatic = true ∧ receiver = none ∨
      member.isStatic = false ∧ ∃ value type, target = some value ∧ receiver = some value ∧
        value.type? = some type ∧ registry.isAssignable type member.declaring = true := by
  rw [checkTarget]
  cases static : member.isStatic with
  | true => simp [@eq_comm _ receiver]
  | false =>
    cases target with
    | none => simp
    | some value =>
      cases typed : value.type? with
      | none => simp [typed]
      | some type =>
        cases admitted : registry.isAssignable type member.declaring <;>
          simp [typed, admitted, @eq_comm _ receiver]

/-- The receiver of an instance member that passes is an instance of the declaring type. -/
theorem instance_of_checkTarget {member : Member} {target receiver : Option Value}
    (checked : registry.checkTarget member target = .ok receiver)
    (isInstance : member.isStatic = false) : ∃ value type, receiver = some value ∧
      value.type? = some type ∧ registry.isAssignable type member.declaring = true := by
  rcases checkTarget_eq_ok_iff.mp checked with ⟨static, _⟩ | ⟨_, value, type, _, rest⟩
  · simp [static] at isInstance
  · exact ⟨value, type, rest⟩

end Registry

end LateBinding
