import LateBinding.Proofs.Checks

/-!
# Reading and writing fields

A field of an object stands in the slot of its name, whichever class declares it. So writing a
field is seen by every field of that name on the same object, a private field of a base class
included, and by no other field. A static field stands under its declaring type and its name,
and is not touched.

Reading leaves the store as it is, and does not depend on more than the slot.
-/
namespace LateBinding

namespace Store

/-- Whether there is an object at the address of a reference. -/
def Holds (store : Store) (ref : ObjectRef) : Prop :=
  ref.address < store.objects.length

/-- A write to a slot is seen in that slot of that object and nowhere else. -/
theorem getSlot?_setSlot {store : Store} {ref : ObjectRef} (held : store.Holds ref)
    (other : ObjectRef) (name asked : String) (value : Value) :
    (store.setSlot ref name value).getSlot? other asked =
      if other.address = ref.address ∧ asked = name then some value
      else store.getSlot? other asked := by
  simp only [getSlot?, slots, setSlot, List.getElem?_modify]
  by_cases same : other.address = ref.address
  · rw [same, List.getElem?_eq_getElem held]
    by_cases alike : asked = name
    · simp [alike]
    · simp [alike, OrderedMap.get?_insert_of_ne _ (Ne.symm alike)]
  · cases store.objects[other.address]? <;> simp [same, Ne.symm same]

/-- Writing a slot of an object touches no static field. -/
@[simp] theorem statics_setSlot (store : Store) (ref : ObjectRef) (name : String)
    (value : Value) : (store.setSlot ref name value).statics = store.statics := rfl

end Store

/-- A closed field, which reads and writes a slot. -/
structure Member.IsField (member : Member) : Prop where
  kind : member.kind = .field
  body : member.body = .field
  closed : member.isOpen = false

namespace Registry

variable {registry : Registry}

/-- What a field holds that was never written, or whatever was written to its place. -/
def fieldContent (stored : Option Value) (field : Member) : Value :=
  stored.getD (defaultValue field.type)

/-- Whether an object is an instance of the type that declares a field decides the check of the
receiver. -/
theorem checkTarget_object {field : Member} (isInstance : field.isStatic = false)
    (ref : ObjectRef) :
    registry.checkTarget field (some (.object ref)) =
      if registry.isAssignable ref.type field.declaring then .ok (some (.object ref))
      else .error (.targetMismatch (registry.typeName field.declaring)
        (registry.typeName ref.type)) := by
  simp [checkTarget, isInstance, Value.type?]

end Registry

namespace Engine

variable {engine : Engine} {field : Member}

/-- An object is present, so it passes as a receiver of any member. -/
theorem requireReceiver_object (ref : ObjectRef) :
    engine.requireReceiver field (some (.object ref)) = .ok () := by
  simp [requireReceiver, present?, Value.isNull]

/-- A closed descriptor is used as it is, without inference. -/
theorem closeFor_of_closed (closed : field.isOpen = false) (target : Option Value)
    (arguments : List Value) (expectation : Expectation) :
    engine.closeFor field target arguments expectation = .ok field := by
  simp [closeFor, closed]

/-- A closed field is read on the receiver that the check of the host leaves. -/
theorem getValue_of_isField (isField : field.IsField) {target : Option Value}
    (required : engine.requireReceiver field target = .ok ()) (indices : List Value) :
    engine.getValue field target indices =
      Execution.mapError Error.unwrapInvocation (do
        let receiver ← .ofExcept (engine.registry.checkTarget field target)
        engine.registry.readField field receiver) := by
  rw [getValue, getExpecting, required, Execution.ofExcept_ok_bind,
    closeFor_of_closed isField.closed, Execution.ofExcept_ok_bind, execute, Registry.perform,
    Registry.checkClosed_eq_ok_iff.mpr isField.closed, Execution.ofExcept_ok_bind]
  simp only [isField.body]

/-- A closed field is written on the receiver that the check of the host leaves. -/
theorem setValue_of_isField (isField : field.IsField) {target : Option Value}
    (required : engine.requireReceiver field target = .ok ()) (value : Value)
    (indices : List Value) :
    engine.setValue field target value indices = (do
      let _ ← Execution.mapError Error.unwrapInvocation (do
        let receiver ← .ofExcept (engine.registry.checkTarget field target)
        engine.registry.writeField field receiver value
        pure Value.unit)
      pure ()) := by
  rw [setValue, required, Execution.ofExcept_ok_bind, closeFor_of_closed isField.closed,
    Execution.ofExcept_ok_bind, execute, Registry.perform,
    Registry.checkClosed_eq_ok_iff.mpr isField.closed, Execution.ofExcept_ok_bind]
  simp only [isField.body]

/-- Reading an instance field of an object reads the slot of its name. -/
theorem run_getValue_instance (isField : field.IsField) (isInstance : field.isStatic = false)
    (ref : ObjectRef) (indices : List Value) (store : Store) :
    (engine.getValue field (some (.object ref)) indices).run store =
      some (if engine.registry.isAssignable ref.type field.declaring then
          .ok (Registry.fieldContent (store.getSlot? ref field.name) field)
        else .error (.targetMismatch (engine.registry.typeName field.declaring)
          (engine.registry.typeName ref.type)), store) := by
  rw [getValue_of_isField isField (requireReceiver_object ref),
    Registry.checkTarget_object isInstance, Execution.run_mapError]
  split
  · rw [Execution.ofExcept_ok_bind]
    simp [Registry.readField, isInstance, Value.object?, Except.mapError, Registry.fieldContent]
  · rfl

/-- Reading a static field reads what is stored under its declaring type and its name. -/
theorem run_getValue_static (isField : field.IsField) (static : field.isStatic = true)
    (target : Option Value) (indices : List Value) (store : Store) :
    (engine.getValue field target indices).run store =
      some (.ok (Registry.fieldContent (store.statics.get? (field.declaring, field.name)) field),
        store) := by
  have required : engine.requireReceiver field target = .ok () := by simp [requireReceiver, static]
  have checked : engine.registry.checkTarget field target = .ok none := by
    simp [Registry.checkTarget, static]
  rw [getValue_of_isField isField required, checked, Execution.ofExcept_ok_bind,
    Execution.run_mapError]
  simp [Registry.readField, static, Except.mapError, Registry.fieldContent]

/-- Writing an instance field of an object succeeds where the object is an instance of the
declaring type and the value fits, and writes the slot of the field's name. -/
theorem run_setValue_instance_eq_ok (isField : field.IsField)
    (isInstance : field.isStatic = false) {ref : ObjectRef} {value : Value}
    {indices : List Value} {store after : Store} :
    (engine.setValue field (some (.object ref)) value indices).run store =
        some (.ok (), after) ↔
      engine.registry.isAssignable ref.type field.declaring = true ∧
        engine.registry.Fits field.type value ∧ after = store.setSlot ref field.name value := by
  rw [setValue_of_isField isField (requireReceiver_object ref),
    Registry.checkTarget_object isInstance, ← Registry.admits_iff]
  cases engine.registry.isAssignable ref.type field.declaring with
  | false =>
    simp [Execution.run_map, Execution.run_mapError, Execution.ofExcept_error_bind,
      Execution.fail, Except.mapError, Except.map]
  | true =>
    cases admitted : engine.registry.admits field.type value <;>
      simp [Execution.run_map, Execution.run_mapError, Registry.writeField,
        Registry.checkValue, admitted, isInstance, Value.object?, Execution.ofExcept_ok_bind,
        Execution.ofExcept_error_bind, Execution.fail, Except.mapError, Except.map,
        @eq_comm _ after]

/-- What reading a field answers. -/
def reading (engine : Engine) (field : Member) (target : Option Value) (store : Store) :
    Option (Except Error Value) :=
  ((engine.getValue field target []).run store).map Prod.fst

/-- Reading an instance field looks at the slot of its name, once the receiver is seen to be an
instance of the declaring type. -/
theorem reading_instance (isField : field.IsField) (isInstance : field.isStatic = false)
    (ref : ObjectRef) (store : Store) :
    engine.reading field (some (.object ref)) store =
      some (if engine.registry.isAssignable ref.type field.declaring then
          .ok (Registry.fieldContent (store.getSlot? ref field.name) field)
        else .error (.targetMismatch (engine.registry.typeName field.declaring)
          (engine.registry.typeName ref.type))) := by
  rw [reading, run_getValue_instance isField isInstance, Option.map_some]

/-- Reading a static field looks at the field of the declaring type and ignores the target. -/
theorem reading_static (isField : field.IsField) (static : field.isStatic = true)
    (target : Option Value) (store : Store) :
    engine.reading field target store =
      some (.ok (Registry.fieldContent (store.statics.get? (field.declaring, field.name))
        field)) := by
  rw [reading, run_getValue_static isField static, Option.map_some]

/-- After a field of an object was written it reads the value written. Among the other fields of
the object those of the same name read that value too, whichever class declares them, and those
of another name read what they read before. So do all fields of every other object and all
static fields. -/
theorem reading_setValue (isField : field.IsField) (isInstance : field.isStatic = false)
    {ref : ObjectRef} {value : Value} {store after : Store} (held : store.Holds ref)
    (written : (engine.setValue field (some (.object ref)) value []).run store =
      some (.ok (), after)) :
    engine.reading field (some (.object ref)) after = some (.ok value) ∧
    (∀ other : Member, other.IsField → other.isStatic = false →
      engine.reading other (some (.object ref)) after =
        if other.name = field.name then
          (engine.reading other (some (.object ref)) store).map (Except.map fun _ => value)
        else engine.reading other (some (.object ref)) store) ∧
    (∀ other : Member, other.IsField → ∀ object : ObjectRef, object.address ≠ ref.address →
      engine.reading other (some (.object object)) after =
        engine.reading other (some (.object object)) store) ∧
    ∀ other : Member, other.IsField → other.isStatic = true → ∀ target : Option Value,
      engine.reading other target after = engine.reading other target store := by
  obtain ⟨admitted, -, rfl⟩ := (run_setValue_instance_eq_ok isField isInstance).mp written
  refine ⟨?_, ?_, ?_, ?_⟩
  · rw [reading_instance isField isInstance, if_pos admitted, Store.getSlot?_setSlot held,
      if_pos ⟨rfl, rfl⟩, Registry.fieldContent, Option.getD_some]
  · intro other otherField otherInstance
    rw [reading_instance otherField otherInstance, reading_instance otherField otherInstance,
      Store.getSlot?_setSlot held]
    by_cases alike : other.name = field.name
    · split <;> simp [alike, Registry.fieldContent, Except.map]
    · simp [alike]
  · intro other otherField object apart
    cases static : other.isStatic with
    | true => simp only [reading_static otherField static, Store.statics_setSlot]
    | false =>
      have untouched : (store.setSlot ref field.name value).getSlot? object other.name =
          store.getSlot? object other.name := by
        rw [Store.getSlot?_setSlot held, if_neg fun same => apart same.1]
      simp only [reading_instance otherField static, untouched]
  · intro other otherField static target
    simp only [reading_static otherField static, Store.statics_setSlot]

/-- A class with a private field, and a class derived from it that has a private field of the
same name. -/
def namesakes : Engine where
  registry := .ofDefinitions
    [{ name := "Base", kind := .classType
       declarations :=
        [{ name := "count", kind := .field, type := .i32, visibility := .privateAccess }] },
     { name := "Derived", kind := .classType, base := some (.named ⟨0⟩ [])
       declarations :=
        [{ name := "new", kind := .constructor, body := .native .unit },
         { name := "count", kind := .field, type := .i32, visibility := .privateAccess }] }]
  run := fun _ _ => pure .unit

/-- Writing the field of the derived class of a new object changes what the field of the base
class reads. -/
theorem namesakes_share_slot :
    ∃ base ∈ namesakes.registry.declaredMembers (.named ⟨0⟩ []),
    ∃ derived ∈ namesakes.registry.declaredMembers (.named ⟨1⟩ []),
    ∃ ref store after, base.id ≠ derived.id ∧
      (namesakes.construct (.named ⟨1⟩ []) []).run .empty = some (.ok (.object ref), store) ∧
      (namesakes.setValue derived (some (.object ref)) (.int 5) []).run store =
        some (.ok (), after) ∧
      namesakes.reading derived (some (.object ref)) after = some (.ok (.int 5)) ∧
      namesakes.reading base (some (.object ref)) store = some (.ok (.int 0)) ∧
      namesakes.reading base (some (.object ref)) after = some (.ok (.int 5)) := by
  let base := (namesakes.registry.declaredMembers (.named ⟨0⟩ [])).head (by decide)
  let derived := (namesakes.registry.declaredMembers (.named ⟨1⟩ [])).getLast (by decide)
  let ref : ObjectRef := ⟨0, .named ⟨1⟩ []⟩
  let store : Store := { objects := [⟨.named ⟨1⟩ [], ⟨[("count", .int 0)]⟩⟩] }
  have written : (namesakes.setValue derived (some (.object ref)) (.int 5) []).run store =
      some (.ok (), store.setSlot ref "count" (.int 5)) :=
    (run_setValue_instance_eq_ok ⟨rfl, rfl, rfl⟩ rfl).mpr ⟨by decide, Or.inr ⟨_, rfl, rfl⟩, rfl⟩
  have held : store.Holds ref := Nat.zero_lt_one
  obtain ⟨same, others, -⟩ := reading_setValue ⟨rfl, rfl, rfl⟩ rfl held written
  exact ⟨base, List.head_mem _, derived, List.getLast_mem _, ref, store, _, by decide, rfl,
    written, same, rfl, others base ⟨rfl, rfl, rfl⟩ rfl⟩

end Engine

end LateBinding
