import LateBinding.Program
import LateBinding.Proofs.TypedStore

/-!
# Calls keep stores well typed

What changes a store is making objects and writing fields, and the host checks the value before
it writes. So its calls keep a store well typed, if the bodies that they reach do so. Scripts may
write slots as they like, without a check; what is said here is of registries in which they do
not.

`Execution.Keeps` is the judgment that is carried through calls, operations and bodies. It speaks
of all stores that extend a given one, so that a value which is genuine at one step is so at the
steps after it.
-/
namespace LateBinding

/-! ## Scripts that write no slots -/

namespace Script

mutual

/-- Whether a slot is written somewhere in a script. -/
def writesSlots : Script → Bool
  | .setSlot _ _ => true
  | .sequence parts | .concat parts | .callStatic _ _ parts | .construct _ parts =>
    anyWritesSlots parts
  | .ifNull scrutinee whenNull otherwise =>
    scrutinee.writesSlots || whenNull.writesSlots || otherwise.writesSlots
  | .add _ left right | .divide left right | .repeatText left right =>
    left.writesSlots || right.writesSlots
  | .display content | .typeName content => content.writesSlots
  | .callMethod receiver _ parts | .raise receiver _ parts =>
    receiver.writesSlots || anyWritesSlots parts
  | _ => false

/-- The same of several scripts. -/
def anyWritesSlots : List Script → Bool
  | [] => false
  | script :: rest => script.writesSlots || anyWritesSlots rest

end

end Script

/-- Whether no body in a registry writes slots, other than through the host. -/
def Registry.LeavesSlots (registry : Registry) : Prop :=
  ∀ definition ∈ registry.definitions, ∀ declaration ∈ definition.declarations,
    ∀ role script, declaration.body.script? role = some script → script.writesSlots = false

/-- Whether what a body sees is genuine. -/
def Frame.Genuine (registry : Registry) (store : Store) (frame : Frame) : Prop :=
  AllGenuine registry store (frame.target.toList ++ frame.arguments)

/-! ## The judgment -/

/-- What an execution answers, in the store that it leaves. -/
abbrev Answers (α : Type) := Store → α → Prop

/-- The answer is a genuine value. -/
def Answers.genuine (registry : Registry) : Answers Value :=
  fun store value => value.Genuine registry store

/-- Nothing is said of the answer. -/
def Answers.any {α : Type} : Answers α :=
  fun _ _ => True

namespace Execution

variable {ε δ α β : Type} {registry : Registry} {before : Store}

/-- Whether an execution takes every well-typed store that extends a given one to a well-typed
store that extends it, and answers as described. -/
def Keeps (registry : Registry) (before : Store) (execution : Execution ε α)
    (answers : Answers α) : Prop :=
  ∀ store, before.Extends store → registry.WellTyped store → ∀ verdict after,
    execution.run store = some (verdict, after) →
      registry.WellTyped after ∧ store.Extends after ∧
        ∀ value, verdict = .ok value → answers after value

variable {answers : Answers α} {others : Answers β}

/-- From a later store on, an execution keeps what it keeps. -/
theorem Keeps.later {execution : Execution ε α} (keeps : execution.Keeps registry before answers)
    {later : Store} (extended : before.Extends later) :
    execution.Keeps registry later answers :=
  fun store further => keeps store (extended.trans further)

/-- What leaves the store alone answers in the store it was started in. -/
theorem keeps_of_run {execution : Execution ε α}
    (quiet : ∀ store, before.Extends store → registry.WellTyped store → ∃ verdict,
      execution.run store = some (verdict, store) ∧
        ∀ value, verdict = .ok value → answers store value) :
    execution.Keeps registry before answers := by
  intro store extended wellTyped verdict after ended
  obtain ⟨other, run, answered⟩ := quiet store extended wellTyped
  obtain ⟨rfl, rfl⟩ := Prod.mk.inj (Option.some.inj (run.symm.trans ended))
  exact ⟨wellTyped, .refl _, answered⟩

/-- A verdict leaves the store alone. -/
theorem keeps_ofExcept {verdict : Except ε α} (answered : ∀ value, verdict = .ok value →
    ∀ store, before.Extends store → answers store value) :
    (ofExcept verdict).Keeps registry before answers :=
  keeps_of_run fun store extended _ =>
    ⟨verdict, rfl, fun value same => answered value same store extended⟩

/-- There is no answer to a failure. -/
theorem keeps_fail (error : ε) : (fail error : Execution ε α).Keeps registry before answers :=
  keeps_ofExcept (by simp)

/-- A value is answered as it is. -/
theorem keeps_pure {value : α} (answered : ∀ store, before.Extends store → answers store value) :
    (Pure.pure value : Execution ε α).Keeps registry before answers :=
  keeps_ofExcept (by rintro _ ⟨⟩; exact answered)

/-- What is seen in a well-typed store is answered. -/
theorem keeps_look {view : Store → α} (seen : ∀ store, before.Extends store →
    registry.WellTyped store → answers store (view store)) :
    (look view : Execution ε α).Keeps registry before answers :=
  keeps_of_run fun store extended wellTyped =>
    ⟨_, rfl, by rintro _ ⟨⟩; exact seen store extended wellTyped⟩

/-- That a body starts is recorded, and leaves the store alone. -/
theorem keeps_enter (activation : Activation) :
    (enter activation : Execution ε Unit).Keeps registry before .any :=
  keeps_of_run fun _ _ _ => ⟨_, rfl, fun _ _ => trivial⟩

/-- What does not end leaves no store to speak of. -/
theorem keeps_exhausted : (exhausted : Execution ε α).Keeps registry before answers := by
  intro store _ _ verdict after ended
  simp [run, exhausted] at ended

/-- A change of the store keeps it well typed if it does so from every well-typed store. -/
theorem keeps_update {change : Store → Store} (changed : ∀ store, before.Extends store →
    registry.WellTyped store → registry.WellTyped (change store) ∧ store.Extends (change store)) :
    (update change : Execution ε Unit).Keeps registry before .any := by
  intro store extended wellTyped verdict after ended
  obtain ⟨-, rfl⟩ := Prod.mk.inj (Option.some.inj ended)
  obtain ⟨afterTyped, further⟩ := changed store extended wellTyped
  exact ⟨afterTyped, further, fun _ _ => trivial⟩

/-- A new object is there under its type, with what its fields start with. -/
theorem keeps_allocate (type : Ty) :
    (allocate type (registry.fieldSlots type) : Execution ε ObjectRef).Keeps registry before
      fun store ref => (Value.object ref).Genuine registry store := by
  intro store _ wellTyped verdict after ended
  obtain ⟨rfl, rfl⟩ := Prod.mk.inj (Option.some.inj ended)
  obtain ⟨afterTyped, further, held⟩ := wellTyped.allocate type
  refine ⟨afterTyped, further, ?_⟩
  rintro _ ⟨⟩
  exact (Value.genuine_object _).mpr held

/-- One execution after the other: the second starts in the store that the first leaves. -/
theorem Keeps.bind {first : Execution ε α} {next : α → Execution ε β}
    (head : first.Keeps registry before answers)
    (tail : ∀ later value, before.Extends later → answers later value →
      (next value).Keeps registry later others) :
    (first >>= next).Keeps registry before others := by
  intro store extended wellTyped verdict after ended
  rw [run_bind] at ended
  cases outcome : first.run store with
  | none => simp [outcome] at ended
  | some pair =>
    obtain ⟨headVerdict, between⟩ := pair
    obtain ⟨betweenTyped, toBetween, answered⟩ := head store extended wellTyped _ _ outcome
    cases headVerdict with
    | error error =>
      obtain ⟨rfl, rfl⟩ : .error error = verdict ∧ between = after := by
        simpa [outcome] using ended
      exact ⟨betweenTyped, toBetween, by simp⟩
    | ok value =>
      have rest : (next value).run between = some (verdict, after) := by
        simpa [outcome] using ended
      obtain ⟨afterTyped, toAfter, final⟩ :=
        tail between value (extended.trans toBetween) (answered value rfl) between (.refl _)
          betweenTyped _ _ rest
      exact ⟨afterTyped, toBetween.trans toAfter, final⟩

/-- A verdict leaves the store alone, and the rest is only reached with its value. -/
theorem keeps_ofExcept_bind {verdict : Except ε α} {next : α → Execution ε β}
    (passed : ∀ value, verdict = .ok value → (next value).Keeps registry before others) :
    (ofExcept verdict >>= next).Keeps registry before others := by
  cases verdict with
  | error error => exact keeps_fail error
  | ok value => exact passed value rfl

/-- What is made of an error is of no concern to the store either. -/
theorem Keeps.mapError {execution : Execution ε α}
    (keeps : execution.Keeps registry before answers) (change : ε → δ) :
    (execution.mapError change).Keeps registry before answers := by
  intro store extended wellTyped verdict after ended
  rw [run_mapError] at ended
  obtain ⟨⟨original, between⟩, outcome, same⟩ := Option.map_eq_some_iff.mp ended
  obtain ⟨changed, rfl⟩ := Prod.mk.inj same
  obtain ⟨afterTyped, further, answered⟩ := keeps store extended wellTyped _ _ outcome
  refine ⟨afterTyped, further, ?_⟩
  rintro value rfl
  cases original with
  | error error => simp [Except.mapError] at changed
  | ok found => exact answered value (by simpa [Except.mapError] using changed)

/-- What is made of an answer is of no concern to the store. -/
theorem Keeps.map {execution : Execution ε α} (keeps : execution.Keeps registry before answers)
    {change : α → β} (passed : ∀ store value, answers store value → others store (change value)) :
    (change <$> execution).Keeps registry before others := by
  intro store extended wellTyped verdict after ended
  rw [run_map] at ended
  obtain ⟨⟨original, between⟩, outcome, same⟩ := Option.map_eq_some_iff.mp ended
  obtain ⟨changed, rfl⟩ := Prod.mk.inj same
  obtain ⟨afterTyped, further, answered⟩ := keeps store extended wellTyped original _ outcome
  refine ⟨afterTyped, further, ?_⟩
  rintro value rfl
  cases original with
  | error error => simp [Except.map] at changed
  | ok found =>
    obtain rfl : change found = value := by simpa [Except.map] using changed
    exact passed _ found (answered found rfl)

/-- An error that is taken for an answer says nothing of values. -/
theorem Keeps.attempt {execution : Execution ε α}
    (keeps : execution.Keeps registry before answers) :
    (execution.attempt : Execution δ (Except ε α)).Keeps registry before fun store verdict =>
      ∀ value, verdict = .ok value → answers store value := by
  intro store extended wellTyped verdict after ended
  obtain ⟨⟨original, between⟩, outcome, same⟩ := Option.map_eq_some_iff.mp ended
  obtain ⟨rfl, rfl⟩ := Prod.mk.inj same
  obtain ⟨afterTyped, further, answered⟩ := keeps store extended wellTyped original between outcome
  refine ⟨afterTyped, further, ?_⟩
  rintro _ ⟨⟩
  exact answered

end Execution

/-- Whether running any script that writes no slots, in a genuine frame, keeps stores well typed
and answers a genuine value. -/
def Interpreter.Keeps (registry : Registry) (run : Interpreter) : Prop :=
  ∀ before script frame, script.writesSlots = false → Frame.Genuine registry before frame →
    (run script frame).Keeps registry before (.genuine registry)

/-! ## Calls of the host -/

namespace Registry

variable {registry : Registry}

/-- Whether a request asks for a member of the registry with genuine values. -/
def GenuineCall (registry : Registry) (store : Store) : Call → Prop
  | .construct constructor arguments =>
    registry.Describes constructor ∧ AllGenuine registry store arguments
  | .invoke method target arguments =>
    registry.Describes method ∧ AllGenuine registry store (target.toList ++ arguments)
  | .get member target indices =>
    registry.Describes member ∧ AllGenuine registry store (target.toList ++ indices)
  | .set member target value indices =>
    registry.Describes member ∧ AllGenuine registry store (target.toList ++ value :: indices)

/-- The receiver that a member runs on is the one that was given, if any. -/
theorem receiver_genuine {store : Store} {member : Member} {target receiver : Option Value}
    (checked : registry.checkTarget member target = .ok receiver)
    (genuine : AllGenuine registry store target.toList) :
    AllGenuine registry store receiver.toList := by
  rcases checkTarget_eq_ok_iff.mp checked with ⟨_, rfl⟩ | ⟨_, value, _, rfl, rfl, _⟩
  · simp [AllGenuine]
  · exact genuine

/-- Reading a field answers what is stored, or a default. -/
theorem readField_keeps (field : Member) (target : Option Value) {before : Store} :
    (registry.readField field target).Keeps registry before (.genuine registry) := by
  rw [readField]
  cases static : field.isStatic with
  | true =>
    refine Execution.keeps_look fun store _ wellTyped => ?_
    cases stored : store.statics.get? (field.declaring, field.name) with
    | none => exact defaultValue_genuine _
    | some value => exact (wellTyped.statics stored).1
  | false =>
    rw [if_neg Bool.false_ne_true]
    cases object : target.bind Value.object? with
    | none => exact Execution.keeps_fail _
    | some ref =>
      refine Execution.keeps_look fun store _ wellTyped => ?_
      cases found : store.getSlot? ref field.name with
      | none => exact defaultValue_genuine _
      | some value => exact (wellTyped.getSlot found).1

section Calls

variable (sound : registry.WellFormed)
include sound

/-- A member that runs on an object stands above the object's type. -/
theorem reaches_of_checkTarget {member : Member} (described : registry.Describes member)
    (isInstance : member.isStatic = false) {target receiver : Option Value}
    (checked : registry.checkTarget member target = .ok receiver) {ref : ObjectRef}
    (object : receiver.bind Value.object? = some ref) :
    registry.Reaches ref.type member.declaring := by
  obtain ⟨value, type, rfl, typed, admitted⟩ := instance_of_checkTarget checked isInstance
  obtain ⟨_, id, arguments, named⟩ := described.origin
  rw [named] at admitted ⊢
  have path := (sound.isAssignable_iff.mp admitted).resolve_left (by simp)
  obtain rfl : value = .object ref := Option.some.inj (Value.bind_object?_eq_some.mp object)
  obtain rfl : ref.type = type := Option.some.inj typed
  exact path

/-- Writing a field, after the receiver and the value were checked. -/
theorem writeField_keeps {member : Member} (described : registry.Describes member)
    (body : member.body = .field) {target receiver : Option Value}
    (checked : registry.checkTarget member target = .ok receiver) {value : Value}
    {before : Store} (receiverGenuine : AllGenuine registry before receiver.toList)
    (valueGenuine : value.Genuine registry before) :
    (registry.writeField member receiver value).Keeps registry before .any := by
  rw [writeField]
  refine Execution.keeps_ofExcept_bind fun _ valueChecked => ?_
  have fits := fits_of_checkValue valueChecked
  cases static : member.isStatic with
  | true =>
    refine Execution.keeps_update fun store extended wellTyped => ?_
    exact wellTyped.setStatic ⟨described, static, body, rfl⟩ (valueGenuine.mono extended) fits
  | false =>
    rw [if_neg Bool.false_ne_true]
    cases object : receiver.bind Value.object? with
    | none => exact Execution.keeps_fail _
    | some ref =>
      have reached := reaches_of_checkTarget sound described static checked object
      refine Execution.keeps_update fun store extended wellTyped => ?_
      have held : store.typeAt? ref.address = some ref.type := by
        obtain rfl := Value.bind_object?_eq_some.mp object
        exact (Value.genuine_object _).mp ((receiverGenuine _ (by simp)).mono extended)
      exact wellTyped.setSlot held ⟨described, static, Or.inr body, reached⟩
        (valueGenuine.mono extended) fits

variable (leaves : registry.LeavesSlots) {run : Interpreter} (bodies : run.Keeps registry)
  {before : Store}
include leaves bodies

omit sound in
/-- A body of a member of the registry runs in a genuine frame. -/
theorem activate_keeps {role : Role} {script : Script} {frame : Frame}
    (described : registry.Describes frame.member)
    (own : frame.member.body.script? role = some script)
    (genuine : Frame.Genuine registry before frame) :
    (registry.activate run role script frame).Keeps registry before (.genuine registry) := by
  obtain ⟨⟨definition, listed, declaration, stored, same⟩, _⟩ := described.origin
  have quiet := leaves definition listed declaration stored role script (same ▸ own)
  refine (Execution.keeps_enter _).bind fun later _ extended _ => ?_
  exact (bodies later script frame quiet (genuine.mono extended)).mapError _

omit sound in
/-- A construction makes its object before the body runs, so the frame of the body is genuine in the
store that has the object. -/
theorem perform_construct_keeps {constructor : Member} {arguments : List Value}
    (described : registry.Describes constructor)
    (argumentsGenuine : AllGenuine registry before arguments) :
    (registry.perform run (.construct constructor arguments)).Keeps registry before
      (.genuine registry) := by
  rw [perform]
  refine Execution.keeps_ofExcept_bind fun _ _ => Execution.keeps_ofExcept_bind fun _ _ => ?_
  cases body : constructor.body with
  | native script =>
    refine (Execution.keeps_allocate _).bind fun later ref extended made => ?_
    have own : constructor.body.script? .constructor = some script := by rw [body]; rfl
    have refGenuine : AllGenuine registry later [.object ref] := by simpa [AllGenuine] using made
    have frameGenuine : Frame.Genuine registry later ⟨constructor, some (.object ref), arguments⟩ :=
      allGenuine_append.mpr ⟨refGenuine, argumentsGenuine.mono extended⟩
    refine (activate_keeps leaves bodies described own frameGenuine).bind
      fun last _ further _ => ?_
    exact Execution.keeps_pure fun store final => (made.mono further).mono final
  | _ => exact Execution.keeps_fail _

omit sound in
/-- A method runs with the receiver that the check let through, which is the target or none. -/
theorem perform_invoke_keeps {method : Member} {target : Option Value} {arguments : List Value}
    (described : registry.Describes method)
    (targetGenuine : AllGenuine registry before target.toList)
    (argumentsGenuine : AllGenuine registry before arguments) :
    (registry.perform run (.invoke method target arguments)).Keeps registry before
      (.genuine registry) := by
  rw [perform]
  refine Execution.keeps_ofExcept_bind fun _ _ => ?_
  refine Execution.keeps_ofExcept_bind fun receiver checked => ?_
  refine Execution.keeps_ofExcept_bind fun _ _ => ?_
  cases body : method.body with
  | native script =>
    have own : method.body.script? .method = some script := by rw [body]; rfl
    have receiverGenuine := receiver_genuine checked targetGenuine
    have frameGenuine : Frame.Genuine registry before ⟨method, receiver, arguments⟩ :=
      allGenuine_append.mpr ⟨receiverGenuine, argumentsGenuine⟩
    exact activate_keeps leaves bodies described own frameGenuine
  | _ => exact Execution.keeps_fail _

omit sound in
/-- A reading answers what is stored, what a place starts with or what a getter answers. -/
theorem perform_get_keeps {member : Member} {target : Option Value} {indices : List Value}
    (described : registry.Describes member)
    (targetGenuine : AllGenuine registry before target.toList)
    (indicesGenuine : AllGenuine registry before indices) :
    (registry.perform run (.get member target indices)).Keeps registry before
      (.genuine registry) := by
  rw [perform]
  refine Execution.keeps_ofExcept_bind fun _ _ => ?_
  refine Execution.keeps_ofExcept_bind fun receiver checked => ?_
  cases body : member.body with
  | field => exact readField_keeps member receiver
  | property getter setter =>
    cases getter with
    | none => exact Execution.keeps_fail _
    | some getter =>
      refine Execution.keeps_ofExcept_bind fun _ _ => ?_
      have own : member.body.script? .getter = some getter := by rw [body]; rfl
      have receiverGenuine := receiver_genuine checked targetGenuine
      have frameGenuine : Frame.Genuine registry before ⟨member, receiver, indices⟩ :=
        allGenuine_append.mpr ⟨receiverGenuine, indicesGenuine⟩
      exact activate_keeps leaves bodies described own frameGenuine
  | _ => exact Execution.keeps_fail _

/-- A writing stores a value that fits the field, or hands it to a setter as its last argument. -/
theorem perform_set_keeps {member : Member} {target : Option Value} {value : Value}
    {indices : List Value} (described : registry.Describes member)
    (targetGenuine : AllGenuine registry before target.toList)
    (valueGenuine : value.Genuine registry before)
    (indicesGenuine : AllGenuine registry before indices) :
    (registry.perform run (.set member target value indices)).Keeps registry before
      (.genuine registry) := by
  rw [perform]
  refine Execution.keeps_ofExcept_bind fun _ _ => ?_
  refine Execution.keeps_ofExcept_bind fun receiver checked => ?_
  have receiverGenuine := receiver_genuine checked targetGenuine
  cases body : member.body with
  | field =>
    exact (writeField_keeps sound described body checked receiverGenuine valueGenuine).bind
      fun _ _ _ _ => Execution.keeps_pure fun _ _ => Value.genuine_literal _
  | property getter setter =>
    cases setter with
    | none => exact Execution.keeps_fail _
    | some setter =>
      refine Execution.keeps_ofExcept_bind fun _ _ => ?_
      refine Execution.keeps_ofExcept_bind fun _ _ => ?_
      have own : member.body.script? .setter = some setter := by rw [body]; rfl
      have lastGenuine : AllGenuine registry before [value] := by
        simpa [AllGenuine] using valueGenuine
      have frameGenuine : Frame.Genuine registry before ⟨member, receiver, indices ++ [value]⟩ :=
        allGenuine_append.mpr
          ⟨receiverGenuine, allGenuine_append.mpr ⟨indicesGenuine, lastGenuine⟩⟩
      exact (activate_keeps leaves bodies described own frameGenuine).bind
        fun _ _ _ _ => Execution.keeps_pure fun _ _ => Value.genuine_literal _
  | _ => exact Execution.keeps_fail _

/-- A call of the host with genuine values keeps stores well typed: the checks come first, a body
runs in a genuine frame, and a field is written with a value that fits it. -/
theorem perform_keeps {call : Call} (genuine : registry.GenuineCall before call) :
    (registry.perform run call).Keeps registry before (.genuine registry) := by
  cases call with
  | construct constructor arguments =>
    obtain ⟨described, argumentsGenuine⟩ := genuine
    exact perform_construct_keeps leaves bodies described argumentsGenuine
  | invoke method target arguments =>
    obtain ⟨described, valuesGenuine⟩ := genuine
    obtain ⟨targetGenuine, argumentsGenuine⟩ := allGenuine_append.mp valuesGenuine
    exact perform_invoke_keeps leaves bodies described targetGenuine argumentsGenuine
  | get member target indices =>
    obtain ⟨described, valuesGenuine⟩ := genuine
    obtain ⟨targetGenuine, indicesGenuine⟩ := allGenuine_append.mp valuesGenuine
    exact perform_get_keeps leaves bodies described targetGenuine indicesGenuine
  | set member target value indices =>
    obtain ⟨described, valuesGenuine⟩ := genuine
    obtain ⟨targetGenuine, restGenuine⟩ := allGenuine_append.mp valuesGenuine
    obtain ⟨valueGenuine, indicesGenuine⟩ := List.forall_mem_cons.mp restGenuine
    exact perform_set_keeps sound leaves bodies described targetGenuine valueGenuine indicesGenuine

end Calls

end Registry

end LateBinding
