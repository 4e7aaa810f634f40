import LateBinding.Proofs.OperationPreservation

/-!
# Heap typing

In a registry whose bodies write no slots themselves, every store that operations lead to is well
typed, for bodies then reach the store by requests only. Bodies may be scripts, or programs that
leave the store to the host; what is asked of them is that they take well-typed stores to well-typed
stores, and of both sorts it is proved that they do. So a field reads a value that the host
would accept for it, with two exceptions. A field of a struct type starts with null, which is no
value of a struct; and where members that share a slot are declared at different types, each may
find what was written for the other.
-/
namespace LateBinding

/-! ## Bodies -/

namespace Frame

variable {registry : Registry} {store : Store} {frame : Frame}

/-- The object that a body runs on is the receiver. -/
theorem Genuine.self (genuine : frame.Genuine registry store) {ref : ObjectRef}
    (found : frame.self = .ok ref) : (Value.object ref).Genuine registry store := by
  rw [Frame.self] at found
  cases object : frame.target.bind Value.object? with
  | none => simp [object] at found
  | some other =>
    obtain rfl : other = ref := by simpa [object] using found
    have given : frame.target = some (.object other) := Value.bind_object?_eq_some.mp object
    exact genuine _ (by simp [given])

/-- A receiver that is missing is seen as null. -/
theorem Genuine.target (genuine : frame.Genuine registry store) :
    (frame.target.getD .null).Genuine registry store := by
  cases given : frame.target with
  | none => exact Value.genuine_literal _
  | some value => exact genuine _ (by simp [given])

/-- So is an argument that is missing. -/
theorem Genuine.argument (genuine : frame.Genuine registry store) (position : Nat) :
    (frame.argument position).Genuine registry store := by
  rw [Frame.argument, List.getD_eq_getElem?_getD]
  cases found : frame.arguments[position]? with
  | none => exact Value.genuine_literal _
  | some value => exact genuine _ (List.mem_append_right _ (List.mem_of_getElem? found))

end Frame

namespace Script

open Execution

/-- A sum is a number or a text that was not there before, and so a literal. -/
theorem sum_genuine {overflow : String} {left right value : Value} {registry : Registry}
    {store : Store} (added : sum overflow left right = .ok value) :
    value.Genuine registry store := by
  rw [sum] at added
  split at added
  · split at added
    · exact Except.ok.inj added ▸ Value.genuine_literal _
    · simp at added
  · simp at added

/-- A quotient is a number. -/
theorem quotient_genuine {left right value : Value} {registry : Registry} {store : Store}
    (divided : quotient left right = .ok value) : value.Genuine registry store := by
  simp only [quotient] at divided
  split at divided
  · split at divided
    · simp at divided
    · split at divided
      · exact Except.ok.inj divided ▸ Value.genuine_literal _
      · simp at divided
  · simp at divided

/-- A repeated text is a text. -/
theorem repeated_genuine {content times value : Value} {registry : Registry} {store : Store}
    (repeats : repeated content times = .ok value) : value.Genuine registry store := by
  simp only [repeated] at repeats
  split at repeats
  · simp at repeats
  · split at repeats
    · exact Except.ok.inj repeats ▸ Value.genuine_literal _
    · exact Except.ok.inj repeats ▸ Value.genuine_literal _

/-- Two values in turn and a literal made of them. -/
theorem keeps_combine {registry : Registry} {before : Store} {first second : Execution Fault Value}
    {combine : Value → Value → Except Fault Value}
    (head : first.Keeps registry before (.genuine registry))
    (tail : second.Keeps registry before (.genuine registry))
    (made : ∀ left right value store, combine left right = .ok value →
      value.Genuine registry store) :
    (do let left ← first
        let right ← second
        ofExcept (combine left right)).Keeps registry before (.genuine registry) :=
  head.bind fun _ _ extended _ => (tail.later extended).bind fun _ _ _ _ =>
    keeps_ofExcept fun value same store _ => made _ _ value store same

section Evaluation

variable {registry : Registry} {answer : Request → Execution Error Value} {before : Store}
  {frame : Frame}

mutual

/-- A script that writes no slots keeps stores well typed and answers a genuine value, if its
requests are answered so. -/
theorem evaluate_keeps (answers : ∀ later request, Request.Genuine registry later request →
      (answer request).Keeps registry later (.genuine registry))
    (genuine : frame.Genuine registry before) : ∀ script : Script, script.writesSlots = false →
      (script.evaluate registry answer frame).Keeps registry before (.genuine registry)
  | .literal _, _ | .typeArguments, _ | .methodArguments, _ | .path, _ | .argumentCount, _ => by
    rw [evaluate]
    exact keeps_pure fun _ _ => Value.genuine_literal _
  | .argument position, _ => by
    rw [evaluate]
    exact keeps_pure fun _ extended => (genuine.argument position).mono extended
  | .target, _ => by
    rw [evaluate]
    exact keeps_pure fun _ extended => genuine.target.mono extended
  | .self, _ => by
    rw [evaluate]
    exact keeps_ofExcept_bind fun _ found =>
      keeps_pure fun _ extended => (genuine.self found).mono extended
  | .getSlot name, _ => by
    rw [evaluate]
    refine keeps_ofExcept_bind fun ref _ => keeps_look fun store _ wellTyped => ?_
    cases found : store.getSlot? ref name with
    | none => exact Value.genuine_literal _
    | some value => exact (wellTyped.getSlot found).1
  | .setSlot _ _, writes => by
    simp [writesSlots] at writes
  | .fault _ _, _ => by
    rw [evaluate]
    exact keeps_fail _
  | .sequence steps, writes => by
    have quiet : anyWritesSlots steps = false := by simpa [writesSlots] using writes
    rw [evaluate]
    refine (evaluateAll_keeps answers genuine steps quiet).bind
      fun later values _ found => keeps_pure fun store extended => ?_
    cases last : values.getLast? with
    | none => exact Value.genuine_literal _
    | some value => exact (found value (List.mem_of_getLast? last)).mono extended
  | .ifNull scrutinee whenNull otherwise, writes => by
    obtain ⟨⟨first, second⟩, third⟩ : (scrutinee.writesSlots = false ∧
        whenNull.writesSlots = false) ∧ otherwise.writesSlots = false := by
      simpa [writesSlots] using writes
    rw [evaluate]
    refine (evaluate_keeps answers genuine scrutinee first).bind fun later value extended _ => ?_
    split
    · exact (evaluate_keeps answers genuine whenNull second).later extended
    · exact (evaluate_keeps answers genuine otherwise third).later extended
  | .add overflow left right, writes => by
    obtain ⟨first, second⟩ : left.writesSlots = false ∧ right.writesSlots = false := by
      simpa [writesSlots] using writes
    rw [evaluate]
    exact keeps_combine (evaluate_keeps answers genuine left first)
      (evaluate_keeps answers genuine right second) fun _ _ _ _ => sum_genuine
  | .divide left right, writes => by
    obtain ⟨first, second⟩ : left.writesSlots = false ∧ right.writesSlots = false := by
      simpa [writesSlots] using writes
    rw [evaluate]
    exact keeps_combine (evaluate_keeps answers genuine left first)
      (evaluate_keeps answers genuine right second) fun _ _ _ _ => quotient_genuine
  | .repeatText left right, writes => by
    obtain ⟨first, second⟩ : left.writesSlots = false ∧ right.writesSlots = false := by
      simpa [writesSlots] using writes
    rw [evaluate]
    exact keeps_combine (evaluate_keeps answers genuine left first)
      (evaluate_keeps answers genuine right second) fun _ _ _ _ => repeated_genuine
  | .concat parts, writes => by
    have quiet : anyWritesSlots parts = false := by simpa [writesSlots] using writes
    rw [evaluate]
    exact (evaluateAll_keeps answers genuine parts quiet).bind
      fun _ _ _ _ => keeps_look fun _ _ _ => Value.genuine_literal _
  | .display content, writes => by
    have quiet : content.writesSlots = false := by simpa [writesSlots] using writes
    rw [evaluate]
    exact (evaluate_keeps answers genuine content quiet).bind
      fun _ _ _ _ => keeps_look fun _ _ _ => Value.genuine_literal _
  | .typeName content, writes => by
    have quiet : content.writesSlots = false := by simpa [writesSlots] using writes
    rw [evaluate]
    exact (evaluate_keeps answers genuine content quiet).bind
      fun _ _ _ _ => keeps_pure fun _ _ => Value.genuine_literal _
  | .callMethod receiver name parts, writes => by
    obtain ⟨first, second⟩ : receiver.writesSlots = false ∧ anyWritesSlots parts = false := by
      simpa [writesSlots] using writes
    rw [evaluate]
    refine (evaluate_keeps answers genuine receiver first).bind
      fun later called extended calledGenuine => ?_
    refine ((evaluateAll_keeps answers genuine parts second).later extended).bind
      fun last values further valuesGenuine => ?_
    exact (answers last (.callMethod called name values)
      ⟨calledGenuine.mono further, valuesGenuine⟩).mapError _
  | .raise receiver event parts, writes => by
    obtain ⟨first, second⟩ : receiver.writesSlots = false ∧ anyWritesSlots parts = false := by
      simpa [writesSlots] using writes
    rw [evaluate]
    refine (evaluate_keeps answers genuine receiver first).bind
      fun later raised extended raisedGenuine => ?_
    refine ((evaluateAll_keeps answers genuine parts second).later extended).bind
      fun last values further valuesGenuine => ?_
    exact (answers last (.raise raised event values)
      ⟨raisedGenuine.mono further, valuesGenuine⟩).mapError _
  | .callStatic type name parts, writes => by
    have quiet : anyWritesSlots parts = false := by simpa [writesSlots] using writes
    rw [evaluate]
    refine (evaluateAll_keeps answers genuine parts quiet).bind
      fun later values _ valuesGenuine => ?_
    exact (answers later (.callStatic type name values) valuesGenuine).mapError _
  | .construct type parts, writes => by
    have quiet : anyWritesSlots parts = false := by simpa [writesSlots] using writes
    rw [evaluate]
    refine (evaluateAll_keeps answers genuine parts quiet).bind
      fun later values _ valuesGenuine => ?_
    exact (answers later (.construct type values) valuesGenuine).mapError _

/-- Scripts that are evaluated from left to right answer genuine values, each in the store that the
ones before it left. -/
theorem evaluateAll_keeps (answers : ∀ later request, Request.Genuine registry later request →
      (answer request).Keeps registry later (.genuine registry))
    (genuine : frame.Genuine registry before) :
    ∀ scripts : List Script, anyWritesSlots scripts = false →
      (evaluateAll registry answer frame scripts).Keeps registry before (AllGenuine registry)
  | [], _ => by
    rw [evaluateAll]
    exact keeps_pure fun _ _ => by simp [AllGenuine]
  | script :: rest, writes => by
    obtain ⟨first, second⟩ : script.writesSlots = false ∧ anyWritesSlots rest = false := by
      simpa [anyWritesSlots] using writes
    rw [evaluateAll]
    refine (evaluate_keeps answers genuine script first).bind
      fun later value extended valueGenuine => ?_
    refine ((evaluateAll_keeps answers genuine rest second).later extended).bind
      fun last values further valuesGenuine => keeps_pure fun store final => ?_
    exact List.forall_mem_cons.mpr
      ⟨(valueGenuine.mono further).mono final, valuesGenuine.mono final⟩

end

end Evaluation

end Script

/-! ## Programs that leave the store to the host -/

/-- Whether a program asks for nothing but what is genuine, changes no store by itself, and ends
with a genuine value. What it sees in a store is genuine there, and so is what it is answered with
by the time it is answered; the store that the host leaves extends the one it was asked with. -/
def Program.Genuine (registry : Registry) : Program Fault Value → Store → Prop
  | .done verdict, before => ∀ value, verdict = .ok value → value.Genuine registry before
  | .look next, before => ∀ store, before.Extends store → registry.WellTyped store →
    (next store).Genuine registry store
  | .change _ _, _ => False
  | .call request next, before => registry.GenuineCall before request ∧
    ∀ store verdict, before.Extends store →
      (∀ value, verdict = .ok value → value.Genuine registry store) →
        (next verdict).Genuine registry store
  | .operate _ operation next, before => operation.Genuine registry before ∧
    ∀ store verdict, before.Extends store →
      (∀ answer, verdict = .ok answer → answer.Genuine registry store) →
        (next verdict).Genuine registry store

/-- Such a program keeps stores well typed. The induction is on the program: each request keeps them
so, and what is answered is what the rest of the program may rely on. -/
theorem Program.execute_keeps {registry : Registry} (sound : registry.WellFormed)
    (leaves : registry.LeavesSlots) {run : Interpreter} (bodies : run.Keeps registry)
    {program : Program Fault Value} {before : Store} (genuine : program.Genuine registry before) :
    (program.execute registry run).Keeps registry before (.genuine registry) := by
  induction program generalizing before with
  | done verdict =>
    exact Execution.keeps_ofExcept fun value same _ extended => (genuine value same).mono extended
  | look next inductionHypothesis =>
    have seen : (Execution.look id : Execution Fault Store).Keeps registry before
        fun later store => later = store ∧ before.Extends store ∧ registry.WellTyped store :=
      Execution.keeps_look fun store extended wellTyped => ⟨rfl, extended, wellTyped⟩
    refine seen.bind fun later store _ facts => ?_
    obtain ⟨rfl, extended, wellTyped⟩ := facts
    exact inductionHypothesis _ (genuine _ extended wellTyped)
  | change edit next inductionHypothesis => exact genuine.elim
  | call call next inductionHypothesis =>
    have asked := Registry.perform_keeps sound leaves bodies genuine.1
    refine asked.attempt.bind fun later verdict extended answered => ?_
    exact inductionHypothesis verdict (genuine.2 later verdict extended answered)
  | operate flags operation next inductionHypothesis =>
    let engine : Engine := { registry, flags, run }
    have asked : (engine.operate operation).Keeps registry before (Answer.Genuine registry) :=
      engine.operate_keeps sound leaves bodies genuine.1
    refine asked.attempt.bind fun later verdict extended answered => ?_
    exact inductionHypothesis verdict (genuine.2 later verdict extended answered)

/-! ## Reachable stores -/

namespace Registry

variable {registry : Registry}

/-- Scripts keep stores well typed, to any depth. -/
theorem WellFormed.interpreter_keeps (sound : registry.WellFormed)
    (leaves : registry.LeavesSlots) (depth : Nat) :
    (registry.interpreter depth).Keeps registry := by
  induction depth with
  | zero => exact fun _ _ _ _ _ => Execution.keeps_exhausted
  | succ depth inductionHypothesis =>
    intro before script frame quiet genuine
    let engine : Engine := { registry, run := registry.interpreter depth }
    have answers : ∀ later request, request.Genuine registry later →
        (engine.answer request).Keeps registry later (.genuine registry) :=
      engine.answer_keeps sound leaves inductionHypothesis
    exact Script.evaluate_keeps answers genuine script quiet

/-- So do bodies that are programs, if they are genuine in every genuine frame. -/
theorem WellFormed.programInterpreter_keeps (sound : registry.WellFormed)
    (leaves : registry.LeavesSlots) {bodies : Script → Frame → Program Fault Value}
    (genuine : ∀ script frame before, Frame.Genuine registry before frame →
      (bodies script frame).Genuine registry before) (depth : Nat) :
    (registry.programInterpreter bodies depth).Keeps registry := by
  induction depth with
  | zero => exact fun _ _ _ _ _ => Execution.keeps_exhausted
  | succ depth inductionHypothesis =>
    intro before script frame _ frameGenuine
    exact Program.execute_keeps sound leaves inductionHypothesis
      (genuine script frame before frameGenuine)

/-- The stores that operations lead to, one after the other, from the empty one. An operation may
choose members by any flags, and is given members of the registry and values that refer to
objects which are there. It may fail; what it did before stays done. Each operation may come with
bodies of its own, as long as these keep stores well typed: scripts of a registry that leaves slots
alone do, and so do programs that leave the store to the host, which may set values and subscribe
handlers as they like. -/
inductive Reachable (registry : Registry) : Store → Prop
  | empty : Reachable registry .empty
  | step {before after : Store} {flags : BindingFlags} {run : Interpreter} {operation : Operation}
    {verdict : Except Error Answer} : Reachable registry before → run.Keeps registry →
    operation.Genuine registry before →
    (Engine.operate { registry, flags, run } operation).run before = some (verdict, after) →
    Reachable registry after

/-- Reachable stores are well typed. -/
theorem WellFormed.wellTyped_of_reachable (sound : registry.WellFormed)
    (leaves : registry.LeavesSlots) {store : Store} (reachable : registry.Reachable store) :
    registry.WellTyped store := by
  induction reachable with
  | empty => exact wellTyped_empty
  | @step before after flags run operation verdict _ bodies genuine ended inductionHypothesis =>
    let engine : Engine := { registry, flags, run }
    have keeps : (engine.operate operation).Keeps registry before (Answer.Genuine registry) :=
      engine.operate_keeps sound leaves bodies genuine
    exact (keeps before (.refl before) inductionHypothesis verdict after ended).1

/-! ## What fields read -/

/-- Whether a type is that of a struct. -/
def IsStruct (registry : Registry) (type : Ty) : Prop :=
  ∃ id arguments definition, type = .named id arguments ∧
    registry.definition? id = some definition ∧ definition.kind = .structType

/-- Whether a value fits a type or is the null that a field of a struct type starts with. -/
def FitsOrUnset (registry : Registry) (type : Ty) (value : Value) : Prop :=
  registry.Fits type value ∨ registry.IsStruct type ∧ value = .null

/-- What a place starts with fits its type, unless that is a struct: zero of the primitive types
fits, and null fits wherever no value type is declared. -/
theorem defaultValue_fitsOrUnset (type : Ty) :
    registry.FitsOrUnset type (defaultValue type) := by
  have null {type : Ty} (nullable : registry.isValueType type = false) :
      registry.FitsOrUnset type .null := Or.inl (Or.inl ⟨rfl, nullable⟩)
  cases type with
  | primitive primitive =>
    cases primitive with
    | str => exact null rfl
    | bool | i32 | i64 | f64 | char | unit =>
      exact Or.inl (Or.inr ⟨_, rfl, registry.isAssignable_self _⟩)
  | object => exact null rfl
  | delegate => exact null rfl
  | parameter p => exact null rfl
  | named id arguments =>
    cases struct : registry.isValueType (.named id arguments) with
    | false => exact null struct
    | true =>
      obtain ⟨definition, found, kind⟩ : ∃ definition, registry.definition? id = some definition ∧
          definition.kind = .structType := by
        simpa [isValueType, Option.any_eq_true] using struct
      exact Or.inr ⟨⟨id, arguments, definition, rfl, found, kind⟩, rfl⟩

/-- Whatever may be held by a user of a place, declared at the type of a field, the field reads as
a value that fits or as the null it started with. -/
theorem fieldContent_fitsOrUnset {field : Member} {stored : Option Value}
    (held : ∀ value, stored = some value → ∃ user : Member, user.type = field.type ∧
      registry.MayHold user value) :
    registry.FitsOrUnset field.type (fieldContent stored field) := by
  rw [fieldContent]
  cases stored with
  | none => exact defaultValue_fitsOrUnset _
  | some value =>
    obtain ⟨user, sameType, fits | rfl⟩ := held value rfl
    · exact Or.inl (sameType ▸ fits)
    · rw [Option.getD_some, sameType]
      exact defaultValue_fitsOrUnset _

end Registry

namespace Engine

variable {engine : Engine}

/-- Heap typing. In a store that is reachable in a well-formed registry whose bodies write no slots
themselves, a closed field reads a value that the host would accept for it, or else null where
the field's type is a struct. For an instance field this is so on every object that is an
instance of the declaring type, provided that all members which use the slot of its name on
that object are declared at the same type; for a static field, provided that all those which
use the static field of its name are. -/
theorem reading_fitsOrUnset (sound : engine.registry.WellFormed)
    (leaves : engine.registry.LeavesSlots) {store : Store}
    (reachable : engine.registry.Reachable store) {field : Member} (isField : field.IsField) :
    (field.isStatic = false → ∀ ref : ObjectRef,
      (Value.object ref).Genuine engine.registry store →
      engine.registry.isAssignable ref.type field.declaring = true →
      (∀ user, engine.registry.SlotUser ref.type user → user.name = field.name →
        user.type = field.type) →
      ∃ value, engine.reading field (some (.object ref)) store = some (.ok value) ∧
        engine.registry.FitsOrUnset field.type value) ∧
    (field.isStatic = true → ∀ target : Option Value,
      (∀ user, engine.registry.StaticUser field.declaring user → user.name = field.name →
        user.type = field.type) →
      ∃ value, engine.reading field target store = some (.ok value) ∧
        engine.registry.FitsOrUnset field.type value) := by
  have wellTyped := sound.wellTyped_of_reachable leaves reachable
  constructor
  · intro isInstance ref genuine admitted agree
    refine ⟨_, by rw [reading_instance isField isInstance, if_pos admitted],
      Registry.fieldContent_fitsOrUnset fun value found => ?_⟩
    obtain ⟨-, type, held, user, uses, sameName, holds⟩ := wellTyped.getSlot found
    obtain rfl : type = ref.type :=
      Option.some.inj (held.symm.trans ((Value.genuine_object ref).mp genuine))
    exact ⟨user, agree user uses sameName, holds⟩
  · intro static target agree
    refine ⟨_, reading_static isField static target store,
      Registry.fieldContent_fitsOrUnset fun value found => ?_⟩
    obtain ⟨-, user, uses, sameName, holds⟩ := wellTyped.statics found
    exact ⟨user, agree user uses sameName, holds⟩

/-- A struct, and a class with an instance field and a static field of that type, and with a number
beside them. -/
def pins : Engine where
  registry := .ofDefinitions
    [{ name := "Point", kind := .structType },
     { name := "Pin", kind := .classType
       declarations :=
        [{ name := "new", kind := .constructor, body := .native .unit },
         { name := "place", kind := .field, type := .named ⟨0⟩ [] },
         { name := "origin", kind := .field, type := .named ⟨0⟩ [], isStatic := true },
         { name := "mark", kind := .field, type := .i32 }] }]
  run := fun _ _ => .exhausted

/-- Neither class has a base or a parameter. -/
theorem pins_wellFormed : pins.registry.WellFormed :=
  .of_definitions _ (by decide) (by decide)

/-- The one body is a literal. -/
theorem pins_leavesSlots : pins.registry.LeavesSlots := by
  have bodies : ∀ definition ∈ pins.registry.definitions,
      ∀ declaration ∈ definition.declarations,
        declaration.body = .field ∨ declaration.body = .native .unit := by
    simp [pins, Registry.ofDefinitions]
  intro definition listed declaration stored role script runs
  rcases bodies definition listed declaration stored with body | body <;> rw [body] at runs
  · simp [Body.script?] at runs
  · obtain rfl : .unit = script := by
      cases role <;> simp_all [Body.script?]
    rfl

/-- A body that has the host mark the object it runs on. -/
def marking (_ : Script) (frame : Frame) : Program Fault Value :=
  .operate .all (.setField frame.target "mark" (.literal (.i32 7))) fun verdict =>
    .done ((verdict.map fun _ => .unit).mapError Fault.ofError)

/-- It asks with the receiver of its frame and a literal, and ends with a literal. -/
theorem marking_genuine {registry : Registry} (script : Script) (frame : Frame) (before : Store)
    (genuine : frame.Genuine registry before) :
    (marking script frame).Genuine registry before := by
  obtain ⟨targetGenuine, -⟩ := allGenuine_append.mp genuine
  have mark : AllGenuine registry before [.literal (.i32 7)] := by simp [AllGenuine]
  refine ⟨allGenuine_append.mpr ⟨targetGenuine, mark⟩, fun store verdict _ _ value ended => ?_⟩
  cases verdict with
  | error error => simp [Except.map, Except.mapError] at ended
  | ok answer =>
    obtain rfl : Value.unit = value := by simpa [Except.map, Except.mapError] using ended
    exact Value.genuine_literal _

/-- The fields of a new pin read null, which the host would not let anyone write to them, also when
the constructor is a program that has the host mark the pin. -/
theorem pins_read_unset :
    ∃ place ∈ pins.registry.declaredMembers (.named ⟨1⟩ []),
    ∃ origin ∈ pins.registry.declaredMembers (.named ⟨1⟩ []),
    ∃ ref store, pins.registry.Reachable store ∧
      (∃ value, pins.reading place (some (.object ref)) store = some (.ok value) ∧
        pins.registry.FitsOrUnset place.type value) ∧
      (∃ value, pins.reading origin none store = some (.ok value) ∧
        pins.registry.FitsOrUnset origin.type value) ∧
      pins.reading place (some (.object ref)) store = some (.ok .null) ∧
      pins.reading origin none store = some (.ok .null) ∧
      ¬ pins.registry.Fits (.named ⟨0⟩ []) .null ∧
      store.getSlot? ref "mark" = some (.literal (.i32 7)) := by
  let place := (pins.registry.declaredMembers (.named ⟨1⟩ [])).get ⟨1, by decide⟩
  let origin := (pins.registry.declaredMembers (.named ⟨1⟩ [])).get ⟨2, by decide⟩
  let ref : ObjectRef := ⟨1, .named ⟨1⟩ []⟩
  let plain : StoredObject :=
    ⟨.named ⟨1⟩ [], ⟨[("place", .null), ("mark", .literal (.i32 0))]⟩⟩
  let marked : StoredObject :=
    ⟨.named ⟨1⟩ [], ⟨[("place", .null), ("mark", .literal (.i32 7))]⟩⟩
  let store : Store := { objects := [plain, marked] }
  let scripts : Engine := { registry := pins.registry, run := pins.registry.interpreter 1 }
  let programs : Engine :=
    { registry := pins.registry, run := pins.registry.programInterpreter marking 1 }
  have made : (scripts.operate (.construct (.named ⟨1⟩ []) [])).run .empty =
      some (.ok (.value (.object ⟨0, .named ⟨1⟩ []⟩)), { objects := [plain] }) := rfl
  have madeAgain : (programs.operate (.construct (.named ⟨1⟩ []) [])).run { objects := [plain] } =
      some (.ok (.value (.object ref)), store) := rfl
  have reachablePlain : pins.registry.Reachable { objects := [plain] } :=
    .step .empty (pins_wellFormed.interpreter_keeps pins_leavesSlots 1)
      (by simp [Operation.Genuine, AllGenuine]) made
  have reachable : pins.registry.Reachable store :=
    .step reachablePlain
      (pins_wellFormed.programInterpreter_keeps pins_leavesSlots marking_genuine 1)
      (by simp [Operation.Genuine, AllGenuine]) madeAgain
  have placeDeclared {user : Member} (described : pins.registry.Describes user)
      (named : user.name = "place") : user.type = .named ⟨0⟩ [] :=
    described.type_eq (by decide) (by decide) named
  have originDeclared {user : Member} (described : pins.registry.Describes user)
      (named : user.name = "origin") : user.type = .named ⟨0⟩ [] :=
    described.type_eq (by decide) (by decide) named
  have placeIsField : place.IsField := ⟨rfl, rfl, rfl⟩
  have originIsField : origin.IsField := ⟨rfl, rfl, rfl⟩
  have refGenuine : (Value.object ref).Genuine pins.registry store :=
    (Value.genuine_object ref).mpr rfl
  refine ⟨place, List.get_mem _ _, origin, List.get_mem _ _, ref, store, reachable, ?_, ?_,
    rfl, rfl, ?_, rfl⟩
  · exact (reading_fitsOrUnset pins_wellFormed pins_leavesSlots reachable placeIsField).1 rfl
      ref refGenuine (by decide) fun user uses named => placeDeclared uses.described named
  · exact (reading_fitsOrUnset pins_wellFormed pins_leavesSlots reachable originIsField).2 rfl
      none fun user uses named => originDeclared uses.described named
  · rw [← Registry.admits_iff]
    decide

end Engine

end LateBinding
