import LateBinding.Proofs.Operations

/-!
# What a body passes on

A script cannot catch anything. Its parts are evaluated from left to right and the first that fails
ends it, so the error of whatever it asks of the engine becomes its own fault (`evaluate_of_comes`).
A program may catch; it passes an error on where it ends with the fault that the error becomes, as
soon as it gets the error for an answer (`execute_of_comes`).

`Script.Comes` and `Program.Comes` say of a body that is run with a store which request it comes to,
and which store it has by then.
-/
namespace LateBinding

namespace Script

/-- The parts of a script that are evaluated first, from left to right. -/
def parts : Script → List Script
  | .setSlot _ content | .display content | .typeName content => [content]
  | .sequence steps | .concat steps => steps
  | .ifNull scrutinee _ _ => [scrutinee]
  | .add _ left right | .divide left right | .repeatText left right => [left, right]
  | .callMethod receiver _ arguments | .raise receiver _ arguments => receiver :: arguments
  | .callStatic _ _ arguments | .construct _ arguments => arguments
  | _ => []

/-- What a script asks of the engine once its parts have values. -/
def request? : Script → List Value → Option Request
  | .callMethod _ name _, receiver :: arguments => some (.callMethod receiver name arguments)
  | .raise _ event _, receiver :: arguments => some (.raise receiver event arguments)
  | .callStatic type name _, arguments => some (.callStatic type name arguments)
  | .construct type _, arguments => some (.construct type arguments)
  | _, _ => none

/-- The part that is chosen once the first parts have values. -/
def branch? : Script → List Value → Option Script
  | .ifNull _ whenNull otherwise, [value] => some (if value.isNull then whenNull else otherwise)
  | _, _ => none

section Evaluation

variable (registry : Registry) (answer : Request → Execution Error Value) (frame : Frame)

/-- Whether a script that is evaluated with a store comes to a request, and with which store. -/
inductive Comes : Script → Store → Request → Store → Prop
  | part {script part : Script} {earlier later : List Script} {values : List Value}
      {store between asked : Store} {request : Request} :
    script.parts = earlier ++ part :: later →
    (evaluateAll registry answer frame earlier).run store = some (.ok values, between) →
    Comes part between request asked → Comes script store request asked
  | branch {script chosen : Script} {values : List Value} {store between asked : Store}
      {request : Request} :
    (evaluateAll registry answer frame script.parts).run store = some (.ok values, between) →
    script.branch? values = some chosen →
    Comes chosen between request asked → Comes script store request asked
  | asks {script : Script} {values : List Value} {store asked : Store} {request : Request} :
    (evaluateAll registry answer frame script.parts).run store = some (.ok values, asked) →
    script.request? values = some request → Comes script store request asked

variable {registry answer frame}

/-- Scripts in a row may be evaluated in two parts, with the store handed on between them. -/
theorem evaluateAll_append (earlier later : List Script) :
    evaluateAll registry answer frame (earlier ++ later) = (do
      let values ← evaluateAll registry answer frame earlier
      let others ← evaluateAll registry answer frame later
      pure (values ++ others)) := by
  induction earlier with
  | nil => simp [evaluateAll]
  | cons script rest inductionHypothesis => simp [evaluateAll, inductionHypothesis]

variable (registry answer frame) in
/-- Whether an execution evaluates scripts in order before it does anything else. -/
def BeginsWith (scripts : List Script) (execution : Execution Fault Value) : Prop :=
  ∃ next, execution = evaluateAll registry answer frame scripts >>= next

/-- Any execution begins with nothing. -/
theorem beginsWith_nil (execution : Execution Fault Value) :
    BeginsWith registry answer frame [] execution :=
  ⟨fun _ => execution, by simp [evaluateAll]⟩

/-- What goes on with the value of a script begins with that script. -/
theorem beginsWith_one (script : Script) (next : Value → Execution Fault Value) :
    BeginsWith registry answer frame [script] (evaluate registry answer frame script >>= next) :=
  ⟨fun values => next (values.headD .unit), by simp [evaluateAll]⟩

/-- A script before others is evaluated before them, and an error in it is an error of the whole. -/
theorem beginsWith_cons (script : Script) (scripts : List Script)
    (next : Value → List Value → Execution Fault Value) :
    BeginsWith registry answer frame (script :: scripts) (do
      let value ← evaluate registry answer frame script
      let values ← evaluateAll registry answer frame scripts
      next value values) :=
  ⟨fun values => next (values.headD .unit) values.tail, by simp [evaluateAll]⟩

/-- Of two operands the left one comes first. -/
theorem beginsWith_two (left right : Script) (next : Value → Value → Execution Fault Value) :
    BeginsWith registry answer frame [left, right] (do
      let a ← evaluate registry answer frame left
      let b ← evaluate registry answer frame right
      next a b) :=
  ⟨fun values => next (values.headD .unit) (values.tail.headD .unit), by simp [evaluateAll]⟩

/-- Every script begins with its parts in order. One case for each sort of script; those without
parts begin with nothing. -/
theorem evaluate_beginsWith_parts (script : Script) :
    BeginsWith registry answer frame script.parts (evaluate registry answer frame script) := by
  cases script with
  | setSlot name content => rw [evaluate]; exact beginsWith_one _ _
  | sequence steps => rw [evaluate]; exact ⟨_, rfl⟩
  | ifNull scrutinee whenNull otherwise => rw [evaluate]; exact beginsWith_one _ _
  | add overflow left right => rw [evaluate]; exact beginsWith_two _ _ _
  | divide left right => rw [evaluate]; exact beginsWith_two _ _ _
  | concat steps => rw [evaluate]; exact ⟨_, rfl⟩
  | display content => rw [evaluate]; exact beginsWith_one _ _
  | repeatText content times => rw [evaluate]; exact beginsWith_two _ _ _
  | typeName content => rw [evaluate]; exact beginsWith_one _ _
  | callMethod receiver name arguments => rw [evaluate]; exact beginsWith_cons _ _ _
  | callStatic type name arguments => rw [evaluate]; exact ⟨_, rfl⟩
  | construct type arguments => rw [evaluate]; exact ⟨_, rfl⟩
  | raise receiver event arguments => rw [evaluate]; exact beginsWith_cons _ _ _
  | _ => exact beginsWith_nil _

/-- A script ends with the fault of the first part that fails. -/
theorem run_evaluate_of_part {script part : Script} {earlier later : List Script}
    {values : List Value} {store between after : Store} {fault : Fault}
    (placed : script.parts = earlier ++ part :: later)
    (begun : (evaluateAll registry answer frame earlier).run store = some (.ok values, between))
    (failed : (evaluate registry answer frame part).run between = some (.error fault, after)) :
    (evaluate registry answer frame script).run store = some (.error fault, after) := by
  have ended : (evaluateAll registry answer frame script.parts).run store =
      some (.error fault, after) := by
    rw [placed, evaluateAll_append, Execution.run_bind_ok begun, evaluateAll]
    exact Execution.run_bind_error (Execution.run_bind_error failed)
  have begins : BeginsWith registry answer frame script.parts
      (evaluate registry answer frame script) := evaluate_beginsWith_parts script
  obtain ⟨next, same⟩ := begins
  rw [same]
  exact Execution.run_bind_error ended

/-- With the values of its parts a script goes on to its request. -/
theorem run_evaluate_of_request {script : Script} {values : List Value} {request : Request}
    {store asked : Store}
    (begun : (evaluateAll registry answer frame script.parts).run store = some (.ok values, asked))
    (asks : script.request? values = some request) :
    (evaluate registry answer frame script).run store =
      ((answer request).mapError Fault.ofError).run asked := by
  have goesOn : ∃ next, evaluate registry answer frame script =
      evaluateAll registry answer frame script.parts >>= next ∧
        next values = (answer request).mapError Fault.ofError := by
    cases script with
    | callMethod receiver name arguments =>
      cases values with
      | nil => simp [request?] at asks
      | cons called rest =>
        obtain rfl := Option.some.inj asks
        refine ⟨fun values => (answer (.callMethod (values.headD .unit) name
          values.tail)).mapError Fault.ofError, ?_, rfl⟩
        simp [evaluate, evaluateAll, parts]
    | raise receiver event arguments =>
      cases values with
      | nil => simp [request?] at asks
      | cons raised rest =>
        obtain rfl := Option.some.inj asks
        refine ⟨fun values => (answer (.raise (values.headD .unit) event
          values.tail)).mapError Fault.ofError, ?_, rfl⟩
        simp [evaluate, evaluateAll, parts]
    | callStatic type name arguments =>
      obtain rfl := Option.some.inj asks
      exact ⟨_, by rw [evaluate]; rfl, rfl⟩
    | construct type arguments =>
      obtain rfl := Option.some.inj asks
      exact ⟨_, by rw [evaluate]; rfl, rfl⟩
    | _ => simp [request?] at asks
  obtain ⟨next, same, reached⟩ := goesOn
  rw [same, Execution.run_bind_ok begun, reached]

/-- With the value of its first part a choice goes on to the part chosen. -/
theorem run_evaluate_of_branch {script chosen : Script} {values : List Value}
    {store between : Store}
    (begun : (evaluateAll registry answer frame script.parts).run store =
      some (.ok values, between))
    (chooses : script.branch? values = some chosen) :
    (evaluate registry answer frame script).run store =
      (evaluate registry answer frame chosen).run between := by
  cases script with
  | ifNull scrutinee whenNull otherwise =>
    have goesOn : evaluate registry answer frame (.ifNull scrutinee whenNull otherwise) =
        evaluateAll registry answer frame (parts (.ifNull scrutinee whenNull otherwise)) >>=
          fun values => evaluate registry answer frame
            (if (values.headD .unit).isNull then whenNull else otherwise) := by
      simp only [evaluate, evaluateAll, parts, bind_assoc, pure_bind, List.headD_cons, apply_ite]
      rfl
    rw [goesOn, Execution.run_bind_ok begun]
    rcases values with _ | ⟨value, _ | ⟨second, others⟩⟩
    · simp [branch?] at chooses
    · obtain rfl := Option.some.inj chooses
      rfl
    · simp [branch?] at chooses
  | _ => simp [branch?] at chooses

/-- A script that comes to a request ends with the fault that the error of the request becomes. -/
theorem evaluate_of_comes {script : Script} {store asked after : Store} {request : Request}
    {error : Error} (comes : Comes registry answer frame script store request asked)
    (failed : (answer request).run asked = some (.error error, after)) :
    (evaluate registry answer frame script).run store =
      some (.error (Fault.ofError error), after) := by
  induction comes with
  | part placed begun comes inductionHypothesis =>
    exact run_evaluate_of_part placed begun (inductionHypothesis failed)
  | branch begun chooses comes inductionHypothesis =>
    rw [run_evaluate_of_branch begun chooses]
    exact inductionHypothesis failed
  | asks begun asks =>
    rw [run_evaluate_of_request begun asks, Execution.run_mapError, failed]
    rfl

end Evaluation

end Script

/-! ## Programs -/

namespace Program

variable (registry : Registry) (run : Interpreter)

/-- Whether a program that is executed with a store comes to an operation whose error it passes on,
and with which store. -/
inductive Comes : Program Fault Value → Store → BindingFlags → Operation → Store → Prop
  | asks {flags : BindingFlags} {operation : Operation} {store : Store}
      {next : Except Error Answer → Program Fault Value} :
    (∀ error, next (.error error) = .done (.error (Fault.ofError error))) →
    Comes (.operate flags operation next) store flags operation store
  | look {next : Store → Program Fault Value} {store asked : Store} {flags : BindingFlags}
      {request : Operation} :
    Comes (next store) store flags request asked → Comes (.look next) store flags request asked
  | change {edit : Store → Store} {next : Program Fault Value} {store asked : Store}
      {flags : BindingFlags} {request : Operation} :
    Comes next (edit store) flags request asked →
    Comes (.change edit next) store flags request asked
  | call {call : Call} {next : Except Error Value → Program Fault Value}
      {store between asked : Store} {verdict : Except Error Value} {flags : BindingFlags}
      {request : Operation} :
    (registry.perform run call).run store = some (verdict, between) →
    Comes (next verdict) between flags request asked →
    Comes (.call call next) store flags request asked
  | operate {others : BindingFlags} {operation : Operation}
      {next : Except Error Answer → Program Fault Value} {store between asked : Store}
      {verdict : Except Error Answer} {flags : BindingFlags} {request : Operation} :
    (Engine.operate { registry, flags := others, run } operation).run store =
      some (verdict, between) →
    Comes (next verdict) between flags request asked →
    Comes (.operate others operation next) store flags request asked

variable {registry run}

/-- A verdict that is taken as a value is handed to what follows. -/
theorem run_attempt_bind {α : Type} {execution : Execution Error α} {verdict : Except Error α}
    {next : Except Error α → Execution Fault Value} {store between : Store}
    (ended : execution.run store = some (verdict, between)) :
    (execution.attempt >>= next).run store = (next verdict).run between := by
  apply Execution.run_bind_ok
  show (execution.run store).map _ = _
  rw [ended, Option.map_some]

/-- A program that passes on the error of an operation ends with the fault it becomes. -/
theorem execute_of_comes {program : Program Fault Value} {store asked after : Store}
    {flags : BindingFlags} {request : Operation} {error : Error}
    (comes : Comes registry run program store flags request asked)
    (failed : (Engine.operate { registry, flags, run } request).run asked =
      some (.error error, after)) :
    (program.execute registry run).run store = some (.error (Fault.ofError error), after) := by
  induction comes with
  | asks passes =>
    rw [execute, run_attempt_bind failed, passes]
    rfl
  | look comes inductionHypothesis => exact inductionHypothesis failed
  | change comes inductionHypothesis => exact inductionHypothesis failed
  | call ended comes inductionHypothesis =>
    rw [execute, run_attempt_bind ended]
    exact inductionHypothesis failed
  | operate ended comes inductionHypothesis =>
    rw [execute, run_attempt_bind ended]
    exact inductionHypothesis failed

end Program

end LateBinding
