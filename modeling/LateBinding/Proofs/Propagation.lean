import LateBinding.Proofs.HostCalls
import LateBinding.Proofs.PassingOn

/-!
# Faults cross layers unchanged

A body may ask the engine for operations, which run bodies again. When the innermost body fails and
every body around it passes on the error that it is answered with, the fault comes out of the
outermost operation with its kind and message, and with one frame for each body it left, the
innermost first. Four things happen to it at each layer: it gets the frame, the host puts a layer
around it, the engine takes the layer off, and the body that asked makes it its own fault again.
`Engine.FailsThrough` describes such a nesting without saying anything of traces, and the theorem of
this module is by induction on it.

Errors that carry no fault come from the checks before a body starts. They are handed to the caller
as they are, and no operation ends with the layer that the host puts around a fault.
-/
namespace LateBinding

namespace Engine

variable {engine : Engine}

/-! ## Where the error of an operation comes from -/

/-- Handlers fail to be read with the call that reads them, or because something else stands in
their place. -/
theorem subscribers_fails {field : Member} {receiver : Value} {store after : Store} {error : Error}
    (failed : (engine.subscribers field receiver).run store = some (.error error, after)) :
    error.fault? = none ∨
      (engine.execute (.get field (some receiver) [])).run store = some (.error error, after) := by
  rcases Execution.run_bind_eq_error_iff.mp failed with unread | ⟨value, between, _, other⟩
  · exact Or.inr unread
  · split at other
    · simp at other
    · simp at other
    · obtain ⟨same, -⟩ := Prod.mk.inj (Option.some.inj other)
      obtain rfl := Except.error.inj same
      exact Or.inl rfl

/-- Handlers that are run one after the other fail as the first that fails. -/
theorem runHandlers_fails {arguments : List Value} {handlers : Delegate} {store after : Store}
    {error : Error}
    (failed : (engine.runHandlers arguments handlers).run store = some (.error error, after)) :
    ∃ earlier handler later between, handlers = earlier ++ handler :: later ∧
      (engine.runHandlers arguments earlier).run store = some (.ok (), between) ∧
      (engine.invoke handler.method handler.target arguments).run between =
        some (.error error, after) := by
  induction handlers generalizing store with
  | nil => simp [runHandlers] at failed
  | cons first rest inductionHypothesis =>
    rw [runHandlers, Execution.run_bind_eq_error_iff] at failed
    rcases failed with here | ⟨value, between, returned, there⟩
    · exact ⟨[], first, rest, store, rfl, rfl, here⟩
    · obtain ⟨earlier, handler, later, begun, rfl, ran, ended⟩ := inductionHypothesis there
      refine ⟨first :: earlier, handler, later, begun, rfl, ?_, ended⟩
      rw [runHandlers, Execution.run_bind_ok returned]
      exact ran

/-- What fails after a choice fails in the choice, without a fault, or with what was chosen. -/
theorem fails_of_chosen {α β : Type} {verdict : Except Error α} {next : α → Execution Error β}
    {store after : Store} {error : Error} (free : FaultFree verdict)
    (failed : (.ofExcept verdict >>= next).run store = some (.error error, after)) :
    error.fault? = none ∨
      ∃ value, verdict = .ok value ∧ (next value).run store = some (.error error, after) := by
  cases verdict with
  | error other =>
    obtain ⟨same, -⟩ := Prod.mk.inj (Option.some.inj failed)
    obtain rfl := Except.error.inj same
    exact Or.inl (free other rfl)
  | ok value => exact Or.inr ⟨value, rfl, failed⟩

/-- Whether an operation makes a call that fails with an error. -/
def FailsInCall (engine : Engine) (operation : Operation) (store : Store) (error : Error)
    (after : Store) : Prop :=
  ∃ call between, engine.Makes operation store call between ∧
    (engine.execute call).run between = some (.error error, after)

/-- An operation on a single member fails in its choice, in its call or in reading the answer, and
only the call brings in a fault. -/
theorem operate_single_fails {operation : Operation} (single : operation.isEvent = false)
    {store after : Store} {error : Error}
    (failed : (engine.operate operation).run store = some (.error error, after)) :
    error.fault? = none ∨ engine.FailsInCall operation store error after := by
  rw [operate_eq single] at failed
  rcases fails_of_chosen (call_faultFree operation) failed with free | ⟨call, chosen, called⟩
  · exact Or.inl free
  · rcases Execution.run_bind_eq_error_iff.mp called with ended | ⟨value, between, _, unread⟩
    · exact Or.inr ⟨call, store, .first chosen, ended⟩
    · obtain ⟨same, -⟩ := Prod.mk.inj (Option.some.inj unread)
      exact Or.inl (read_faultFree operation value error same)

/-- The call by which an operation on an event begins. -/
theorem makes_get {operation : Operation} {target : Option Value} {name : String}
    {place : Member × Value} (begins : engine.call operation = (do
      let (field, receiver) ← engine.eventPlace target name
      pure (.get field (some receiver) []))) (placed : engine.eventPlace target name = .ok place)
    (store : Store) : engine.Makes operation store (.get place.1 (some place.2) []) store := by
  apply Makes.first
  rw [begins, placed]
  rfl

/-- An operation on an event fails before it has read the handlers, without a fault or in the call
that reads them, or it goes on from there and fails. -/
theorem event_fails {α : Type} (operation : Operation) {target : Option Value} {name : String}
    {next : Member × Value → Option Delegate → Execution Error α} {store after : Store}
    {error : Error}
    (begins : engine.call operation = (do
      let (field, receiver) ← engine.eventPlace target name
      pure (.get field (some receiver) [])))
    (failed : (do
      let place ← Execution.ofExcept (engine.eventPlace target name)
      let current ← engine.subscribers place.1 place.2
      next place current).run store = some (.error error, after)) :
    error.fault? = none ∨ engine.FailsInCall operation store error after ∨
      ∃ place current found, engine.eventPlace target name = .ok place ∧
        (engine.subscribers place.1 place.2).run store = some (.ok current, found) ∧
        (next place current).run found = some (.error error, after) := by
  rcases fails_of_chosen (eventPlace_faultFree target name) failed with
    free | ⟨place, placed, begun⟩
  · exact Or.inl free
  rcases Execution.run_bind_eq_error_iff.mp begun with unread | ⟨current, found, read, ended⟩
  · exact (subscribers_fails unread).imp_right fun ended =>
      Or.inl ⟨_, store, makes_get begins placed store, ended⟩
  · exact Or.inr (Or.inr ⟨place, current, found, placed, read, ended⟩)

/-- Raising an event may also fail in one of the handlers; the calls of those before it returned. -/
theorem raiseEvent_fails {target : Option Value} {name : String} {arguments : List Value}
    {store after : Store} {error : Error}
    (failed : (engine.raiseEvent target name arguments).run store = some (.error error, after)) :
    error.fault? = none ∨
      engine.FailsInCall (.raiseEvent target name arguments) store error after := by
  rw [raiseEvent_eq] at failed
  rcases event_fails (.raiseEvent target name arguments) rfl failed with
    free | unread | ⟨place, current, found, placed, read, ran⟩
  · exact Or.inl free
  · exact Or.inr unread
  cases current with
  | none => simp at ran
  | some handlers =>
    obtain ⟨earlier, handler, later, between, rfl, before, invoked⟩ := runHandlers_fails ran
    rw [invoke, invokeExpecting_eq] at invoked
    rcases fails_of_chosen (invokeCall_faultFree _ _ _ _) invoked with
      free | ⟨call, chosen, ended⟩
    · exact Or.inl free
    · exact Or.inr ⟨call, between, .handler placed read before chosen, ended⟩

/-- Subscribing may also fail in writing the longer list. -/
theorem subscribe_fails {target : Option Value} {name : String} {handler : Handler}
    {store after : Store} {error : Error}
    (failed : (engine.subscribe target name handler).run store = some (.error error, after)) :
    error.fault? = none ∨
      engine.FailsInCall (.subscribe target name handler) store error after := by
  rw [subscribe_eq] at failed
  rcases event_fails (.subscribe target name handler) rfl failed with
    free | unread | ⟨place, current, found, placed, read, stored⟩
  · exact Or.inl free
  · exact Or.inr unread
  · exact Or.inr ⟨_, found, .subscribed placed read, Execution.run_map_eq_error_iff.mp stored⟩

/-- Unsubscribing likewise, where there is a list to write. -/
theorem unsubscribe_fails {target : Option Value} {name : String} {handler : Handler}
    {store after : Store} {error : Error}
    (failed : (engine.unsubscribe target name handler).run store = some (.error error, after)) :
    error.fault? = none ∨
      engine.FailsInCall (.unsubscribe target name handler) store error after := by
  rw [unsubscribe_eq] at failed
  rcases event_fails (.unsubscribe target name handler) rfl failed with
    free | unread | ⟨place, current, found, placed, read, stored⟩
  · exact Or.inl free
  · exact Or.inr unread
  cases current with
  | none => simp at stored
  | some handlers =>
    exact Or.inr ⟨_, found, .unsubscribed placed read, Execution.run_map_eq_error_iff.mp stored⟩

/-- An operation fails without a fault, or with the error of a call that it makes. -/
theorem operate_fails {operation : Operation} {store after : Store} {error : Error}
    (failed : (engine.operate operation).run store = some (.error error, after)) :
    error.fault? = none ∨ engine.FailsInCall operation store error after := by
  cases single : operation.isEvent with
  | false => exact operate_single_fails single failed
  | true =>
    cases operation with
    | raiseEvent target name arguments =>
      exact raiseEvent_fails (Execution.run_map_eq_error_iff.mp failed)
    | subscribe target name handler =>
      exact subscribe_fails (Execution.run_map_eq_error_iff.mp failed)
    | unsubscribe target name handler =>
      exact unsubscribe_fails (Execution.run_map_eq_error_iff.mp failed)
    | _ => simp [Operation.isEvent] at single

/-! ## One layer -/

/-- A call that fails carries no fault and has started no body, or it fails with the fault of the
body it started, which got a frame. -/
theorem execute_fails {call : Call} {store after : Store} {error : Error}
    (failed : (engine.execute call).run store = some (.error error, after)) :
    error.fault? = none ∨
      ∃ activation between fault, engine.registry.Starts call store activation between ∧
        (engine.run activation.script activation.frame).run between = some (.error fault, after) ∧
        error = .rethrown (fault.pushFrame (engine.registry.pathOf activation)) := by
  rw [execute, Execution.run_mapError] at failed
  obtain ⟨⟨verdict, ended⟩, outcome, same⟩ := Option.map_eq_some_iff.mp failed
  cases verdict with
  | ok value => simp [Except.mapError] at same
  | error other =>
    obtain ⟨rfl, rfl⟩ : other.unwrapInvocation = error ∧ ended = after := by
      simpa [Except.mapError] using same
    rcases Registry.perform_fails outcome with
      ⟨free, _⟩ | ⟨activation, between, fault, starts, _, body, rfl⟩
    · rw [Error.unwrapInvocation_of_faultFree free]
      exact Or.inl free
    · exact Or.inr ⟨activation, between, fault, starts, body, rfl⟩

/-- The layer that the host puts around the fault of a body is taken off. -/
theorem execute_of_starts {call : Call} {activation : Activation} {store between after : Store}
    {fault : Fault} (starts : engine.registry.Starts call store activation between)
    (failed : (engine.run activation.script activation.frame).run between =
      some (.error fault, after)) :
    (engine.execute call).run store = some (.error (.rethrown
      (fault.pushFrame (engine.registry.pathOf activation))), after) := by
  rw [execute, Execution.run_mapError, Registry.run_perform_of_starts_error starts failed]
  rfl

/-- Whether an operation, begun with a store, comes to start a body, and with which store. -/
def Starts (engine : Engine) (operation : Operation) (store : Store) (activation : Activation)
    (between : Store) : Prop :=
  ∃ call asked, engine.Makes operation store call asked ∧
    engine.registry.Starts call asked activation between

/-- An operation fails as a body fails that it starts. -/
theorem operate_of_starts {operation : Operation} {activation : Activation}
    {store between after : Store} {fault : Fault}
    (starts : engine.Starts operation store activation between)
    (failed : (engine.run activation.script activation.frame).run between =
      some (.error fault, after)) :
    (engine.operate operation).run store = some (.error (.rethrown
      (fault.pushFrame (engine.registry.pathOf activation))), after) := by
  obtain ⟨call, asked, makes, begins⟩ := starts
  exact operate_of_makes makes (execute_of_starts begins failed)

/-! ## Layers around layers -/

/-- Whether a body that is started with a store passes on the error of a request, which another
engine is asked with a store of its own. -/
def PassesOn (engine inner : Engine) (activation : Activation) (between : Store)
    (request : Operation) (asked : Store) : Prop :=
  ∀ error after, (inner.operate request).run asked = some (.error error, after) →
    (engine.run activation.script activation.frame).run between =
      some (.error (Fault.ofError error), after)

/-- Whether an operation starts a body, which asks for an operation that starts a body, and so on,
until the last body fails with a fault. All bodies around it pass on what they are answered. The
bodies are listed with the outermost first. -/
inductive FailsThrough : Engine → Operation → Store → List Activation → Fault → Store → Prop
  /-- The innermost body fails by itself. -/
  | body {engine : Engine} {operation : Operation} {activation : Activation}
      {store between after : Store} {fault : Fault} :
    engine.Starts operation store activation between →
    (engine.run activation.script activation.frame).run between = some (.error fault, after) →
    FailsThrough engine operation store [activation] fault after
  /-- The innermost body is refused what it asks for, and the refusal becomes a fault. -/
  | refused {engine inner : Engine} {operation request : Operation} {activation : Activation}
      {store between asked after : Store} {error : Error} :
    engine.Starts operation store activation between →
    engine.PassesOn inner activation between request asked →
    (inner.operate request).run asked = some (.error error, after) →
    (∀ fault, error ≠ .rethrown fault) →
    FailsThrough engine operation store [activation]
      { kind := error.category, message := error.message } after
  /-- A body asks for an operation that fails in this way. -/
  | layer {engine inner : Engine} {operation request : Operation} {activation : Activation}
      {store between asked after : Store} {chain : List Activation} {fault : Fault} :
    engine.Starts operation store activation between →
    engine.PassesOn inner activation between request asked →
    FailsThrough inner request asked chain fault after → inner.registry = engine.registry →
    FailsThrough engine operation store (activation :: chain) fault after

/-- A fault that comes through layers has one frame more for each of them. -/
theorem operate_of_failsThrough {operation : Operation} {store after : Store}
    {chain : List Activation} {fault : Fault}
    (through : FailsThrough engine operation store chain fault after) :
    (engine.operate operation).run store = some (.error (.rethrown { fault with
      trace := fault.trace ++ (chain.map engine.registry.pathOf).reverse }), after) := by
  induction through with
  | body starts failed => exact operate_of_starts starts failed
  | @refused _ _ _ _ _ _ _ _ _ error starts passes failed own =>
    have becomes : Fault.ofError error = { kind := error.category, message := error.message } := by
      cases error with
      | rethrown fault => exact absurd rfl (own fault)
      | _ => rfl
    have body := passes _ _ failed
    rw [becomes] at body
    exact operate_of_starts starts body
  | layer starts passes through same inductionHypothesis =>
    rw [same] at inductionHypothesis
    rw [operate_of_starts starts (passes _ _ inductionHypothesis)]
    simp [Fault.ofError, Fault.pushFrame, List.append_assoc]

/-- No operation ends with the layer that the host puts around a fault. -/
theorem operate_not_targetInvocation {operation : Operation} {store after : Store}
    {error : Error} (failed : (engine.operate operation).run store = some (.error error, after))
    (member : String) (fault : Fault) : error ≠ .targetInvocation member fault := by
  rintro rfl
  rcases operate_fails failed with free | ⟨call, between, _, called⟩
  · simp [Error.fault?] at free
  · rcases execute_fails called with free | ⟨_, _, _, _, _, same⟩
    · simp [Error.fault?] at free
    · simp at same

/-- What the host refuses before a body runs is handed on as it is. -/
theorem operate_of_refused {operation : Operation} {store between after : Store} {call : Call}
    {error : Error} (makes : engine.Makes operation store call between)
    (refused : (engine.registry.perform engine.run call).run between =
      some (.error error, after))
    (noBody : ∀ activation, .entered activation ∉
      (engine.registry.perform engine.run call).actions between) :
    (engine.operate operation).run store = some (.error error, after) := by
  apply operate_of_makes makes
  rcases Registry.perform_fails refused with ⟨free, _⟩ | ⟨activation, _, _, _, entered, _⟩
  · rw [execute, Execution.run_mapError, refused]
    simp [Except.mapError, Error.unwrapInvocation_of_faultFree free]
  · exact absurd entered (noBody activation)

end Engine

/-! ## Bodies that pass on errors -/

/-- The operation that a request of a script is. -/
def Request.operation : Request → Operation
  | .callMethod target name arguments => .invokeMethod (some target) name arguments
  | .callStatic type name arguments => .invokeStatic type name arguments
  | .construct type arguments => .construct type arguments
  | .raise target event arguments => .raiseEvent (some target) event arguments

namespace Engine

variable {registry : Registry} {depth : Nat} {flags others : BindingFlags}
  {activation : Activation} {between asked : Store}

/-- A request of a script fails as the operation does that it stands for. -/
theorem run_answer_of_operate {engine : Engine} {request : Request} {after : Store}
    {error : Error}
    (failed : (engine.operate request.operation).run asked = some (.error error, after)) :
    (engine.answer request).run asked = some (.error error, after) := by
  cases request with
  | callMethod target name arguments => exact Execution.run_map_eq_error_iff.mp failed
  | callStatic type name arguments => exact Execution.run_map_eq_error_iff.mp failed
  | construct type arguments => exact Execution.run_map_eq_error_iff.mp failed
  | raise target event arguments =>
    exact Execution.run_map_eq_error_iff.mpr (Execution.run_map_eq_error_iff.mp failed)

/-- A script passes on the error of every request that it comes to. -/
theorem passesOn_of_script {request : Request}
    (comes : Script.Comes registry (answer { registry, run := registry.interpreter depth })
      activation.frame activation.script between request asked) :
    PassesOn { registry, flags, run := registry.interpreter (depth + 1) }
      { registry, run := registry.interpreter depth } activation between request.operation
      asked :=
  fun _ _ failed => Script.evaluate_of_comes comes (run_answer_of_operate failed)

/-- A program passes on the error of an operation if it ends with it. -/
theorem passesOn_of_program {bodies : Script → Frame → Program Fault Value} {request : Operation}
    (comes : Program.Comes registry (registry.programInterpreter bodies depth)
      (bodies activation.script activation.frame) between others request asked) :
    PassesOn { registry, flags, run := registry.programInterpreter bodies (depth + 1) }
      { registry, flags := others, run := registry.programInterpreter bodies depth } activation
      between request asked :=
  fun _ _ failed => Program.execute_of_comes comes failed

/-! ## All layers together -/

/-- A fault crosses any number of layers with its kind and message, and gains one frame for each
body it leaves, the innermost first. No operation ends with the layer that the host puts around a
fault, and what the host refuses before a body runs reaches the caller as it is. This holds of
every operation and for all flags, whatever bodies are: constructors, methods, accessors or
handlers of events. -/
theorem faults_cross_layers :
    (∀ (engine : Engine) (operation : Operation) (store : Store) (chain : List Activation)
      (fault : Fault) (after : Store), FailsThrough engine operation store chain fault after →
        (engine.operate operation).run store = some (.error (.rethrown
          { kind := fault.kind, message := fault.message
            trace := fault.trace ++ (chain.map engine.registry.pathOf).reverse }), after)) ∧
    (∀ (engine : Engine) (operation : Operation) (store after : Store) (member : String)
      (fault : Fault), (engine.operate operation).run store ≠
        some (.error (.targetInvocation member fault), after)) ∧
    ∀ (engine : Engine) (operation : Operation) (store : Store) (call : Call) (between : Store)
      (error : Error) (after : Store), engine.Makes operation store call between →
      (engine.registry.perform engine.run call).run between = some (.error error, after) →
      (∀ activation, .entered activation ∉
        (engine.registry.perform engine.run call).actions between) →
        (engine.operate operation).run store = some (.error error, after) := by
  refine ⟨?_, ?_, ?_⟩
  · intro engine operation store chain fault after through
    exact operate_of_failsThrough through
  · intro engine operation store after member fault failed
    exact operate_not_targetInvocation failed member fault rfl
  · intro engine operation store call between error after makes refused noBody
    exact operate_of_refused makes refused noBody

/-- Runners who tell when they pass, and races that make the runner pass. -/
def races : Registry := .ofDefinitions
  [{ name := "Runner", kind := .classType
     declarations :=
       [{ name := "pass", kind := .method, body := .native (.raise .target "passed" []) },
        { name := "fall", kind := .method, body := .native (.fault "Fell" "over the line") }] ++
          Declaration.event "passed" },
   { name := "Race", kind := .classType
     declarations := [{ name := "new", kind := .constructor, parameters := [.named ⟨0⟩ []]
                        body := .native (.callMethod (.argument 0) "pass" []) }] }]

/-- The bodies of races as programs, which pass on the errors that they are answered with. -/
def relays : Script → Frame → Program Fault Value
  | .fault kind message, _ => .done (.error { kind, message })
  | .raise .target event [], frame => .operate .all (.raiseEvent frame.target event []) relayed
  | .callMethod (.argument position) name [], frame =>
    .operate .all (.invokeMethod frame.arguments[position]? name []) relayed
  | _, _ => .done (.ok .unit)
where
  /-- End as the operation ended. -/
  relayed (verdict : Except Error Answer) : Program Fault Value :=
    .done ((verdict.map fun _ => .unit).mapError Fault.ofError)

/-- A race makes the runner pass, and the handler of this event falls. The fault has left the
handler, the method and the constructor, whether these are scripts or programs. A race without a
runner is refused. -/
theorem races_fall_traced :
    let runner : ObjectRef := ⟨0, .named ⟨0⟩ []⟩
    let fall : Member := { name := "fall", kind := .method, id := ⟨⟨0⟩, 1⟩, declaring := runner.type
                           body := .native (.fault "Fell" "over the line") }
    let create : Member := { name := "new", kind := .constructor, parameters := [runner.type]
                             body := .native (.callMethod (.argument 0) "pass" [])
                             id := ⟨⟨1⟩, 0⟩, declaring := .named ⟨1⟩ [] }
    let slots : Slots := ⟨[("passed", .delegate [.mk (some (.object runner)) fall])]⟩
    let store : Store := { objects := [⟨runner.type, slots⟩] }
    let fallen : Error := .rethrown { kind := "Fell", message := "over the line"
                                      trace := ["Runner.fall", "Runner.pass", "Race.new"] }
    let between : Store := (store.allocate (.named ⟨1⟩ []) (races.fieldSlots (.named ⟨1⟩ []))).2
    let race : Engine := { registry := races, run := races.interpreter 3 }
    let relay : Engine := { registry := races, run := races.programInterpreter relays 3 }
    (race.operate (.construct (.named ⟨1⟩ []) [.object runner])).run store =
      some (.error fallen, between) ∧
    (relay.operate (.construct (.named ⟨1⟩ []) [.object runner])).run store =
      some (.error fallen, between) ∧
    (race.operate (.invoke create none [])).run store =
      some (.error (.argumentCount "Race.new" 1 0), store) := by
  intro runner fall create slots store fallen between race relay
  let pass : Member := { name := "pass", kind := .method, id := ⟨⟨0⟩, 0⟩, declaring := runner.type
                         body := .native (.raise .target "passed" []) }
  let newRace : Activation := ⟨.constructor, .callMethod (.argument 0) "pass" [],
    ⟨create, some (.object ⟨1, .named ⟨1⟩ []⟩), [.object runner]⟩⟩
  let passing : Activation := ⟨.method, .raise .target "passed" [],
    ⟨pass, some (.object runner), []⟩⟩
  let falling : Activation := ⟨.method, .fault "Fell" "over the line",
    ⟨fall, some (.object runner), []⟩⟩
  let fault : Fault := { kind := "Fell", message := "over the line" }
  let backing : Member := { name := "passed", kind := .field, type := .delegate
                            visibility := .privateAccess, id := ⟨⟨0⟩, 2⟩, declaring := runner.type }
  -- which bodies are started does not depend on what runs them
  have through : ∀ first second third : Interpreter,
      (first falling.script falling.frame).run between = some (.error fault, between) →
      PassesOn { registry := races, run := second } { registry := races, run := first } passing
        between (.raiseEvent (some (.object runner)) "passed" []) between →
      PassesOn { registry := races, run := third } { registry := races, run := second } newRace
        between (.invokeMethod (some (.object runner)) "pass" []) between →
      FailsThrough { registry := races, run := third }
        (.construct (.named ⟨1⟩ []) [.object runner]) store [newRace, passing, falling] fault
        between := by
    intro first second third falls passes calls
    let inner : Engine := { registry := races, run := first }
    let outer : Engine := { registry := races, run := second }
    let outermost : Engine := { registry := races, run := third }
    have found : (inner.subscribers backing (.object runner)).run between =
        some (.ok (some ([] ++ .mk (some (.object runner)) fall :: [])), between) := rfl
    have startsFalling : inner.Starts (.raiseEvent (some (.object runner)) "passed" []) between
        falling between := ⟨_, _, .handler rfl found rfl rfl, .method rfl rfl rfl rfl⟩
    have called : outer.call (.invokeMethod (some (.object runner)) "pass" []) =
        .ok (.invoke pass (some (.object runner)) []) := rfl
    have startsPassing : outer.Starts (.invokeMethod (some (.object runner)) "pass" []) between
        passing between := ⟨_, _, .first called, .method rfl rfl rfl rfl⟩
    have created : outermost.call (.construct (.named ⟨1⟩ []) [.object runner]) =
        .ok (.construct create [.object runner]) := rfl
    have startsRace : outermost.Starts (.construct (.named ⟨1⟩ []) [.object runner]) store
        newRace between := ⟨_, _, .first created, .constructor rfl rfl rfl rfl⟩
    have innermost : inner.FailsThrough (.raiseEvent (some (.object runner)) "passed" []) between
        [falling] fault between := .body startsFalling falls
    exact .layer startsRace calls (.layer startsPassing passes innermost rfl) rfl
  have scripted : FailsThrough race (.construct (.named ⟨1⟩ []) [.object runner]) store
      [newRace, passing, falling] fault between := by
    have raises : Script.Comes races (answer { registry := races, run := races.interpreter 1 })
        passing.frame passing.script between (.raise (.object runner) "passed" []) between :=
      .asks rfl rfl
    have calls : Script.Comes races (answer { registry := races, run := races.interpreter 2 })
        newRace.frame newRace.script between (.callMethod (.object runner) "pass" []) between :=
      .asks rfl rfl
    exact through _ _ _ rfl (passesOn_of_script raises) (passesOn_of_script calls)
  have relayed : FailsThrough relay (.construct (.named ⟨1⟩ []) [.object runner]) store
      [newRace, passing, falling] fault between := by
    have raises : Program.Comes races (races.programInterpreter relays 1)
        (relays passing.script passing.frame) between .all
        (.raiseEvent (some (.object runner)) "passed" []) between := .asks fun _ => rfl
    have calls : Program.Comes races (races.programInterpreter relays 2)
        (relays newRace.script newRace.frame) between .all
        (.invokeMethod (some (.object runner)) "pass" []) between := .asks fun _ => rfl
    exact through _ _ _ rfl (passesOn_of_program raises) (passesOn_of_program calls)
  have refused : (races.perform race.run (.construct create [])).run store =
      some (.error (.argumentCount "Race.new" 1 0), store) := rfl
  obtain ⟨crosses, -, unchanged⟩ := faults_cross_layers
  refine ⟨crosses race _ store _ _ between scripted, crosses relay _ store _ _ between relayed, ?_⟩
  exact unchanged race _ store _ store _ store (.first rfl) refused fun _ => List.not_mem_nil

end Engine

end LateBinding
