import LateBinding.Proofs.Checks
import LateBinding.Proofs.Operations

/-!
# Failures without a fault

Only a body brings a fault into the world. The checks of the host, the choice of a member, the
closing of a descriptor and the reading of an answer in a shape all give a verdict without running
anything, and the error they give carries no fault. So the layer that is taken off the fault of a
body is never found on such an error: it reaches the caller as it was made.
-/
namespace LateBinding

/-- Whether an error that a verdict may be carries no fault. -/
def FaultFree {α : Type} (verdict : Except Error α) : Prop :=
  ∀ error, verdict = .error error → error.fault? = none

/-- An error without a fault has no layer to take off. -/
theorem Error.unwrapInvocation_of_faultFree {error : Error} (free : error.fault? = none) :
    error.unwrapInvocation = error := by
  cases error with
  | targetInvocation member fault => simp [fault?] at free
  | _ => rfl

section FaultFree

variable {α β : Type}

/-- A verdict that is no error carries no fault. -/
theorem faultFree_ok (value : α) : FaultFree (.ok value : Except Error α) := by
  intro error same
  simp at same

/-- An error without a fault is all that has to be shown of a refusal. -/
theorem faultFree_error {error : Error} (free : error.fault? = none) :
    FaultFree (.error error : Except Error α) := by
  intro other same
  exact Except.error.inj same ▸ free

/-- Checks in a row carry no fault when none of them does: the first that fails gives the error. -/
theorem FaultFree.bind {first : Except Error α} {next : α → Except Error β}
    (head : FaultFree first) (tail : ∀ value, FaultFree (next value)) :
    FaultFree (first >>= next) := by
  cases first with
  | error error => exact faultFree_error (head error rfl)
  | ok value => exact tail value

end FaultFree

namespace Registry

variable {registry : Registry}

/-! ## Checks of the host -/

/-- A member with open parameters is refused with an error of the host. -/
theorem checkClosed_faultFree (member : Member) : FaultFree (registry.checkClosed member) := by
  rw [checkClosed]
  split
  · exact faultFree_error rfl
  · exact faultFree_ok ()

/-- A value that a place does not admit is refused with a failed cast. -/
theorem checkValue_faultFree (declared : Ty) (value : Value) :
    FaultFree (registry.checkValue declared value) := by
  rw [checkValue]
  split
  · exact faultFree_ok ()
  · exact faultFree_error rfl

/-- Of several values the first that is not admitted is refused. The induction follows the two lists
in step, as the check does. -/
theorem checkValues_faultFree (declared : List Ty) (values : List Value) :
    FaultFree (registry.checkValues declared values) := by
  induction declared generalizing values with
  | nil => exact faultFree_ok ()
  | cons type rest inductionHypothesis =>
    cases values with
    | nil => exact faultFree_ok ()
    | cons value others =>
      exact (checkValue_faultFree type value).bind fun _ => inductionHypothesis others

/-- A wrong number of arguments is refused, and so is an argument that is not admitted. -/
theorem checkArguments_faultFree (member : Member) (arguments : List Value) :
    FaultFree (registry.checkArguments member arguments) := by
  rw [checkArguments]
  split
  · exact checkValues_faultFree _ _
  · exact faultFree_error rfl

/-- A receiver is refused that is missing, null or no instance of the declaring type. -/
theorem checkTarget_faultFree (member : Member) (target : Option Value) :
    FaultFree (registry.checkTarget member target) := by
  rw [checkTarget]
  split
  · exact faultFree_ok none
  · split
    · exact faultFree_error rfl
    · split
      · exact faultFree_ok _
      · exact faultFree_error rfl

/-! ## The choice of a member -/

/-- A wrong number of type arguments is refused. -/
theorem closeType_faultFree (id : DefinitionId) (arguments : List Ty) :
    FaultFree (registry.closeType id arguments) := by
  rw [closeType]
  split
  · exact faultFree_ok _
  · exact faultFree_error rfl

/-- A wrong number of arguments for a method's own parameters is refused. -/
theorem closeMethod_faultFree (member : Member) (arguments : List Ty) :
    FaultFree (registry.closeMethod member arguments) := by
  rw [closeMethod]
  split
  · exact faultFree_ok _
  · exact faultFree_error rfl

/-- A member that is not found again on the closed type is reported as missing, without a fault. -/
theorem reopen_faultFree (member : Member) (matched : Match) :
    FaultFree (registry.reopen member matched) := by
  rw [reopen]
  split
  · exact faultFree_error rfl
  · refine (closeType_faultFree _ _).bind fun type => ?_
    split
    · exact faultFree_ok _
    · exact faultFree_error rfl

/-- Closing fails in one of its two steps, the look-up on the closed type or the method's own
parameters. -/
theorem close_faultFree (member : Member) (matched : Match) :
    FaultFree (registry.close member matched) := by
  have last (closed : Member) : FaultFree (if closed.hasOpenMethodParameters then
      registry.closeMethod closed matched.methodArguments else pure closed) := by
    split
    · exact closeMethod_faultFree _ _
    · exact faultFree_ok closed
  rw [close]
  split
  · exact (reopen_faultFree member matched).bind last
  · exact (faultFree_ok member).bind last

/-- A call site that no candidate fits is reported by its type and its name, and nothing was run to
find that out. -/
theorem resolveMember_faultFree (flags : BindingFlags) (site : CallSite) :
    FaultFree (registry.resolveMember flags site) := by
  rw [resolveMember]
  split
  · exact (close_faultFree _ _).bind fun _ => faultFree_ok _
  · refine faultFree_error ?_
    rw [noMatchError]
    split <;> rfl

end Registry

namespace Engine

variable {engine : Engine}

/-- A missing target is reported before anything is looked up on it. -/
theorem requireTarget_faultFree (target : Option Value) : FaultFree (requireTarget target) := by
  rw [requireTarget]
  split
  · exact faultFree_ok _
  · exact faultFree_error rfl

/-- An empty name is reported before anything is looked up by it. -/
theorem requireName_faultFree (name : String) : FaultFree (requireName name) := by
  rw [requireName]
  split
  · exact faultFree_error rfl
  · exact faultFree_ok ()

/-- A member that needs a receiver is refused without one, before it is closed. -/
theorem requireReceiver_faultFree (member : Member) (target : Option Value) :
    FaultFree (engine.requireReceiver member target) := by
  rw [requireReceiver]
  split
  · exact faultFree_ok ()
  · exact faultFree_error rfl

/-- A descriptor that does not unify with its use is refused, as is one that cannot be closed. -/
theorem closeFor_faultFree (member : Member) (target : Option Value) (arguments : List Value)
    (expectation : Expectation) :
    FaultFree (engine.closeFor member target arguments expectation) := by
  rw [closeFor]
  split
  · split
    · exact Registry.close_faultFree _ _
    · exact faultFree_error rfl
  · exact faultFree_ok _

/-- A field that is not there is reported as missing. -/
theorem field_faultFree (target : Value) (name : String) :
    FaultFree (engine.field target name) := by
  rw [field]
  split
  · exact faultFree_ok _
  · exact faultFree_error rfl

/-- An event that is not there is reported as missing, and so is the field that should hold its
handlers. -/
theorem eventField_faultFree (target : Value) (name : String) :
    FaultFree (engine.eventField target name) := by
  rw [eventField]
  split
  · exact faultFree_error rfl
  · split
    · split
      · exact faultFree_ok _
      · exact faultFree_error rfl
    · exact faultFree_error rfl

/-- The field of an event is looked up once the target and the name are known to be given; none of
the three steps runs a body. -/
theorem eventPlace_faultFree (target : Option Value) (name : String) :
    FaultFree (engine.eventPlace target name) :=
  (requireTarget_faultFree target).bind fun receiver => (requireName_faultFree name).bind fun _ =>
    (eventField_faultFree receiver name).bind fun _ => faultFree_ok _

/-! ## The choice of a call -/

/-- A construction is refused where no constructor fits or the one that fits cannot be closed. -/
theorem constructCall_faultFree (type : Ty) (arguments : List Value) :
    FaultFree (engine.constructCall type arguments) := by
  rw [constructCall]
  split
  · exact faultFree_error rfl
  · exact (Registry.close_faultFree _ _).bind fun _ => faultFree_ok _

/-- A reading is refused for its receiver or for the indices. -/
theorem getCall_faultFree (member : Member) (target : Option Value) (indices : List Value)
    (expected : Option Ty) : FaultFree (engine.getCall member target indices expected) :=
  (requireReceiver_faultFree member target).bind fun _ =>
    (closeFor_faultFree member target indices _).bind fun _ => faultFree_ok _

/-- A writing is refused for its receiver, for the indices or for the value. -/
theorem setCall_faultFree (member : Member) (target : Option Value) (value : Value)
    (indices : List Value) : FaultFree (engine.setCall member target value indices) :=
  (requireReceiver_faultFree member target).bind fun _ =>
    (closeFor_faultFree member target indices _).bind fun _ => faultFree_ok _

/-- A call by descriptor is refused for its receiver or for the arguments. -/
theorem invokeCall_faultFree (member : Member) (target : Option Value) (arguments : List Value)
    (expected : Option Ty) : FaultFree (engine.invokeCall member target arguments expected) :=
  (requireReceiver_faultFree member target).bind fun _ =>
    (closeFor_faultFree member target arguments _).bind fun _ => faultFree_ok _

/-- A call by name is refused for its target, for the name or because nothing fits. -/
theorem invokeMethodCall_faultFree (target : Option Value) (name : String)
    (arguments : List Value) (expected : Option Ty) :
    FaultFree (engine.invokeMethodCall target name arguments expected) :=
  (requireTarget_faultFree target).bind fun _ => (requireName_faultFree name).bind fun _ =>
    (Registry.resolveMember_faultFree _ _).bind fun _ => faultFree_ok _

/-- A static call by name has no target that could be refused. -/
theorem invokeStaticCall_faultFree (type : Ty) (name : String) (arguments : List Value) :
    FaultFree (engine.invokeStaticCall type name arguments) :=
  (requireName_faultFree name).bind fun _ =>
    (Registry.resolveMember_faultFree _ _).bind fun _ => faultFree_ok _

/-- An operation that cannot choose a call fails without a fault. -/
theorem call_faultFree (operation : Operation) : FaultFree (engine.call operation) := by
  cases operation with
  | construct type arguments => exact constructCall_faultFree _ _
  | constructAs shape type arguments => exact constructCall_faultFree _ _
  | createDefault type => exact constructCall_faultFree _ _
  | getValue member target indices => exact getCall_faultFree _ _ _ _
  | getValueAs shape member target indices => exact getCall_faultFree _ _ _ _
  | setValue member target value indices => exact setCall_faultFree _ _ _ _
  | getFieldAs shape target name =>
    refine (requireTarget_faultFree target).bind fun receiver => ?_
    refine (requireName_faultFree name).bind fun _ => ?_
    refine (field_faultFree receiver name).bind fun field => ?_
    exact getCall_faultFree field (some receiver) [] none
  | setField target name value =>
    refine (requireTarget_faultFree target).bind fun receiver => ?_
    refine (requireName_faultFree name).bind fun _ => ?_
    refine (field_faultFree receiver name).bind fun field => ?_
    exact setCall_faultFree field (some receiver) value []
  | invoke member target arguments => exact invokeCall_faultFree _ _ _ _
  | invokeAs shape member target arguments => exact invokeCall_faultFree _ _ _ _
  | invokeMethod target name arguments => exact invokeMethodCall_faultFree _ _ _ _
  | invokeMethodAs shape target name arguments => exact invokeMethodCall_faultFree _ _ _ _
  | invokeStatic type name arguments => exact invokeStaticCall_faultFree _ _ _
  | raiseEvent target name arguments =>
    exact (eventPlace_faultFree target name).bind fun _ => faultFree_ok _
  | subscribe target name handler =>
    exact (eventPlace_faultFree target name).bind fun _ => faultFree_ok _
  | unsubscribe target name handler =>
    exact (eventPlace_faultFree target name).bind fun _ => faultFree_ok _

/-- An answer of another shape is reported as a failed cast, after the body has returned. -/
theorem readAs_faultFree (shape : ResultShape) (value : Value) :
    FaultFree (engine.readAs shape value) := by
  rw [readAs]
  split
  · exact faultFree_ok _
  · exact faultFree_error rfl

/-- Reading an answer fails only for its shape, without a fault. -/
theorem read_faultFree (operation : Operation) (value : Value) :
    FaultFree (engine.read operation value) := by
  unfold read
  split
  any_goals exact faultFree_ok _
  all_goals exact (readAs_faultFree _ _).bind fun _ => faultFree_ok _

end Engine

end LateBinding
