import LateBinding.Proofs.LaterDeclarations
import LateBinding.Proofs.Completeness
import LateBinding.Proofs.Acceptance
import LateBinding.Proofs.Operations

/-!
# The nearest of like methods

A class that declares a method like one of its base class means to replace it. No table of methods
says so: both are candidates, and the call goes to the first that fits. It goes to the nearer
method all the same. The candidates come in the order of the classes, and two methods that take and
return the same types fit the same call sites, for the only thing that tells them apart in a match,
the declaring type, is one that the receiver is assignable to.
-/
namespace LateBinding

namespace Registry

/-- Whether one instance method of a type covers another: they have the same parameter types and the
same result type and no parameters of their own, and the class of the first comes before the class
of the second on the way up from the type. -/
structure Covers (registry : Registry) (type : Ty) (nearer farther : Member) : Prop where
  before : [nearer.declaring, farther.declaring].Sublist (registry.baseChain type)
  parameters : nearer.parameters = farther.parameters
  result : nearer.type = farther.type
  nearerPlain : nearer.generics = []
  fartherPlain : farther.generics = []
  nearerInstance : nearer.isStatic = false
  fartherInstance : farther.isStatic = false

variable {registry : Registry}

/-! ## The order of candidates -/

/-- The candidates before the one that is selected do not unify. -/
theorem selectFirst_eq_ok_split {site : CallSite} {members : List Member} {selected : Selected}
    (found : registry.selectFirst site members = .ok selected) :
    ∃ front behind, members = front ++ selected.candidate :: behind ∧
      ∀ member ∈ front, ∃ failure,
        registry.unify member site.receiver site.arguments site.expected = .error failure := by
  induction members with
  | nil => simp [selectFirst] at found
  | cons first rest inductionHypothesis =>
    rw [selectFirst] at found
    cases unified : registry.unify first site.receiver site.arguments site.expected with
    | ok matched =>
      obtain rfl : (⟨first, matched⟩ : Selected) = selected := by simpa [unified] using found
      exact ⟨[], rest, rfl, by simp⟩
    | error failure =>
      cases later : registry.selectFirst site rest with
      | error rejected => simp [unified, later] at found
      | ok other =>
        obtain rfl : other = selected := by simpa [unified, later] using found
        obtain ⟨front, behind, rfl, refused⟩ := inductionHypothesis later
        exact ⟨first :: front, behind, rfl,
          List.forall_mem_cons.mpr ⟨⟨failure, unified⟩, refused⟩⟩

/-- If a candidate unifies, one is selected. -/
theorem exists_selected (site : CallSite) {members : List Member} {member : Member}
    (listed : member ∈ members) {matched : Match}
    (fits : registry.unify member site.receiver site.arguments site.expected = .ok matched) :
    ∃ selected, registry.selectFirst site members = .ok selected := by
  induction members with
  | nil => simp at listed
  | cons first rest inductionHypothesis =>
    rw [selectFirst]
    cases unified : registry.unify first site.receiver site.arguments site.expected with
    | ok found => exact ⟨_, rfl⟩
    | error failure =>
      have further : member ∈ rest := by
        rcases List.mem_cons.mp listed with rfl | further
        · simp [fits] at unified
        · exact further
      obtain ⟨selected, later⟩ := inductionHypothesis further
      exact ⟨selected, by simp [later]⟩

/-- What is gathered along a chain comes in the order of the chain. -/
theorem pairwise_gather {order : Ty → Ty → Prop} {asks : Ty → Member → Bool} {types : List Ty}
    (ordered : types.Pairwise order) :
    (registry.gather asks types).Pairwise fun first second =>
      first.declaring = second.declaring ∨ order first.declaring second.declaring := by
  induction types with
  | nil => exact .nil
  | cons type rest inductionHypothesis =>
    obtain ⟨first, later⟩ := List.pairwise_cons.mp ordered
    have own : ∀ member ∈ (registry.declaredMembers type).filter (asks type),
        member.declaring = type :=
      fun member listed => (declared_facts (List.mem_filter.mp listed).1).1
    rw [gather_cons, List.pairwise_append]
    refine ⟨List.pairwise_of_forall_mem_list fun left leftOwn right rightOwn => ?_,
      inductionHypothesis later, fun left leftOwn right further => ?_⟩
    · exact Or.inl ((own left leftOwn).trans (own right rightOwn).symm)
    · exact Or.inr (own left leftOwn ▸ first _ (mem_gather further))

/-- A closed method without parameters of its own leaves nothing to be found. -/
theorem wantedParameters_of_plain {member : Member} (closed : member.declaring.isOpen = false)
    (plain : member.generics = []) : member.wantedParameters = [] := by
  rw [Member.wantedParameters, Ty.parameters, (Ty.isOpen_eq_false_iff _).mp closed]
  simp [Member.wantedMethodParameters, Member.hasOpenMethodParameters, plain]

namespace WellFormed

variable (sound : registry.WellFormed)
include sound

/-- The candidates of a type come in the order of its base classes. -/
theorem candidates_descend (flags : BindingFlags) (type : Ty) (name : String) (kind : MemberKind) :
    (registry.candidates flags type name kind).Pairwise fun first second =>
      first.declaring = second.declaring ∨
        registry.elevation second.declaring < registry.elevation first.declaring := by
  obtain ⟨bases, chain, unrepeated⟩ := sound.exists_bases type
  rw [candidates_eq_gather chain unrepeated]
  exact pairwise_gather (sound.baseChain_descends type)

/-- Candidates with one identity are the same. -/
theorem candidate_eq_of_id_eq {flags : BindingFlags} {type : Ty} {name : String}
    {kind : MemberKind} {left right : Member}
    (leftListed : left ∈ registry.candidates flags type name kind)
    (rightListed : right ∈ registry.candidates flags type name kind) (same : left.id = right.id) :
    left = right := by
  obtain ⟨bases, chain, unrepeated⟩ := sound.exists_bases type
  rw [candidates_eq_gather chain unrepeated] at leftListed rightListed
  have leftDeclared := declared_of_mem_gather leftListed
  have rightDeclared := declared_of_mem_gather rightListed
  exact sound.declared_eq_of_id_eq (mem_gather leftListed) (mem_gather rightListed) leftDeclared
    rightDeclared same

/-- Where a method fits that is inherited by a closed receiver, a method that covers it fits. -/
theorem covers_unify {type : Ty} (applied : registry.wellApplied type = true)
    (closed : type.isOpen = false) {nearer farther : Member}
    (covers : registry.Covers type nearer farther) (nearerKind : nearer.kind = .method)
    (fartherKind : farther.kind = .method) {arguments : List (Option Ty)} {expected : Option Ty}
    {matched : Match}
    (fits : registry.unify farther (some type) arguments expected = .ok matched) :
    ∃ other, registry.unify nearer (some type) arguments expected = .ok other := by
  have nearerReached := reaches_of_mem_basesWithin _ (covers.before.subset List.mem_cons_self)
  have fartherReached := reaches_of_mem_basesWithin _
    (covers.before.subset (List.mem_cons_of_mem _ List.mem_cons_self))
  have nearerClosed := sound.isOpen_of_reaches applied closed nearerReached
  have fartherClosed := sound.isOpen_of_reaches applied closed fartherReached
  have wanted : nearer.wantedParameters = farther.wantedParameters := by
    rw [wantedParameters_of_plain nearerClosed covers.nearerPlain,
      wantedParameters_of_plain fartherClosed covers.fartherPlain]
  have valued : nearer.hasValueFor = farther.hasValueFor := by
    funext expectation
    rw [Member.hasValueFor, nearerKind, Member.hasValueFor, fartherKind]
  obtain ⟨count, received, expects, bindings, answers, first, second, third, unbound, passes, -⟩ :=
    unifyWith_eq_ok.mp fits
  obtain ⟨answer, receives⟩ : ∃ answer, registry.matchType false farther.declaring type
      (.seedAll .empty farther.wantedParameters) = (.ok answer, received) := by
    simpa [covers.fartherInstance, fartherKind] using matchReceiver_eq_ok.mp first
  obtain ⟨rfl, -, -⟩ := matchType_closed_eq_ok fartherClosed receives
  have nearerFirst : registry.matchReceiver nearer (some type)
      (.seedAll .empty nearer.wantedParameters) =
        .ok (.seedAll .empty farther.wantedParameters) := by
    have admitted := sound.isAssignable_of_reaches nearerReached
    have called : nearer.kind ≠ .constructor := by simp [nearerKind]
    rw [wanted]
    exact matchReceiver_eq_ok.mpr (Or.inr ⟨type, _, rfl, covers.nearerInstance, called,
      matchType_of_closed nearerClosed admitted _⟩)
  have nearerSecond : registry.matchResult nearer (.ofResult expected) arguments.length
      (.seedAll .empty farther.wantedParameters) = .ok expects := by
    rw [← second]
    unfold matchResult
    rw [valued, covers.result]
  have nearerPasses : ∀ entry ∈ deferredNulls nearer arguments (.ofResult expected),
      registry.isValueType (entry.2.replace bindings.all) = false := by
    rw [deferredNulls, valued, covers.result, covers.parameters]
    exact passes
  exact ⟨_, unifyWith_eq_ok.mpr ⟨covers.parameters ▸ count, _, expects, bindings, answers,
    nearerFirst, nearerSecond, covers.parameters ▸ third, unbound, nearerPasses, rfl⟩⟩

/-- So a method that is covered by another candidate is never selected. -/
theorem resolve_ne_of_covers {flags : BindingFlags} {site : CallSite}
    (applied : registry.wellApplied site.type = true) (closed : site.type.isOpen = false)
    (called : site.kind = .method) (received : site.receiver = some site.type)
    {nearer farther : Member}
    (nearerListed : nearer ∈ registry.candidates flags site.type site.name .method)
    (fartherListed : farther ∈ registry.candidates flags site.type site.name .method)
    (covers : registry.Covers site.type nearer farther) {selected : Selected}
    (found : registry.resolve flags site = .ok selected) :
    selected.candidate.id ≠ farther.id := by
  intro same
  obtain ⟨listed, fits⟩ := resolve_eq_ok found
  obtain ⟨front, behind, split, refused⟩ := selectFirst_eq_ok_split (resolve_eq_ok_iff.mp found)
  have order := sound.candidates_descend flags site.type site.name .method
  rw [called] at listed split
  rw [sound.candidate_eq_of_id_eq listed fartherListed same] at fits split
  rw [received] at fits refused
  have further : registry.elevation farther.declaring < registry.elevation nearer.declaring := by
    simpa using (sound.baseChain_descends site.type).sublist covers.before
  obtain ⟨other, fitsToo⟩ := sound.covers_unify applied closed covers
    (mem_candidates nearerListed).2.1 (mem_candidates fartherListed).2.1 fits
  rw [split, List.pairwise_append, List.pairwise_cons] at order
  rw [split] at nearerListed
  -- in front of the selected candidate the nearer one would have been selected itself, and behind
  -- it the order of the classes would be the other way round
  rcases List.mem_append.mp nearerListed with inFront | here
  · obtain ⟨failure, fails⟩ := refused nearer inFront
    simp [fitsToo] at fails
  · rcases List.mem_cons.mp here with rfl | inBack
    · exact Nat.lt_irrefl _ further
    · rcases order.2.1.1 nearer inBack with level | lower
      · exact Nat.lt_irrefl _ (level ▸ further)
      · exact Nat.lt_irrefl _ (lower.trans further)

/-- On a closed type closing keeps the identity of a candidate. -/
theorem close_id_of_closed {type : Ty} (applied : registry.wellApplied type = true)
    (closed : type.isOpen = false) {flags : BindingFlags} {name : String} {kind : MemberKind}
    {candidate member : Member} (listed : candidate ∈ registry.candidates flags type name kind)
    {matched : Match} (closing : registry.close candidate matched = .ok member) :
    member.id = candidate.id := by
  obtain ⟨-, -, seen, reached, declared⟩ := mem_candidates listed
  rw [close, (declared_facts declared).1, sound.isOpen_of_reaches applied closed reached,
    if_neg Bool.false_ne_true, pure_bind] at closing
  exact (closeMethod_step_keeps closing).1

end WellFormed

end Registry

namespace Engine

section Calling

variable {engine : Engine} (sound : engine.registry.WellFormed)
include sound

omit sound in
/-- The call of a method by name is that of the member that is resolved on the receiver's type. -/
theorem invokeMethodCall_eq_ok {target : Value} {type : Ty} (typed : target.type? = some type)
    {name : String} {arguments : List Value} {expected : Option Ty} {call : Call}
    (chosen : engine.invokeMethodCall (some target) name arguments expected = .ok call) :
    ∃ resolved, engine.registry.resolveMember engine.flags
        ⟨type, name, .method, some type, argumentTypes arguments, expected⟩ = .ok resolved ∧
      .invoke resolved.member (some target) arguments = call := by
  obtain ⟨receiver, required, named⟩ := bind_eq_ok.mp chosen
  obtain ⟨-, -, resolves⟩ := bind_eq_ok.mp named
  obtain ⟨resolved, found, called⟩ := bind_eq_ok.mp resolves
  obtain rfl := Option.some.inj (requireTarget_eq_ok required).1
  rw [typed] at found
  exact ⟨resolved, found, Except.ok.inj called⟩

/-- Of two like instance methods of a closed type the nearer one is called. No call site for the
type selects the farther one, whatever the arguments and the expected result type are, although
something is selected wherever the farther one fits. A call by name on an object of the type fails
without running a method, or runs another one than that. -/
theorem nearest_method_called {type : Ty} (applied : engine.registry.wellApplied type = true)
    (closed : type.isOpen = false) {name : String} {nearer farther : Member}
    (nearerListed : nearer ∈ engine.registry.candidates engine.flags type name .method)
    (fartherListed : farther ∈ engine.registry.candidates engine.flags type name .method)
    (covers : engine.registry.Covers type nearer farther) :
    (∀ arguments expected,
      (∀ selected, engine.registry.resolve engine.flags
          ⟨type, name, .method, some type, arguments, expected⟩ = .ok selected →
        selected.candidate.id ≠ farther.id) ∧
      ∀ matched, engine.registry.unify farther (some type) arguments expected = .ok matched →
        ∃ selected, engine.registry.resolve engine.flags
          ⟨type, name, .method, some type, arguments, expected⟩ = .ok selected) ∧
    ∀ (target : Value) (arguments : List Value) (expected : Option Ty),
      target.type? = some type →
        (∃ error,
          engine.invokeMethodExpecting (some target) name arguments expected = .fail error) ∨
        ∃ member, member.id ≠ farther.id ∧
          engine.invokeMethodExpecting (some target) name arguments expected =
            engine.execute (.invoke member (some target) arguments) := by
  have never : ∀ arguments expected selected,
      engine.registry.resolve engine.flags
          ⟨type, name, .method, some type, arguments, expected⟩ = .ok selected →
        selected.candidate.id ≠ farther.id :=
    fun arguments expected selected found =>
      sound.resolve_ne_of_covers applied closed rfl rfl nearerListed fartherListed covers found
  refine ⟨fun arguments expected => ⟨never arguments expected, fun matched fits => ?_⟩,
    fun target arguments expected typed => ?_⟩
  · obtain ⟨selected, found⟩ := Registry.exists_selected
      ⟨type, name, .method, some type, arguments, expected⟩ fartherListed fits
    exact ⟨selected, Registry.resolve_eq_ok_iff.mpr found⟩
  · rw [invokeMethodExpecting_eq]
    cases chosen : engine.invokeMethodCall (some target) name arguments expected with
    | error error => exact Or.inl ⟨error, Execution.ofExcept_error_bind error _⟩
    | ok call =>
      obtain ⟨resolved, found, rfl⟩ := invokeMethodCall_eq_ok typed chosen
      obtain ⟨selection, closing⟩ := Registry.resolveMember_eq_ok found
      refine Or.inr ⟨resolved.member, ?_, Execution.ofExcept_ok_bind _ _⟩
      rw [sound.close_id_of_closed applied closed (Registry.resolve_eq_ok selection).1 closing]
      exact never _ _ _ selection

end Calling

/-- Tanks of anything are filled with what they are tanks of. A tub is a tank of integers that
declares how it is filled itself. -/
def tubs : Engine where
  registry := .ofDefinitions
    [{ name := "Tank", kind := .classType, generics := ["T"]
       declarations :=
        [{ name := "fill", kind := .method, parameters := [.parameter ⟨.definition ⟨0⟩, 0⟩]
           body := .native .self }] },
     { name := "Tub", kind := .classType, base := some (.named ⟨0⟩ [.i32])
       declarations :=
        [{ name := "fill", kind := .method, parameters := [.i32], isOverride := true
           body := .native .self }] }]
  run := fun _ _ => .exhausted

/-- A tub's base is a tank of a closed type. -/
theorem tubs_wellFormed : tubs.registry.WellFormed :=
  .of_definitions _ (by decide) (by decide)

/-- The two methods that a tub offers under the name, its own and the inherited one. -/
def tubs.fill (place : Fin 2) : Member :=
  (tubs.registry.candidates .all (.named ⟨1⟩ []) "fill" .method).get (place.cast (by decide))

/-- A tub is filled its own way: with an integer its own method is selected, as that of tanks of
integers is covered. -/
theorem tubs_fill_nearest :
    let tub : Ty := .named ⟨1⟩ []
    let site : CallSite := ⟨tub, "fill", .method, some tub, [some .i32], none⟩
    tubs.registry.WellFormed ∧ tubs.registry.Covers tub (tubs.fill 0) (tubs.fill 1) ∧
      (tubs.fill 1).id = ⟨⟨0⟩, 0⟩ ∧ (tubs.fill 1).parameters = [.i32] ∧
      ∃ selected, tubs.registry.resolve tubs.flags site = .ok selected ∧
        selected.candidate.id ≠ (tubs.fill 1).id := by
  intro tub site
  have listed (place : Fin 2) :
      tubs.fill place ∈ tubs.registry.candidates tubs.flags tub "fill" .method := List.get_mem _ _
  have covers : tubs.registry.Covers tub (tubs.fill 0) (tubs.fill 1) :=
    ⟨by decide, by decide, by decide, by decide, by decide, by decide, by decide⟩
  obtain ⟨never, something⟩ := (nearest_method_called tubs_wellFormed (by decide) (by decide)
    (listed 0) (listed 1) covers).1 [some .i32] none
  obtain ⟨selected, found⟩ := something ⟨[.i32], [], [.i32]⟩ (by decide)
  exact ⟨tubs_wellFormed, covers, by decide, by decide, selected, found, never selected found⟩

end Engine

end LateBinding
