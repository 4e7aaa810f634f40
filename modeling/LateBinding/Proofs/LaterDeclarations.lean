import LateBinding.Proofs.AddedDeclarations
import LateBinding.Proofs.Selection

/-!
# Declarations added later

Candidates are tried in the order in which they are gathered along the base classes, and the first
that fits is selected. So a call that some candidate fitted before still selects that candidate,
with the same match, after a declaration was added, unless the new member is of the wanted kind and
name and its definition comes before the candidate's.

Closing is another matter. A candidate of an open type is looked up again on the closed type, by
the parameter types of the match, and with open types at the call site these need not be the
parameter types of the candidate. What the look-up finds may then stand in a base class, and a new
declaration nearer than that is found before it. `Registry.Supplants` is the condition for this, and
with closed types at the call site it never holds.
-/
namespace LateBinding

namespace Registry

variable {registry : Registry} {id : DefinitionId} {declaration : Declaration}

/-! ## Selection -/

/-- Whether a member of the searched type, or of one of its base classes, is a candidate. -/
def wanted (flags : BindingFlags) (name : String) (kind : MemberKind) (searched type : Ty)
    (member : Member) : Bool :=
  member.kind = kind && flags.admits member.toDeclaration &&
    if kind = .constructor then type = searched
    else member.name = name && (type = searched || member.visibility ≠ .privateAccess)

/-- Candidates behind the one that is selected make no difference. -/
theorem selectFirst_front {site : CallSite} {front behind : List Member} {selected : Selected}
    (found : registry.selectFirst site (front ++ behind) = .ok selected)
    (inFront : selected.candidate ∈ front) (after : List Member) :
    registry.selectFirst site (front ++ after) = .ok selected := by
  induction front with
  | nil => simp at inFront
  | cons first rest inductionHypothesis =>
    rw [List.cons_append, selectFirst] at found ⊢
    cases unified : registry.unify first site.receiver site.arguments site.expected with
    | ok matched => simpa [unified] using found
    | error failure =>
      simp only [unified] at found ⊢
      cases later : registry.selectFirst site (rest ++ behind) with
      | error rejected => simp [later] at found
      | ok other =>
        obtain rfl : other = selected := by simpa [later] using found
        have fits := (selectFirst_eq_ok later).2
        have further : other.candidate ∈ rest := by
          rcases List.mem_cons.mp inFront with same | further
          · simp [← same, fits] at unified
          · exact further
        rw [inductionHypothesis later further]

/-- The same candidate is selected from the same list. The new declaration matters only by being in
the list. -/
theorem selectFirst_declare (site : CallSite) (members : List Member) :
    (registry.declare id declaration).selectFirst site members =
      registry.selectFirst site members := by
  induction members with
  | nil => rfl
  | cons first rest inductionHypothesis =>
    rw [selectFirst, selectFirst, sameHierarchy_declare.unify_eq, inductionHypothesis]

/-- The candidates as they are gathered along the base classes. -/
theorem candidates_eq_gather {type : Ty} {bases : List Ty}
    (chain : registry.baseChain type = type :: bases) (unrepeated : type ∉ bases)
    (flags : BindingFlags) (name : String) (kind : MemberKind) :
    registry.candidates flags type name kind =
      registry.gather (wanted flags name kind type) (registry.baseChain type) := by
  have distinct : ∀ base ∈ bases, base ≠ type := by
    rintro base inside rfl
    exact unrepeated inside
  rw [chain, gather_cons, candidates]
  by_cases constructors : kind = .constructor
  · have none : registry.gather (wanted flags name kind type) bases = [] := by
      rw [gather, List.flatMap_eq_nil_iff]
      intro base inside
      simp [wanted, constructors, distinct base inside]
    rw [if_pos constructors, none, List.append_nil, Registry.constructors]
    exact List.filter_congr fun member _ => by simp [wanted, constructors]
  · have own : ∀ member : Member, (decide (member.kind = kind) && answersTo name flags member) =
        wanted flags name kind type type member := by
      intro member
      by_cases sameKind : member.kind = kind
      · simp [wanted, answersTo, constructors, sameKind, Bool.and_comm]
      · simp [wanted, sameKind]
    have inherited : ∀ base ∈ bases, ((registry.declaredMembers base).filter fun member =>
          answersTo name flags member && member.visibility ≠ .privateAccess).filter
            (·.kind = kind) =
        (registry.declaredMembers base).filter (wanted flags name kind type base) := by
      intro base inside
      rw [List.filter_filter]
      refine List.filter_congr fun member _ => ?_
      by_cases sameKind : member.kind = kind
      · simp [wanted, answersTo, constructors, sameKind, distinct base inside, Bool.and_comm,
          Bool.and_left_comm, Bool.and_assoc]
      · simp [wanted, sameKind]
    rw [if_neg constructors, members, chain, membersAlong, List.filter_append, List.filter_filter,
      List.filter_flatMap, List.flatMap_congr inherited]
    exact congrArg (· ++ _) (List.filter_congr fun member _ => own member)

/-- A new member of another kind or name is no candidate. -/
theorem wanted_newMember? {name : String} {kind : MemberKind}
    (other : declaration.kind ≠ kind ∨ kind ≠ .constructor ∧ declaration.name ≠ name)
    (flags : BindingFlags) (searched : Ty) {type : Ty} {member : Member}
    (new : registry.newMember? id declaration type = some member) :
    wanted flags name kind searched type member = false := by
  obtain ⟨-, _, _, rfl⟩ := newMember?_eq_some new
  rcases other with otherKind | ⟨called, otherName⟩
  · simp [wanted, seenFrom, Member.specialize, otherKind]
  · simp [wanted, seenFrom, Member.specialize, called, otherName]

/-- Whether a definition comes before a class on the way up from a type. -/
def Precedes (registry : Registry) (start : Ty) (id : DefinitionId) (declaring : Ty) : Prop :=
  ∃ type, type.definition? = some id ∧ [type, declaring].Sublist (registry.baseChain start)

/-- Whether a new declaration comes too late for a call site at which a candidate was selected: it
is of another kind or name than what is wanted there, or its definition does not come before the
candidate's class. -/
def Trails (registry : Registry) (id : DefinitionId) (declaration : Declaration) (site : CallSite)
    (candidate : Member) : Prop :=
  (declaration.kind ≠ site.kind ∨ site.kind ≠ .constructor ∧ declaration.name ≠ site.name) ∨
    ¬ registry.Precedes site.type id candidate.declaring

namespace WellFormed

variable (sound : registry.WellFormed)
include sound

/-- Along base classes no type comes twice. -/
theorem baseChain_nodup (type : Ty) : (registry.baseChain type).Nodup := by
  refine (sound.baseChain_descends type).imp fun less same => ?_
  exact Nat.ne_of_gt less (congrArg _ same)

/-- A type comes first in the chain of its base classes, and does not come again. -/
theorem exists_bases (type : Ty) :
    ∃ bases, registry.baseChain type = type :: bases ∧ type ∉ bases :=
  sound.rooted.exists_bases type

/-- A declaration of another kind or name changes no candidates. -/
theorem candidates_declare {name : String} {kind : MemberKind}
    (other : declaration.kind ≠ kind ∨ kind ≠ .constructor ∧ declaration.name ≠ name)
    (flags : BindingFlags) (type : Ty) :
    (registry.declare id declaration).candidates flags type name kind =
      registry.candidates flags type name kind := by
  obtain ⟨bases, chain, unrepeated⟩ := sound.exists_bases type
  rw [candidates_eq_gather (baseChain_declare type |>.trans chain) unrepeated,
    candidates_eq_gather chain unrepeated, baseChain_declare]
  exact gather_declare_of_unasked fun _ _ _ new => wanted_newMember? other flags type new

/-- Nothing comes before the type at which a walk starts. -/
theorem not_precedes_self (type : Ty) : ¬ registry.Precedes type id type := by
  rintro ⟨other, -, before⟩
  obtain ⟨bases, chain, unrepeated⟩ := sound.exists_bases type
  have below : [type].Sublist bases := by
    rw [chain] at before
    exact before.tail
  exact unrepeated (List.singleton_sublist.mp below)

/-- A declaration that comes too late leaves the selection as it is. -/
theorem resolve_declare {flags : BindingFlags} {site : CallSite} {selected : Selected}
    (found : registry.resolve flags site = .ok selected)
    (trails : registry.Trails id declaration site selected.candidate) :
    (registry.declare id declaration).resolve flags site = .ok selected := by
  have selects := resolve_eq_ok_iff.mp found
  rw [resolve_eq_ok_iff, selectFirst_declare]
  rcases trails with other | behind
  · rwa [sound.candidates_declare other]
  · obtain ⟨bases, chain, unrepeated⟩ := sound.exists_bases site.type
    have later : ∀ type, type.definition? = some id →
        ¬ [type, selected.candidate.declaring].Sublist (registry.baseChain site.type) :=
      fun type named inside => behind ⟨type, named, inside⟩
    obtain ⟨front, rest, after, before, changed, covers⟩ :=
      gather_declare_front (wanted flags site.name site.kind site.type) declaration later
    rw [candidates_eq_gather chain unrepeated] at selects
    have inFront := covers _ (selectFirst_eq_ok selects).1 rfl
    rw [before] at selects
    rw [candidates_eq_gather (baseChain_declare site.type |>.trans chain) unrepeated,
      baseChain_declare, changed, selectFirst_front selects inFront]

end WellFormed

/-! ## Closing -/

/-- Looking a member up is a search among the candidates for its parameter types. -/
theorem findMember?_eq_find? (type : Ty) (kind : MemberKind) (name : String)
    (parameters : List Ty) : registry.findMember? type kind name parameters =
      (registry.candidates .all type name kind).find? (·.parameters = parameters) := by
  rw [findMember?, candidates]
  by_cases constructors : kind = .constructor
  · rw [if_pos constructors, if_pos constructors, Registry.constructors, List.find?_filter,
      List.find?_filter]
    refine congrArg (List.find? · _) (funext fun member => ?_)
    by_cases sameKind : member.kind = .constructor <;> simp [sameKind, constructors]
  · simp [constructors, List.find?_filter]

/-- Whether a new declaration comes before a class when a candidate is looked up again, by its kind,
its name and the parameter types of the match, on the closed type: it is declared in a class before
that one and answers to the same question. -/
def OvertakesAgain (registry : Registry) (id : DefinitionId) (declaration : Declaration)
    (candidate : Member) (matched : Match) (declaring : Ty) : Prop :=
  let closedType := candidate.declaring.withArguments matched.typeArguments
  registry.Overtakes id declaration (wanted .all candidate.name candidate.kind closedType)
    (·.parameters = matched.parameterTypes) (registry.baseChain closedType) declaring

/-- Whether a new declaration is found in the place of the member that a candidate was closed to:
the candidate's type is open, so that the member was looked up again, and the new declaration comes
before the class where it was found. -/
def Supplants (registry : Registry) (id : DefinitionId) (declaration : Declaration)
    (resolved : Resolved) : Prop :=
  resolved.candidate.declaring.isOpen = true ∧
    registry.OvertakesAgain id declaration resolved.candidate resolved.matched
      resolved.member.declaring

/-- The last step of closing asks nothing of the registry but the error it reports. -/
theorem closeMethod_step_declare {closed member : Member} {arguments : List Ty} :
    (if closed.hasOpenMethodParameters then
        (registry.declare id declaration).closeMethod closed arguments
      else pure closed) = Except.ok member ↔
    (if closed.hasOpenMethodParameters then registry.closeMethod closed arguments
      else pure closed) = Except.ok member := by
  split
  · rw [closeMethod_eq_ok_iff, closeMethod_eq_ok_iff]
  · rfl

namespace WellFormed

variable (sound : registry.WellFormed)
include sound

/-- Looking a candidate up again comes to the same member as before, or to one of another class,
and the second exactly when the new declaration overtakes the member. -/
theorem reopen_declare (id : DefinitionId) (declaration : Declaration)
    {candidate found : Member} {matched : Match}
    (reopened : registry.reopen candidate matched = .ok found) :
    ∃ other, (∀ between, (registry.declare id declaration).reopen candidate matched =
          .ok between ↔ other = between) ∧
      (other = found ∧
          ¬ registry.OvertakesAgain id declaration candidate matched found.declaring ∨
        other.declaring ≠ found.declaring ∧
          registry.OvertakesAgain id declaration candidate matched found.declaring) := by
  cases named : candidate.declaring.definition? with
  | none => simp [reopen, named] at reopened
  | some home =>
    obtain ⟨arguments, same⟩ := Ty.definition?_eq_some_iff.mp named
    obtain ⟨count, lookedUp⟩ := (reopen_eq_ok_iff named).mp reopened
    obtain ⟨bases, chain, unrepeated⟩ := sound.exists_bases (.named home matched.typeArguments)
    rw [findMember?_eq_find?, candidates_eq_gather chain unrepeated] at lookedUp
    obtain ⟨other, again, verdict⟩ :=
      find?_gather_declare id declaration (sound.baseChain_nodup _) lookedUp
    rw [OvertakesAgain, same, Ty.withArguments]
    refine ⟨other, fun between => ?_, verdict⟩
    rw [reopen_eq_ok_iff named, parameters_declare, findMember?_eq_find?,
      candidates_eq_gather ((baseChain_declare _).trans chain) unrepeated, baseChain_declare, again]
    simp [count]

/-- Closing comes to the same member, unless the new declaration supplants it. -/
theorem close_declare_iff {resolved : Resolved}
    (closed : registry.close resolved.candidate resolved.matched = .ok resolved.member) :
    (registry.declare id declaration).close resolved.candidate resolved.matched =
        .ok resolved.member ↔
      ¬ registry.Supplants id declaration resolved := by
  rw [close] at closed ⊢
  rw [Supplants]
  cases opened : resolved.candidate.declaring.isOpen with
  | false =>
    rw [opened, if_neg Bool.false_ne_true, pure_bind] at closed
    rw [if_neg Bool.false_ne_true, pure_bind, closeMethod_step_declare]
    simpa using closed
  | true =>
    rw [opened, if_pos rfl] at closed
    obtain ⟨found, reopened, stepped⟩ := bind_eq_ok.mp closed
    obtain ⟨other, reopenedNow, verdict⟩ := sound.reopen_declare id declaration reopened
    rw [if_pos rfl, bind_eq_ok]
    simp only [reopenedNow, exists_eq_left', closeMethod_step_declare, true_and,
      (closeMethod_step_keeps stepped).2]
    rcases verdict with ⟨rfl, kept⟩ | ⟨elsewhere, overtakes⟩
    · exact iff_of_true stepped kept
    · refine iff_of_false (fun steppedNow => elsewhere ?_) (not_not_intro overtakes)
      rw [← (closeMethod_step_keeps steppedNow).2, (closeMethod_step_keeps stepped).2]

/-- With closed types at the call site a member is closed on its own class, and nothing comes
before that. -/
theorem not_supplants_of_closed {flags : BindingFlags} {site : CallSite} {resolved : Resolved}
    (found : registry.resolveMember flags site = .ok resolved)
    (applied : ∀ type ∈ site.types, registry.wellApplied type = true)
    (closed : ∀ type ∈ offeredTypes site.receiver site.arguments (.ofResult site.expected),
      type.isOpen = false) :
    ¬ registry.Supplants id declaration resolved := by
  rintro ⟨opened, overtakes⟩
  obtain ⟨selection, closing⟩ := resolveMember_eq_ok found
  obtain ⟨home, arguments, bindings, selects⟩ := sound.resolve_selects applied selection
  have offered := fun type member => applied type (CallSite.mem_types_of_offered member)
  have sameType := (declared_facts selects.declared).1
  rw [close, if_pos opened] at closing
  obtain ⟨between, reopened, stepped⟩ := bind_eq_ok.mp closing
  obtain ⟨-, lookedUp⟩ := (reopen_eq_ok_iff (by rw [sameType]; rfl)).mp reopened
  obtain ⟨_, again, own, -⟩ := sound.exists_lookedUp selects.applied selects.declared
    selects.unified (selects.unified.bound_closed sound offered closed)
  obtain rfl := Option.some.inj (lookedUp.symm.trans again)
  rw [OvertakesAgain, (closeMethod_step_keeps stepped).2, (declared_facts own).1, sameType,
    Ty.withArguments] at overtakes
  obtain ⟨bases, chain, unrepeated⟩ :=
    sound.exists_bases (.named home resolved.matched.typeArguments)
  rw [chain] at overtakes
  exact not_overtakes_head unrepeated overtakes

/-- A declaration that comes too late for a call site never changes the candidate that is selected
there or its match. It changes the member that the candidate is closed to exactly when it supplants
that member, and with closed types at the call site it does not. -/
theorem resolveMember_declare {flags : BindingFlags} {site : CallSite} {resolved : Resolved}
    (found : registry.resolveMember flags site = .ok resolved)
    (trails : registry.Trails id declaration site resolved.candidate) :
    (registry.declare id declaration).resolve flags site = .ok resolved.toSelected ∧
      ((registry.declare id declaration).resolveMember flags site = .ok resolved ↔
        ¬ registry.Supplants id declaration resolved) ∧
      ((∀ type ∈ site.types, registry.wellApplied type = true) →
        (∀ type ∈ offeredTypes site.receiver site.arguments (.ofResult site.expected),
          type.isOpen = false) →
        (registry.declare id declaration).resolveMember flags site = .ok resolved) := by
  obtain ⟨selection, closing⟩ := resolveMember_eq_ok found
  have kept := sound.resolve_declare selection trails
  have exactly : (registry.declare id declaration).resolveMember flags site = .ok resolved ↔
      ¬ registry.Supplants id declaration resolved := by
    rw [← sound.close_declare_iff closing]
    exact ⟨fun now => (resolveMember_eq_ok now).2, resolveMember_of_close kept⟩
  exact ⟨kept, exactly, fun applied closed =>
    exactly.mpr (sound.not_supplants_of_closed found applied closed)⟩

end WellFormed

/-- A rack of any type, into which boxes are put, and a stack on top of it, into which elements
are put. -/
def racks : Registry := .ofDefinitions
  [{ name := "Box", kind := .classType, generics := ["T"] },
   { name := "Rack", kind := .classType, generics := ["T"]
     declarations :=
      [{ name := "put", kind := .method
         parameters := [.named ⟨0⟩ [.parameter ⟨.definition ⟨1⟩, 0⟩]], body := .native .self }] },
   { name := "Stack", kind := .classType, generics := ["T"]
     base := some (.named ⟨1⟩ [.parameter ⟨.definition ⟨2⟩, 0⟩])
     declarations :=
      [{ name := "put", kind := .method, parameters := [.parameter ⟨.definition ⟨2⟩, 0⟩]
         body := .native .self }] }]

/-- The stack lies one step above the rack, and its base is a rack of its own parameter. -/
theorem racks_wellFormed : racks.WellFormed :=
  .of_definitions _ (by decide) (by decide)

/-- A box of a stack's elements. -/
def elementBox : Ty := .named ⟨0⟩ [.parameter ⟨.definition ⟨2⟩, 0⟩]

/-- A later overload, which puts boxes into a stack. -/
def putBox : Declaration where
  name := "put"
  kind := .method
  parameters := [elementBox]
  body := .native .self

/-- Something is put into a stack of any type. -/
def stackSite (argument : Ty) : CallSite where
  type := racks.openType ⟨2⟩
  name := "put"
  kind := .method
  receiver := none
  arguments := [some argument]
  expected := none

/-- Where an integer is put into a stack of any type, the later overload makes no difference. Where
a box of the stack's own elements is put into it, the selected member is closed to the inherited
one, and the later overload supplants that. -/
theorem racks_put_declare :
    racks.WellFormed ∧
      (∃ resolved, racks.resolveMember .all (stackSite .i32) = .ok resolved ∧
        racks.Trails ⟨2⟩ putBox (stackSite .i32) resolved.candidate ∧
        (racks.declare ⟨2⟩ putBox).resolveMember .all (stackSite .i32) = .ok resolved) ∧
      ∃ resolved, racks.resolveMember .all (stackSite elementBox) = .ok resolved ∧
        racks.Trails ⟨2⟩ putBox (stackSite elementBox) resolved.candidate ∧
        racks.Supplants ⟨2⟩ putBox resolved := by
  have trails : ∀ {argument : Ty} {candidate : Member},
      candidate.declaring = racks.openType ⟨2⟩ →
        racks.Trails ⟨2⟩ putBox (stackSite argument) candidate := by
    intro argument candidate declaring
    refine Or.inr ?_
    rw [declaring]
    exact racks_wellFormed.not_precedes_self _
  refine ⟨racks_wellFormed, ?_, ?_⟩
  · have facts : (racks.resolveMember .all (stackSite .i32)).toOption.map
        (·.candidate.declaring) = some (racks.openType ⟨2⟩) := by decide
    cases found : racks.resolveMember .all (stackSite .i32) with
    | error error => simp [found, Except.toOption] at facts
    | ok resolved =>
      have declaring : resolved.candidate.declaring = racks.openType ⟨2⟩ := by
        simpa [found, Except.toOption] using facts
      obtain ⟨-, -, closed⟩ := racks_wellFormed.resolveMember_declare found (trails declaring)
      exact ⟨resolved, rfl, trails declaring, closed (by decide) (by decide)⟩
  · have facts : (racks.resolveMember .all (stackSite elementBox)).toOption.map (fun resolved =>
        (resolved.candidate.declaring, resolved.member.id)) =
          some (racks.openType ⟨2⟩, ⟨⟨1⟩, 0⟩) := by decide
    have later : ((racks.declare ⟨2⟩ putBox).resolveMember .all
        (stackSite elementBox)).toOption.map (·.member.id) = some ⟨⟨2⟩, 1⟩ := by decide
    cases found : racks.resolveMember .all (stackSite elementBox) with
    | error error => simp [found, Except.toOption] at facts
    | ok resolved =>
      obtain ⟨declaring, member⟩ : resolved.candidate.declaring = racks.openType ⟨2⟩ ∧
          resolved.member.id = ⟨⟨1⟩, 0⟩ := by simpa [found, Except.toOption] using facts
      obtain ⟨-, exactly, -⟩ := racks_wellFormed.resolveMember_declare found (trails declaring)
      refine ⟨resolved, rfl, trails declaring, ?_⟩
      by_contra kept
      simp [exactly.mpr kept, Except.toOption, member] at later

end Registry

end LateBinding
