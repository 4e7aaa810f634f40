import LateBinding.Proofs.Selection

/-!
# Matched members are found again

A member that was matched on an open type is looked up once more on the closed one. The key of the
look-up is put together while the arguments are matched: a parameter type is resolved where there is
an argument and stays as declared where there is null, what stands for type parameters is put in,
and the member's own parameters are left. What the closed type declares is put together in another
way, from the declarations of the definition and the arguments of the type.

From closed types at the call site both come to the same, so that the look-up never misses. It hits
a member of the closed type itself, with exactly the parameter types of the key. That need not be
the member that was matched, for an earlier overload may have become like it.
-/
namespace LateBinding

namespace Registry

variable {registry : Registry}

/-- Giving a member its arguments never reports that there is no member. -/
theorem closeMethod_step_ne_missingMember (closed : Member) (arguments : List Ty)
    (type name : String) :
    (if closed.hasOpenMethodParameters then registry.closeMethod closed arguments
      else pure closed) ≠ Except.error (.missingMember type name) := by
  split
  · rw [closeMethod]
    split <;> simp
  · simp [pure, Except.pure]

/-- So a member that is found wherever it has to be looked up again is not reported missing. -/
theorem close_ne_missingMember {member : Member} {matched : Match}
    (found : member.declaring.isOpen = true → ∃ closed, registry.reopen member matched = .ok closed)
    (type name : String) : registry.close member matched ≠ .error (.missingMember type name) := by
  rw [close]
  cases opened : member.declaring.isOpen with
  | false =>
    rw [if_neg Bool.false_ne_true, pure_bind]
    exact closeMethod_step_ne_missingMember member _ type name
  | true =>
    obtain ⟨closed, reopened⟩ := found opened
    rw [if_pos rfl, reopened]
    exact closeMethod_step_ne_missingMember closed _ type name

/-- Whatever member a type offers and whatever it is matched with, as long as that is closed: its
definition takes the type arguments of the match, and on the type so made the member's kind and name
and the parameter types of the match lead to a member declared there, with these parameter types. So
closing a matched member never reports that there is none. The type is closed unless the searched
type mentions parameters of members. -/
theorem WellFormed.matched_found_again (sound : registry.WellFormed) {flags : BindingFlags}
    {type : Ty} {name : String} {kind : MemberKind} {candidate : Member} {receiver : Option Ty}
    {arguments : List (Option Ty)} {expectation : Expectation} {matched : Match}
    (applied : registry.wellApplied type = true)
    (listed : candidate ∈ registry.candidates flags type name kind)
    (offered : ∀ type ∈ offeredTypes receiver arguments expectation,
      registry.wellApplied type = true ∧ type.isOpen = false)
    (unifies : registry.unifyWith candidate receiver arguments expectation = .ok matched) :
    ∃ id closedType found, candidate.declaring.definition? = some id ∧
      registry.closeType id matched.typeArguments = .ok closedType ∧
      ((∀ p ∈ candidate.declaring.occurrences, p.isMethodLevel = false) →
        closedType.isOpen = false) ∧
      registry.findMember? closedType candidate.kind candidate.name matched.parameterTypes =
        some found ∧
      found.declaring = closedType ∧ found.parameters = matched.parameterTypes ∧
      ∀ typeName memberName,
        registry.close candidate matched ≠ .error (.missingMember typeName memberName) := by
  obtain ⟨-, -, seen, reached, declared⟩ := mem_candidates listed
  obtain ⟨sameType, -, named⟩ := declared_facts declared
  obtain ⟨declaringArguments, rfl⟩ := Ty.definition?_eq_some_iff.mp named
  have seenApplied := sound.wellApplied_of_reaches applied reached
  obtain ⟨bindings, unified⟩ := sound.unifyWith_unified
    (sound.applied_of_declared seenApplied declared) (fun type inside => (offered type inside).1)
    unifies
  have closed := fun {p type} (bound : bindings.bound? p = some type) =>
    unified.bound_closed sound (fun type inside => (offered type inside).1)
      (fun type inside => (offered type inside).2) bound
  have count := unified.length_typeArguments declared seenApplied
  obtain ⟨found, lookedUp, foundDeclared, parameters⟩ :=
    sound.exists_lookedUp seenApplied declared unified closed
  have home : candidate.declaring.definition? = some candidate.id.definition := by
    rw [sameType]
    rfl
  have reopened := (reopen_eq_ok_iff home).mpr ⟨count, lookedUp⟩
  refine ⟨_, .named candidate.id.definition matched.typeArguments, found, home, if_pos count, ?_,
    lookedUp, (declared_facts foundDeclared).1, parameters, ?_⟩
  · rw [sameType]
    exact fun plain => unified.isOpen_typeArguments declared plain closed
  · exact close_ne_missingMember fun _ => ⟨found, reopened⟩

/-- Drawers are chests of boxes. Into a chest goes an element, a box of elements and something
else. -/
def drawers : Registry := .ofDefinitions
  [{ name := "Box", kind := .classType, generics := ["T"] },
   { name := "Chest", kind := .classType, generics := ["T"]
     declarations :=
      [{ name := "put", kind := .method, generics := ["U"]
         parameters :=
          [.parameter ⟨.definition ⟨1⟩, 0⟩, .named ⟨0⟩ [.parameter ⟨.definition ⟨1⟩, 0⟩],
           .parameter ⟨.member ⟨⟨1⟩, 0⟩, 0⟩]
         body := .native .self }] },
   { name := "Drawer", kind := .classType, generics := ["T"]
     base := some (.named ⟨1⟩ [.named ⟨0⟩ [.parameter ⟨.definition ⟨2⟩, 0⟩]]) }]

/-- A drawer's base is a chest of boxes of its own parameter. -/
theorem drawers_wellFormed : drawers.WellFormed :=
  .of_definitions _ (by decide) (by decide)

/-- The method of the chest, as drawers of any type inherit it. -/
def drawers.put : Member :=
  (drawers.candidates .all (drawers.openType ⟨2⟩) "put" .method).get ⟨0, by decide⟩

/-- Null stands for a box of boxes, whose declared type mentions a parameter, and the last argument
for the method's own parameter. The method is found again on chests of boxes of integers. -/
theorem drawers_put_found_again :
    let box : Ty := .named ⟨0⟩ [.i32]
    let key : List Ty := [box, .named ⟨0⟩ [box], .parameter ⟨.member ⟨⟨1⟩, 0⟩, 0⟩]
    drawers.WellFormed ∧
      drawers.put ∈ drawers.candidates .all (drawers.openType ⟨2⟩) "put" .method ∧
      drawers.unifyWith drawers.put (some (.named ⟨2⟩ [.i32])) [some box, none, some .str] .any =
        .ok ⟨[box], [.str], key⟩ ∧
      ∃ found, drawers.findMember? (.named ⟨1⟩ [box]) .method "put" key = some found ∧
        found.declaring = .named ⟨1⟩ [box] ∧ found.parameters = key := by
  intro box key
  have listed : drawers.put ∈ drawers.candidates .all (drawers.openType ⟨2⟩) "put" .method :=
    List.get_mem _ _
  have unifies : drawers.unifyWith drawers.put (some (.named ⟨2⟩ [.i32]))
      [some box, none, some .str] .any = .ok ⟨[box], [.str], key⟩ := by decide
  obtain ⟨_, _, found, named, typed, -, lookedUp, declaring, parameters, -⟩ :=
    drawers_wellFormed.matched_found_again (by decide) listed (by decide) unifies
  have home : drawers.put.declaring.definition? = some ⟨1⟩ := by decide
  obtain rfl := Option.some.inj (home.symm.trans named)
  have closes : drawers.closeType ⟨1⟩ [box] = .ok (.named ⟨1⟩ [box]) := by decide
  obtain rfl := Except.ok.inj (closes.symm.trans typed)
  exact ⟨drawers_wellFormed, listed, unifies, found, lookedUp, declaring, parameters⟩

end Registry

end LateBinding
