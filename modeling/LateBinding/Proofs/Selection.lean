import LateBinding.Proofs.Closing

/-!
# Selected members

A selected member is a candidate of the searched type that unifies with the call site. It is
declared on a type that the searched type reaches, so what is said of declared members and of
unification holds of it: `resolve_selects` puts the two together for a call site whose types are
well applied.
-/
namespace LateBinding

/-- The types that a call site mentions. -/
def CallSite.types (site : CallSite) : List Ty :=
  site.type :: (site.receiver.toList ++ site.expected.toList ++ site.arguments.filterMap id)

/-- Everything that unification is offered is mentioned by the call site. -/
theorem CallSite.mem_types_of_offered {site : CallSite} {type : Ty}
    (offered : type ∈ offeredTypes site.receiver site.arguments (.ofResult site.expected)) :
    type ∈ site.types := by
  have expected : (Expectation.ofResult site.expected).type? = some type →
      site.expected = some type := by
    cases site.expected with
    | none => simp [Expectation.ofResult, Expectation.type?]
    | some wanted =>
      cases wanted <;> simp [Expectation.ofResult, Expectation.type?, Ty.isObject]
  rcases mem_offeredTypes.mp offered with same | same | inside
  · simp [types, same]
  · simp [types, expected same]
  · simp [types, inside]

namespace Registry

variable {registry : Registry}

/-- The candidate that is selected is in the list and unifies. -/
theorem selectFirst_eq_ok {site : CallSite} {members : List Member} {selected : Selected}
    (found : registry.selectFirst site members = .ok selected) :
    selected.candidate ∈ members ∧
      registry.unify selected.candidate site.receiver site.arguments site.expected =
        .ok selected.matched := by
  induction members with
  | nil => simp [selectFirst] at found
  | cons first rest inductionHypothesis =>
    rw [selectFirst] at found
    cases unified : registry.unify first site.receiver site.arguments site.expected with
    | ok matched =>
      rw [unified] at found
      obtain rfl := Except.ok.inj found
      exact ⟨List.mem_cons_self, unified⟩
    | error failure =>
      rw [unified] at found
      cases later : registry.selectFirst site rest with
      | ok other =>
        rw [later] at found
        obtain rfl := Except.ok.inj found
        obtain ⟨inside, unified⟩ := inductionHypothesis later
        exact ⟨List.mem_cons_of_mem _ inside, unified⟩
      | error rejected =>
        rw [later] at found
        cases found

/-- A resolution that succeeds is a selection that does; the error is worded afterwards. -/
theorem resolve_eq_ok_iff {flags : BindingFlags} {site : CallSite} {selected : Selected} :
    registry.resolve flags site = .ok selected ↔
      registry.selectFirst site (registry.candidates flags site.type site.name site.kind) =
        .ok selected := by
  rw [resolve]
  cases registry.selectFirst site (registry.candidates flags site.type site.name site.kind) with
  | error rejected => simp [Except.mapError]
  | ok other => simp [Except.mapError]

/-- A resolution selects a candidate. -/
theorem resolve_eq_ok {flags : BindingFlags} {site : CallSite} {selected : Selected}
    (found : registry.resolve flags site = .ok selected) :
    selected.candidate ∈ registry.candidates flags site.type site.name site.kind ∧
      registry.unify selected.candidate site.receiver site.arguments site.expected =
        .ok selected.matched :=
  selectFirst_eq_ok (resolve_eq_ok_iff.mp found)

/-- A resolved member is a selected candidate, closed. -/
theorem resolveMember_eq_ok {flags : BindingFlags} {site : CallSite} {resolved : Resolved}
    (found : registry.resolveMember flags site = .ok resolved) :
    registry.resolve flags site = .ok resolved.toSelected ∧
      registry.close resolved.candidate resolved.matched = .ok resolved.member := by
  rw [resolveMember] at found
  cases selection : registry.resolve flags site with
  | ok selected =>
    rw [selection] at found
    obtain ⟨member, closed, same⟩ := bind_eq_ok.mp found
    obtain rfl := Except.ok.inj same
    exact ⟨rfl, closed⟩
  | error failure =>
    rw [selection] at found
    cases found

/-- A selected candidate that is closed is a resolved member. -/
theorem resolveMember_of_close {flags : BindingFlags} {site : CallSite} {resolved : Resolved}
    (selection : registry.resolve flags site = .ok resolved.toSelected)
    (closed : registry.close resolved.candidate resolved.matched = .ok resolved.member) :
    registry.resolveMember flags site = .ok resolved := by
  rw [resolveMember, selection]
  exact bind_eq_ok.mpr ⟨resolved.member, closed, rfl⟩

/-- What is known of a selected candidate: where it is declared, that the flags admit it, and
what unification has found out. -/
structure Selects (registry : Registry) (flags : BindingFlags) (site : CallSite)
    (selected : Selected) (id : DefinitionId) (arguments : List Ty) (bindings : Bindings) :
    Prop where
  reached : registry.Reaches site.type (.named id arguments)
  applied : registry.wellApplied (.named id arguments) = true
  declared : selected.candidate ∈ registry.declaredMembers (.named id arguments)
  admitted : flags.admits selected.candidate.toDeclaration = true
  kind : selected.candidate.kind = site.kind
  unified : registry.Unified selected.candidate site.receiver site.arguments
    (.ofResult site.expected) bindings selected.matched

/-- A resolution at a call site whose types are well applied selects such a candidate. -/
theorem WellFormed.resolve_selects (sound : registry.WellFormed) {flags : BindingFlags}
    {site : CallSite} (applied : ∀ type ∈ site.types, registry.wellApplied type = true)
    {selected : Selected} (found : registry.resolve flags site = .ok selected) :
    ∃ id arguments bindings, registry.Selects flags site selected id arguments bindings := by
  obtain ⟨candidate, unified⟩ := resolve_eq_ok found
  obtain ⟨admitted, kind, seen, reached, declared⟩ := mem_candidates candidate
  obtain ⟨sameType, _, named⟩ := declared_facts declared
  obtain ⟨arguments, rfl⟩ := Ty.definition?_eq_some_iff.mp named
  have seenApplied := sound.wellApplied_of_reaches (applied site.type List.mem_cons_self) reached
  have memberApplied := sound.applied_of_declared seenApplied declared
  obtain ⟨bindings, facts⟩ := sound.unifyWith_unified memberApplied
    (fun type offered => applied type (CallSite.mem_types_of_offered offered)) unified
  exact ⟨_, arguments, bindings, reached, seenApplied, declared, admitted, kind, facts⟩

end Registry

end LateBinding
