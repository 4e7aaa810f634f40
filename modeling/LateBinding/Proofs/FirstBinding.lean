import LateBinding.Proofs.Matching

/-!
# The first binding stands

A match may fail anywhere inside the declared type, and what it has bound until then stays bound.
So whoever goes on with the bindings after a match, successful or not, has all that was there
before it and besides only parameters of the declared type, each bound to the actual type or to
something inside of what stands above it. At depth there is no looking up any more: an argument is
seen through itself alone, so that what is bound there is part of it as it is written.

A match that has succeeded can be repeated with bindings that say as much as it left, and then
answers the same and binds nothing.
-/
namespace LateBinding

/-- Whether a type is an argument of another, or stands at some depth in one of its arguments. -/
inductive Ty.Inside (part : Ty) : Ty → Prop
  | argument {id : DefinitionId} {arguments : List Ty} (listed : part ∈ arguments) :
      Inside part (.named id arguments)
  | deeper {id : DefinitionId} {arguments : List Ty} {argument : Ty} (listed : argument ∈ arguments)
      (within : Inside part argument) : Inside part (.named id arguments)

namespace Registry

/-- What a match can bind: parameters of the declared type, to the actual type or to something
inside a type above it, or, in a nested place, inside of the actual type itself. -/
def Offers (registry : Registry) (nested : Bool) (declared actual : Ty) (p : Parameter)
    (part : Ty) : Prop :=
  p ∈ declared.occurrences ∧
    (part = actual ∨ ∃ above, registry.Reaches actual above ∧ (nested = true → above = actual) ∧
      part.Inside above)

variable {registry : Registry}

/-! ## Matching again -/

section Again

variable {before after final : Bindings}
  (kept : ∀ p type, after.bound? p = some type → final.bound? p = some type)
include kept

/-- A parameter that was matched is bound, and its binding admits the same type again. -/
theorem matchParameter_again {nested : Bool} {parameter : Parameter} {actual resolved : Ty}
    (matched : registry.matchParameter nested parameter actual before = (.ok resolved, after)) :
    registry.matchParameter nested parameter actual final = (.ok resolved, final) := by
  obtain ⟨bound, found, rfl, admitted⟩ := matchParameter_eq_ok matched
  rw [matchParameter, kept _ _ found]
  exact if_pos admitted

/-- In a nested place only the match of an open type depends on the bindings. -/
theorem matchNested_again_of {declared actual resolved : Ty}
    (opened : registry.matchOpen true declared actual before = (.ok resolved, after) →
      registry.matchOpen true declared actual final = (.ok resolved, final))
    (matched : registry.matchNested declared actual before = (.ok resolved, after)) :
    registry.matchNested declared actual final = (.ok resolved, final) := by
  rw [matchNested] at matched ⊢
  by_cases isOpen : declared.isOpen = true
  · rw [if_pos isOpen] at matched ⊢
    exact opened matched
  · rw [if_neg isOpen] at matched ⊢
    by_cases same : declared = actual
    · rw [if_pos same] at matched ⊢
      obtain ⟨equal, rfl⟩ := Prod.mk.inj matched
      rw [equal]
    · rw [if_neg same] at matched
      cases (Prod.mk.inj matched).1

end Again

namespace WellFormed

variable (sound : registry.WellFormed)
include sound

/-- What a match has bound, it finds bound again: each argument before the next. -/
theorem matchArguments_again {declared : List Ty}
    (each : ∀ type ∈ declared, ∀ {actual resolved before after final},
      (∀ p bound, Bindings.bound? after p = some bound → Bindings.bound? final p = some bound) →
      registry.matchNested type actual before = (.ok resolved, after) →
      registry.matchNested type actual final = (.ok resolved, final))
    {actual resolved : List Ty} {before after final : Bindings}
    (kept : ∀ p type, after.bound? p = some type → final.bound? p = some type)
    (matched : registry.matchArguments declared actual before = (.ok resolved, after)) :
    registry.matchArguments declared actual final = (.ok resolved, final) := by
  induction declared generalizing actual resolved before with
  | nil =>
    rw [matchArguments_nil] at matched ⊢
    rw [(Prod.mk.inj matched).1]
  | cons type rest inductionHypothesis =>
    cases actual with
    | nil =>
      rw [matchArguments_cons_nil] at matched ⊢
      rw [(Prod.mk.inj matched).1]
    | cons first others =>
      obtain ⟨head, tail, between, nested, later, rfl⟩ := matchArguments_cons_eq_ok matched
      -- the bindings in between are not lost by the arguments that follow
      have grows : Bindings.Grows _ between (registry.matchArguments rest others between).2 :=
        matchArguments_grows (fun t _ => sound.matchNested_grows t) others between
      rw [later] at grows
      have headAgain := each type List.mem_cons_self
        (fun p bound found => kept p bound (grows.kept found)) nested
      have tailAgain := inductionHypothesis
        (fun t member => each t (List.mem_cons_of_mem _ member)) later
      simp only [matchArguments_cons, headAgain, tailAgain]

/-- What an open type was matched with it matches again under bindings that keep those of the first
match, and nothing is bound any more. The induction is on the declared type. -/
theorem matchOpen_again {nested : Bool} {declared actual resolved : Ty}
    {before after final : Bindings}
    (kept : ∀ p type, after.bound? p = some type → final.bound? p = some type)
    (matched : registry.matchOpen nested declared actual before = (.ok resolved, after)) :
    registry.matchOpen nested declared actual final = (.ok resolved, final) := by
  induction declared using Ty.induction generalizing nested actual resolved before after final with
  | primitive p => simp [matchOpen] at matched
  | object => simp [matchOpen] at matched
  | delegate => simp [matchOpen] at matched
  | parameter p =>
    rw [matchOpen] at matched ⊢
    exact matchParameter_again kept matched
  | named id arguments inductionHypothesis =>
    obtain ⟨sameDefinition, actualArguments, resolvedArguments, found, deeper, rfl⟩ :=
      matchOpen_named_eq_ok matched
    have again := sound.matchArguments_again
      (fun type member _ _ _ _ _ keptHere => matchNested_again_of keptHere
        (inductionHypothesis type member keptHere)) kept deeper
    rw [matchOpen, if_neg fun refused => refused.2 (sameDefinition refused.1)]
    simp only [found, again]

/-- A match that has succeeded answers the same with whatever bindings say as much as it left, and
leaves them as they are. -/
theorem matchType_again {contravariant : Bool} {declared actual resolved : Ty}
    {before after final : Bindings}
    (kept : ∀ p type, after.bound? p = some type → final.bound? p = some type)
    (matched : registry.matchType contravariant declared actual before = (.ok resolved, after)) :
    registry.matchType contravariant declared actual final = (.ok resolved, final) := by
  cases opened : declared.isOpen with
  | true =>
    rw [matchType_of_open opened] at matched ⊢
    exact sound.matchOpen_again kept matched
  | false =>
    obtain ⟨rfl, rfl, admitted⟩ := matchType_closed_eq_ok opened matched
    rw [matchType, if_neg (by simp [opened])]
    simp only [admitted, if_true]

/-! ## What a match binds -/

/-- What an argument offers in a nested place, the named type offers that it was seen through. -/
theorem offers_named {nested : Bool} {id : DefinitionId} {arguments actualArguments : List Ty}
    {actual : Ty} (sameDefinition : nested = true → actual.definition? = some id)
    (found : registry.instantiation? actual id = some actualArguments) {type argument : Ty}
    (member : type ∈ arguments) (listed : argument ∈ actualArguments) {p : Parameter} {part : Ty}
    (offered : registry.Offers true type argument p part) :
    registry.Offers nested (.named id arguments) actual p part := by
  obtain ⟨occurs, place⟩ := offered
  have within : part.Inside (.named id actualArguments) := by
    rcases place with rfl | ⟨above, -, itself, deep⟩
    · exact .argument listed
    · exact .deeper listed (itself rfl ▸ deep)
  have alone : nested = true → Ty.named id actualArguments = actual := by
    intro deep
    obtain ⟨others, rfl⟩ := Ty.definition?_eq_some_iff.mp (sameDefinition deep)
    rw [sound.instantiation?_self] at found
    rw [Option.some.inj found]
  exact ⟨by simpa using ⟨type, member, occurs⟩,
    Or.inr ⟨_, sound.reaches_of_instantiation? found, alone, within⟩⟩

/-- Whatever a match binds was offered to it by the actual type. -/
theorem matchType_offers (contravariant : Bool) (declared actual : Ty) (bindings : Bindings) :
    Bindings.Grows (registry.Offers false declared actual) bindings
      (registry.matchType contravariant declared actual bindings).2 := by
  rw [matchType]
  split
  · refine matchOpen_grows_of registry.Offers ?_ ?_ false declared actual bindings
    · exact fun _ p actual => ⟨by simp, Or.inl rfl⟩
    · intro _ _ _ _ _ sameDefinition found type member argument listed p part offered
      exact sound.offers_named sameDefinition found member listed offered
  · exact .refl bindings

/-- What a match leaves, whether it succeeds or fails, in either direction and from any bindings.
Whatever was bound is bound to the same type, and whatever was asked for still stands there. A
parameter that was not bound before is one of the declared type, and is bound to the actual type or
to something inside the arguments of a type that the actual one reaches. After a success the same
match gives the same type once more, and changes nothing. -/
theorem first_binding_stands (contravariant : Bool) (declared actual : Ty) (before : Bindings) :
    let result := registry.matchType contravariant declared actual before
    let after := result.2
    (∀ p type, before.bound? p = some type → after.bound? p = some type) ∧
      (∀ p ∈ before.keys, p ∈ after.keys) ∧
      (∀ p type, before.bound? p = none → after.bound? p = some type →
        p ∈ declared.parameters ∧
          (type = actual ∨ ∃ above, registry.Reaches actual above ∧ type.Inside above)) ∧
      ∀ resolved, result.1 = .ok resolved →
        registry.matchType contravariant declared actual after = (.ok resolved, after) := by
  intro result after
  have grows := sound.matchType_offers contravariant declared actual before
  refine ⟨fun p type => grows.kept, fun p => grows.tracked, ?_, ?_⟩
  · intro p type unbound bound
    rcases grows.fresh bound with old | ⟨occurs, place⟩
    · simp [unbound] at old
    · refine ⟨(declared.mem_parameters p).mpr occurs, place.imp_right ?_⟩
      rintro ⟨above, path, -, within⟩
      exact ⟨above, path, within⟩
  · intro resolved succeeded
    have matched : registry.matchType contravariant declared actual before =
        (.ok resolved, after) := Prod.ext succeeded rfl
    exact sound.matchType_again (fun _ _ bound => bound) matched

end WellFormed

/-- The content of a box is bound before the match of the pair fails at its second place, where a
crate has a text and no box. The label, which was asked for, is left unbound. A match of the content
alone with the integers found is then a repetition. -/
theorem crates_content_stands :
    let content : Parameter := ⟨.definition ⟨0⟩, 0⟩
    let label : Parameter := ⟨.definition ⟨1⟩, 0⟩
    let declared := Ty.named ⟨1⟩ [.named ⟨0⟩ [.parameter content], .named ⟨0⟩ [.parameter label]]
    let after : Bindings := ⟨[(label, none), (content, some .i32)]⟩
    crates.WellFormed ∧
      crates.matchType false declared (.named ⟨2⟩ []) ⟨[(label, none)]⟩ =
        (.error (.notAssignable (.named ⟨0⟩ [.parameter label]) .str), after) ∧
      (∃ above, crates.Reaches (.named ⟨2⟩ []) above ∧ Ty.i32.Inside above) ∧
      crates.matchType false (.named ⟨0⟩ [.parameter content]) (.named ⟨0⟩ [.i32]) after =
        (.ok (.named ⟨0⟩ [.i32]), after) := by
  intro content label declared after
  have failed : crates.matchType false declared (.named ⟨2⟩ []) ⟨[(label, none)]⟩ =
      (.error (.notAssignable (.named ⟨0⟩ [.parameter label]) .str), after) := by
    decide
  obtain ⟨-, -, fresh, -⟩ :=
    crates_wellFormed.first_binding_stands false declared (.named ⟨2⟩ []) ⟨[(label, none)]⟩
  obtain ⟨-, place⟩ := fresh content .i32 rfl (by rw [failed]; decide)
  obtain ⟨-, -, -, again⟩ := crates_wellFormed.first_binding_stands false
    (.named ⟨0⟩ [.parameter content]) (.named ⟨0⟩ [.i32]) ⟨[(label, none)]⟩
  exact ⟨crates_wellFormed, failed, place.resolve_left (by decide), again (.named ⟨0⟩ [.i32]) rfl⟩

end Registry

end LateBinding
