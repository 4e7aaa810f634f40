import LateBinding.Proofs.Assignability
import LateBinding.Proofs.Bindings

/-!
# What a match establishes

Matching a declared type with an actual one grows the bindings by parameters of the declared
type and by parts of the actual type, whether or not it succeeds (`matchType_grows`). When it
succeeds, every parameter of the declared type is bound, and the declared type under the
bindings is the actual type itself in a nested place, and a type that the actual one is
assignable to at the outside. The resolved type is the declared one with its definitions'
parameters replaced.

`Proofs.Completeness` has the other direction.
-/
namespace LateBinding

namespace Registry

/-- A type, or at some depth an argument of an instantiation that it reaches: what matching
against the type can bind a parameter to. -/
inductive Part (registry : Registry) : Ty → Ty → Prop
  | self (actual : Ty) : Part registry actual actual
  | argument {actual part argument : Ty} {id : DefinitionId} {arguments : List Ty}
      (path : registry.Reaches actual (.named id arguments)) (inside : argument ∈ arguments)
      (deeper : Part registry argument part) : Part registry actual part

/-- What a match can bind: parameters of the declared type, to parts of the actual one. -/
def Pairs (registry : Registry) (declared actual : Ty) (p : Parameter) (part : Ty) : Prop :=
  p ∈ declared.occurrences ∧ registry.Part actual part

/-- Match one argument of a generic type. -/
def matchNested (registry : Registry) (declared actual : Ty) (bindings : Bindings) :
    Except Mismatch Ty × Bindings :=
  if declared.isOpen then registry.matchOpen true declared actual bindings
  else if declared = actual then (.ok declared, bindings)
  else (.error (.notAssignable declared actual), bindings)

/-- What a match has found out about a declared type. -/
structure Settled (bindings : Bindings) (declared resolved : Ty) : Prop where
  binds : bindings.Binds declared
  resolved : resolved = declared.replace bindings.typeLevel

variable {registry : Registry}

/-- The argument lists are matched from the front, each place as `matchNested` does. -/
theorem matchArguments_cons (declared actual : Ty) (declaredRest actualRest : List Ty)
    (bindings : Bindings) :
    registry.matchArguments (declared :: declaredRest) (actual :: actualRest) bindings =
      match registry.matchNested declared actual bindings with
      | (.error mismatch, after) => (.error mismatch, after)
      | (.ok resolved, after) =>
        match registry.matchArguments declaredRest actualRest after with
        | (.ok resolvedRest, final) => (.ok (resolved :: resolvedRest), final)
        | (.error mismatch, final) => (.error mismatch, final) := by
  rw [matchArguments]
  rfl

/-- Nothing is asked of the arguments beyond the declared ones. -/
theorem matchArguments_nil (actual : List Ty) (bindings : Bindings) :
    registry.matchArguments [] actual bindings = (.ok [], bindings) := by
  rw [matchArguments]
  simp

/-- Nor is anything asked of a declared argument that has no counterpart. -/
theorem matchArguments_cons_nil (declared : Ty) (declaredRest : List Ty) (bindings : Bindings) :
    registry.matchArguments (declared :: declaredRest) [] bindings = (.ok [], bindings) := by
  rw [matchArguments]
  simp

/-- Two lists match when their heads do and then their tails. -/
theorem matchArguments_cons_eq_ok {declared actual : Ty} {declaredRest actualRest : List Ty}
    {before after : Bindings} {resolved : List Ty}
    (matched : registry.matchArguments (declared :: declaredRest) (actual :: actualRest) before =
      (.ok resolved, after)) :
    ∃ first rest between, registry.matchNested declared actual before = (.ok first, between) ∧
      registry.matchArguments declaredRest actualRest between = (.ok rest, after) ∧
      resolved = first :: rest := by
  rw [matchArguments_cons] at matched
  rcases nested : registry.matchNested declared actual before with ⟨mismatch | first, between⟩
  · rw [nested] at matched
    cases (Prod.mk.inj matched).1
  · rw [nested] at matched
    simp only at matched
    rcases later : registry.matchArguments declaredRest actualRest between with
      ⟨mismatch | rest, final⟩
    · rw [later] at matched
      cases (Prod.mk.inj matched).1
    · rw [later] at matched
      obtain ⟨same, rfl⟩ := Prod.mk.inj matched
      exact ⟨first, rest, between, rfl, later, (Except.ok.inj same).symm⟩

/-- A named type matches through an instantiation of its definition. -/
theorem matchOpen_named_eq_ok {nested : Bool} {id : DefinitionId} {arguments : List Ty}
    {actual resolved : Ty} {before after : Bindings}
    (matched : registry.matchOpen nested (.named id arguments) actual before =
      (.ok resolved, after)) :
    (nested = true → actual.definition? = some id) ∧
      ∃ actualArguments resolvedArguments, registry.instantiation? actual id =
          some actualArguments ∧
        registry.matchArguments arguments actualArguments before =
          (.ok resolvedArguments, after) ∧
        resolved = .named id resolvedArguments := by
  rw [matchOpen] at matched
  by_cases other : nested = true ∧ actual.definition? ≠ some id
  · rw [if_pos other] at matched
    cases (Prod.mk.inj matched).1
  · rw [if_neg other] at matched
    refine ⟨fun inside => by simpa [inside] using other, ?_⟩
    cases found : registry.instantiation? actual id with
    | none =>
      rw [found] at matched
      cases (Prod.mk.inj matched).1
    | some actualArguments =>
      rw [found] at matched
      simp only at matched
      rcases deeper : registry.matchArguments arguments actualArguments before with
        ⟨mismatch | resolvedArguments, final⟩
      · rw [deeper] at matched
        cases (Prod.mk.inj matched).1
      · rw [deeper] at matched
        obtain ⟨same, rfl⟩ := Prod.mk.inj matched
        exact ⟨actualArguments, resolvedArguments, rfl, deeper, (Except.ok.inj same).symm⟩

/-- A parameter is bound where it is met first. Else its binding has to be the actual type, or,
at the outside, one that the actual type is assignable to. -/
theorem matchParameter_eq_ok {nested : Bool} {parameter : Parameter} {actual resolved : Ty}
    {before after : Bindings}
    (matched : registry.matchParameter nested parameter actual before = (.ok resolved, after)) :
    ∃ bound, after.bound? parameter = some bound ∧
      resolved = resolvedParameter parameter bound ∧
      (bound = actual ∨ nested = false ∧ registry.isAssignable actual bound = true) := by
  rw [matchParameter] at matched
  cases found : before.bound? parameter with
  | none =>
    rw [found] at matched
    obtain ⟨same, rfl⟩ := Prod.mk.inj matched
    exact ⟨actual, before.bound?_bind_self parameter actual, (Except.ok.inj same).symm, Or.inl rfl⟩
  | some bound =>
    rw [found] at matched
    simp only at matched
    by_cases admitted : bound = actual ∨ nested = false ∧ registry.isAssignable actual bound = true
    · rw [if_pos admitted] at matched
      obtain ⟨same, rfl⟩ := Prod.mk.inj matched
      exact ⟨bound, found, (Except.ok.inj same).symm, admitted⟩
    · rw [if_neg admitted] at matched
      cases (Prod.mk.inj matched).1

/-! ## Growth -/

section Growth

variable {allowed : Ty → Ty → Parameter → Ty → Prop}

/-- A parameter is the only one that its match binds, to the actual type. -/
theorem matchParameter_grows (nested : Bool) (parameter : Parameter) (actual : Ty)
    (bindings : Bindings) :
    Bindings.Grows (fun p part => p = parameter ∧ part = actual) bindings
      (registry.matchParameter nested parameter actual bindings).2 := by
  rw [matchParameter]
  cases found : bindings.bound? parameter with
  | none => exact Bindings.grows_bind found actual
  | some bound =>
    simp only
    split <;> exact .refl bindings

/-- In a nested place only the match of an open type can grow the bindings. -/
theorem matchNested_grows_of {declared actual : Ty} {bindings : Bindings}
    (opened : Bindings.Grows (allowed declared actual) bindings
      (registry.matchOpen true declared actual bindings).2) :
    Bindings.Grows (allowed declared actual) bindings
      (registry.matchNested declared actual bindings).2 := by
  rw [matchNested]
  split
  · exact opened
  · split <;> exact .refl bindings

/-- If matching the arguments one by one grows the bindings, so does matching the lists. -/
theorem matchArguments_grows {declared : List Ty}
    (each : ∀ type ∈ declared, ∀ actual bindings, Bindings.Grows (allowed type actual)
      bindings (registry.matchNested type actual bindings).2)
    (actual : List Ty) (bindings : Bindings) :
    Bindings.Grows
      (fun p part => ∃ type ∈ declared, ∃ argument ∈ actual, allowed type argument p part) bindings
      (registry.matchArguments declared actual bindings).2 := by
  induction declared generalizing actual bindings with
  | nil =>
    rw [matchArguments_nil]
    exact .refl bindings
  | cons type rest inductionHypothesis =>
    cases actual with
    | nil =>
      rw [matchArguments_cons_nil]
      exact .refl bindings
    | cons first others =>
      have head : Bindings.Grows (fun p part =>
          ∃ t ∈ type :: rest, ∃ argument ∈ first :: others, allowed t argument p part)
          bindings (registry.matchNested type first bindings).2 := by
        apply (each type List.mem_cons_self first bindings).mono
        intro p part bound
        exact ⟨type, List.mem_cons_self, first, List.mem_cons_self, bound⟩
      have tail : ∀ between, Bindings.Grows (fun p part =>
          ∃ t ∈ type :: rest, ∃ argument ∈ first :: others, allowed t argument p part)
          between (registry.matchArguments rest others between).2 := by
        intro between
        have eachRest := fun t member => each t (List.mem_cons_of_mem _ member)
        apply (inductionHypothesis eachRest others between).mono
        rintro p part ⟨t, member, argument, inside, bound⟩
        exact ⟨t, List.mem_cons_of_mem _ member, argument, List.mem_cons_of_mem _ inside, bound⟩
      rw [matchArguments_cons]
      rcases first? : registry.matchNested type first bindings with ⟨mismatch | resolved, between⟩
      · rwa [first?] at head
      · rw [first?] at head
        have later := tail between
        simp only
        -- the bindings are the same whether the rest matches or not
        rcases rest? : registry.matchArguments rest others between with ⟨_ | _, final⟩ <;>
        · rw [rest?] at later
          exact head.trans later

end Growth

/-- Matching grows the bindings by pairs of any sort that has a parameter with its actual type, and
that has the pairs of an argument among those of the named type seen through it. -/
theorem matchOpen_grows_of (allowed : Bool → Ty → Ty → Parameter → Ty → Prop)
    (here : ∀ nested p actual, allowed nested (.parameter p) actual p actual)
    (inside : ∀ {nested id arguments actual actualArguments},
      (nested = true → actual.definition? = some id) →
      registry.instantiation? actual id = some actualArguments →
      ∀ type ∈ arguments, ∀ argument ∈ actualArguments, ∀ p part,
        allowed true type argument p part → allowed nested (.named id arguments) actual p part)
    (nested : Bool) (declared actual : Ty) (bindings : Bindings) :
    Bindings.Grows (allowed nested declared actual) bindings
      (registry.matchOpen nested declared actual bindings).2 := by
  induction declared using Ty.induction generalizing nested actual bindings with
  | primitive p => exact .refl bindings
  | object => exact .refl bindings
  | delegate => exact .refl bindings
  | parameter p =>
    apply (matchParameter_grows nested p actual bindings).mono
    rintro _ _ ⟨rfl, rfl⟩
    exact here nested _ _
  | named id arguments inductionHypothesis =>
    have each : ∀ type ∈ arguments, ∀ other before, Bindings.Grows (allowed true type other)
        before (registry.matchNested type other before).2 := by
      intro type member other before
      exact matchNested_grows_of (inductionHypothesis type member true other before)
    rw [matchOpen]
    by_cases other : nested = true ∧ actual.definition? ≠ some id
    · rw [if_pos other]
      exact .refl bindings
    · rw [if_neg other]
      cases found : registry.instantiation? actual id with
      | none => exact .refl bindings
      | some actualArguments =>
        have sameDefinition : nested = true → actual.definition? = some id :=
          fun deep => by simpa [deep] using other
        have inner : Bindings.Grows (allowed nested (.named id arguments) actual) bindings
            (registry.matchArguments arguments actualArguments bindings).2 := by
          apply (matchArguments_grows each actualArguments bindings).mono
          rintro p part ⟨type, member, argument, listed, bound⟩
          exact inside sameDefinition found type member argument listed p part bound
        simp only
        rcases matched : registry.matchArguments arguments actualArguments bindings with
          ⟨_ | _, after⟩ <;>
        rwa [matched] at inner

/-! ## A parameter -/

/-- A match of a parameter settles it. -/
theorem settled_parameter {nested : Bool} {parameter : Parameter} {actual resolved : Ty}
    {before after : Bindings} (distinct : before.keys.Nodup)
    (matched : registry.matchParameter nested parameter actual before = (.ok resolved, after)) :
    Settled after (.parameter parameter) resolved ∧
      ((Ty.parameter parameter).replace after.all = actual ∨
        nested = false ∧
          registry.isAssignable actual ((Ty.parameter parameter).replace after.all) = true) := by
  have grows : Bindings.Grows _ before (registry.matchParameter nested parameter actual before).2 :=
    matchParameter_grows nested parameter actual before
  rw [matched] at grows
  obtain ⟨bound, found, rfl, admitted⟩ := matchParameter_eq_ok matched
  have afterDistinct := grows.distinct distinct
  refine ⟨⟨?_, ?_⟩, ?_⟩
  · intro p occurs
    obtain rfl : p = parameter := by simpa using occurs
    exact ⟨bound, found⟩
  · rw [Ty.replace_parameter, Bindings.image_typeLevel afterDistinct found]
  · rwa [Ty.replace_parameter, Bindings.image_all afterDistinct found]

/-! ## A closed declared type -/

/-- Nothing is asked of the bindings by a closed type. -/
theorem settled_of_closed {declared : Ty} (closed : declared.isOpen = false)
    (bindings : Bindings) : Settled bindings declared declared where
  binds := by
    intro p occurs
    rw [(Ty.isOpen_eq_false_iff declared).mp closed] at occurs
    simp at occurs
  resolved := (Ty.replace_of_closed _ closed).symm

/-- In a nested place a closed declared type admits itself only. -/
theorem matchNested_closed {declared actual resolved : Ty} {before after : Bindings}
    (closed : declared.isOpen = false)
    (matched : registry.matchNested declared actual before = (.ok resolved, after)) :
    Settled after declared resolved ∧ declared.replace after.all = actual := by
  rw [matchNested, if_neg (by simp [closed])] at matched
  by_cases same : declared = actual
  · rw [if_pos same] at matched
    obtain ⟨equal, rfl⟩ := Prod.mk.inj matched
    obtain rfl := Except.ok.inj equal
    exact ⟨settled_of_closed closed before, (Ty.replace_of_closed _ closed).trans same⟩
  · rw [if_neg same] at matched
    cases (Prod.mk.inj matched).1

/-- An open declared type is matched in the same way whatever the direction. -/
theorem matchType_of_open {declared : Ty} (opened : declared.isOpen = true) (contravariant : Bool)
    (actual : Ty) (bindings : Bindings) :
    registry.matchType contravariant declared actual bindings =
      registry.matchOpen false declared actual bindings := by
  rw [matchType, if_pos opened]

/-- A closed declared type is a question of assignability in the direction asked for. -/
theorem matchType_closed_eq_ok {contravariant : Bool} {declared actual resolved : Ty}
    {before after : Bindings} (closed : declared.isOpen = false)
    (matched : registry.matchType contravariant declared actual before = (.ok resolved, after)) :
    after = before ∧ resolved = declared ∧
      (if contravariant then registry.isAssignable declared actual
        else registry.isAssignable actual declared) = true := by
  rw [matchType, if_neg (by simp [closed])] at matched
  obtain ⟨verdict, rfl⟩ := Prod.mk.inj matched
  generalize (if contravariant = true then registry.isAssignable declared actual
    else registry.isAssignable actual declared) = admitted at verdict ⊢
  cases admitted with
  | true => exact ⟨rfl, (Except.ok.inj verdict).symm, rfl⟩
  | false => simp at verdict

namespace WellFormed

variable (sound : registry.WellFormed)
include sound

/-- Matching binds parameters of the declared type to parts of the actual one, and forgets
nothing. This holds also of a match that fails half way. -/
theorem matchOpen_grows (nested : Bool) (declared actual : Ty) (bindings : Bindings) :
    Bindings.Grows (registry.Pairs declared actual) bindings
      (registry.matchOpen nested declared actual bindings).2 := by
  refine matchOpen_grows_of (fun _ => registry.Pairs) ?_ ?_ nested declared actual bindings
  · exact fun _ p actual => ⟨by simp, .self actual⟩
  · rintro _ id arguments actual actualArguments - found type member argument inside p part
      ⟨occurs, deep⟩
    exact ⟨by simpa using ⟨type, member, occurs⟩,
      .argument (sound.reaches_of_instantiation? found) inside deep⟩

/-- The same in a nested place. -/
theorem matchNested_grows (declared actual : Ty) (bindings : Bindings) :
    Bindings.Grows (registry.Pairs declared actual) bindings
      (registry.matchNested declared actual bindings).2 :=
  matchNested_grows_of (sound.matchOpen_grows true declared actual bindings)

/-- The same of any declared type, in either direction; a closed one binds nothing. -/
theorem matchType_grows (contravariant : Bool) (declared actual : Ty) (bindings : Bindings) :
    Bindings.Grows (registry.Pairs declared actual) bindings
      (registry.matchType contravariant declared actual bindings).2 := by
  rw [matchType]
  split
  · exact sound.matchOpen_grows false declared actual bindings
  · exact .refl bindings

/-! ## Parts -/

/-- The parts of a well-applied type mention no parameter that the type does not mention. -/
theorem occurrences_part {actual part : Ty} (applied : registry.wellApplied actual = true)
    (deep : registry.Part actual part) {p : Parameter} (occurs : p ∈ part.occurrences) :
    p ∈ actual.occurrences := by
  induction deep with
  | self actual => exact occurs
  | argument path inside _ inductionHypothesis =>
    have instanceApplied := sound.wellApplied_of_reaches applied path
    have mentioned := inductionHypothesis
      (wellApplied_argument instanceApplied inside) occurs
    apply sound.occurrences_of_reaches applied path
    rw [Ty.occurrences_named, List.mem_flatMap]
    exact ⟨_, inside, mentioned⟩

/-- The parts of a well-applied type are well applied. -/
theorem wellApplied_part {actual part : Ty} (applied : registry.wellApplied actual = true)
    (deep : registry.Part actual part) : registry.wellApplied part = true := by
  induction deep with
  | self actual => exact applied
  | argument path inside _ inductionHypothesis =>
    exact inductionHypothesis
      (wellApplied_argument (sound.wellApplied_of_reaches applied path) inside)

/-- A closed type has closed parts, also those that are found in what stands above it. -/
theorem isOpen_part {actual part : Ty} (applied : registry.wellApplied actual = true)
    (closed : actual.isOpen = false) (deep : registry.Part actual part) : part.isOpen = false := by
  rw [Ty.isOpen_eq_false_iff, List.eq_nil_iff_forall_not_mem] at closed ⊢
  exact fun p occurs => closed p (sound.occurrences_part applied deep occurs)

/-! ## A successful match -/

/-- If a match of each argument recovers its actual type, a match of the lists recovers the
actual list. -/
theorem matchArguments_recovers {declared actual : List Ty}
    (each : ∀ type ∈ declared, ∀ {other resolved before after},
      registry.wellApplied other = true → before.keys.Nodup →
      registry.matchNested type other before = (.ok resolved, after) →
      Settled after type resolved ∧ type.replace after.all = other)
    (applied : ∀ other ∈ actual, registry.wellApplied other = true)
    (count : declared.length = actual.length) {before after : Bindings} {resolved : List Ty}
    (distinct : before.keys.Nodup)
    (matched : registry.matchArguments declared actual before = (.ok resolved, after)) :
    (∀ type ∈ declared, after.Binds type) ∧
      resolved = declared.map (Ty.replace after.typeLevel) ∧
      declared.map (Ty.replace after.all) = actual := by
  induction declared generalizing actual before resolved with
  | nil =>
    obtain rfl : actual = [] := by simpa using count.symm
    rw [matchArguments_nil] at matched
    obtain ⟨same, rfl⟩ := Prod.mk.inj matched
    exact ⟨by simp, (Except.ok.inj same).symm, rfl⟩
  | cons type rest inductionHypothesis =>
    cases actual with
    | nil => simp at count
    | cons first others =>
      obtain ⟨head, tail, between, nested, later, rfl⟩ := matchArguments_cons_eq_ok matched
      obtain ⟨settled, recovered⟩ := each type List.mem_cons_self
        (applied first List.mem_cons_self) distinct nested
      have toBetween := sound.matchNested_grows type first before
      rw [nested] at toBetween
      have betweenDistinct := toBetween.distinct distinct
      have toAfter : Bindings.Grows _ between (registry.matchArguments rest others between).2 :=
        matchArguments_grows (fun t _ => sound.matchNested_grows t) others between
      rw [later] at toAfter
      obtain ⟨binds, resolvedRest, recoveredRest⟩ := inductionHypothesis
        (fun t member => each t (List.mem_cons_of_mem _ member))
        (fun t member => applied t (List.mem_cons_of_mem _ member)) (by simpa using count)
        betweenDistinct later
      have headKept := Bindings.replace_all_of_grows toAfter betweenDistinct settled.binds
      have typeKept := Bindings.replace_typeLevel_of_grows toAfter betweenDistinct settled.binds
      refine ⟨?_, ?_, ?_⟩
      · intro t member
        rcases List.mem_cons.mp member with rfl | inRest
        · exact toAfter.binds settled.binds
        · exact binds t inRest
      · rw [List.map_cons, settled.resolved, typeKept, resolvedRest]
      · rw [List.map_cons, headKept, recovered, recoveredRest]

/-- If a match of each argument recovers its actual type, a match of the named type recovers the
instantiation that the actual type was seen through. -/
theorem matchOpen_named_recovers {nested : Bool} {id : DefinitionId} {arguments : List Ty}
    (each : ∀ type ∈ arguments, ∀ {other resolved before after},
      registry.wellApplied other = true → before.keys.Nodup →
      registry.matchNested type other before = (.ok resolved, after) →
      Settled after type resolved ∧ type.replace after.all = other)
    {actual resolved : Ty} {before after : Bindings}
    (declaredApplied : registry.wellApplied (.named id arguments) = true)
    (applied : registry.wellApplied actual = true) (distinct : before.keys.Nodup)
    (matched : registry.matchOpen nested (.named id arguments) actual before =
      (.ok resolved, after)) :
    Settled after (.named id arguments) resolved ∧
      (nested = true → actual.definition? = some id) ∧
      ∃ actualArguments, registry.instantiation? actual id = some actualArguments ∧
        (Ty.named id arguments).replace after.all = .named id actualArguments := by
  obtain ⟨sameDefinition, actualArguments, resolvedArguments, found, deeper, rfl⟩ :=
    matchOpen_named_eq_ok matched
  have instanceApplied :=
    sound.wellApplied_of_reaches applied (sound.reaches_of_instantiation? found)
  obtain ⟨⟨definition, stored, count⟩, _⟩ :=
    (registry.wellApplied_named_iff _ _).mp declaredApplied
  have actualCount := length_of_wellApplied instanceApplied stored
  obtain ⟨binds, rfl, recovered⟩ := sound.matchArguments_recovers each
    (fun _ inside => wellApplied_argument instanceApplied inside)
    (count.symm.trans actualCount) distinct deeper
  refine ⟨⟨?_, (Ty.replace_named _ _ _).symm⟩, sameDefinition, actualArguments, found, ?_⟩
  · intro p occurs
    obtain ⟨type, member, inside⟩ := List.mem_flatMap.mp (by simpa using occurs)
    exact binds type member p inside
  · rw [Ty.replace_named, recovered]

/-- A declared type that matches in a nested place is the actual type under the bindings. -/
theorem matchNested_recovers {declared actual resolved : Ty} {before after : Bindings}
    (declaredApplied : registry.wellApplied declared = true)
    (applied : registry.wellApplied actual = true) (distinct : before.keys.Nodup)
    (matched : registry.matchNested declared actual before = (.ok resolved, after)) :
    Settled after declared resolved ∧ declared.replace after.all = actual := by
  induction declared using Ty.induction generalizing actual resolved before after with
  | primitive p => exact matchNested_closed rfl matched
  | object => exact matchNested_closed rfl matched
  | delegate => exact matchNested_closed rfl matched
  | parameter p =>
    obtain ⟨settled, recovered | ⟨outside, _⟩⟩ := settled_parameter distinct matched
    · exact ⟨settled, recovered⟩
    · simp at outside
  | named id arguments inductionHypothesis =>
    cases opened : (Ty.named id arguments).isOpen with
    | false => exact matchNested_closed opened matched
    | true =>
      rw [matchNested, if_pos opened] at matched
      obtain ⟨settled, sameDefinition, actualArguments, found, recovered⟩ :=
        sound.matchOpen_named_recovers (fun type member _ _ _ _ otherApplied otherDistinct later =>
            inductionHypothesis type member (wellApplied_argument declaredApplied member)
              otherApplied otherDistinct later)
          declaredApplied applied distinct matched
      obtain ⟨others, rfl⟩ := Ty.definition?_eq_some_iff.mp (sameDefinition rfl)
      obtain rfl : others = actualArguments :=
        Option.some.inj ((sound.instantiation?_self id others).symm.trans found)
      exact ⟨settled, recovered⟩

/-- A declared type that matches at the outside admits the actual type under the bindings. -/
theorem matchOpen_admits {declared actual resolved : Ty} {before after : Bindings}
    (declaredApplied : registry.wellApplied declared = true)
    (applied : registry.wellApplied actual = true) (distinct : before.keys.Nodup)
    (matched : registry.matchOpen false declared actual before = (.ok resolved, after)) :
    Settled after declared resolved ∧
      registry.isAssignable actual (declared.replace after.all) = true := by
  cases declared with
  | primitive p => simp [matchOpen] at matched
  | object => simp [matchOpen] at matched
  | delegate => simp [matchOpen] at matched
  | parameter p =>
    rw [matchOpen] at matched
    obtain ⟨settled, recovered | ⟨_, admitted⟩⟩ := settled_parameter distinct matched
    · exact ⟨settled, by rw [recovered, isAssignable_self]⟩
    · exact ⟨settled, admitted⟩
  | named id arguments =>
    obtain ⟨settled, -, actualArguments, found, recovered⟩ :=
      sound.matchOpen_named_recovers (fun type member _ _ _ _ otherApplied otherDistinct later =>
          sound.matchNested_recovers (wellApplied_argument declaredApplied member) otherApplied
            otherDistinct later)
        declaredApplied applied distinct matched
    refine ⟨settled, ?_⟩
    rw [recovered]
    exact sound.isAssignable_of_reaches (sound.reaches_of_instantiation? found)

/-- A successful match settles the declared type, whatever the direction. -/
theorem matchType_settles {contravariant : Bool} {declared actual resolved : Ty}
    {before after : Bindings} (declaredApplied : registry.wellApplied declared = true)
    (applied : registry.wellApplied actual = true) (distinct : before.keys.Nodup)
    (matched : registry.matchType contravariant declared actual before = (.ok resolved, after)) :
    Settled after declared resolved := by
  cases opened : declared.isOpen with
  | true =>
    rw [matchType_of_open opened] at matched
    exact (sound.matchOpen_admits declaredApplied applied distinct matched).1
  | false =>
    obtain ⟨rfl, rfl, _⟩ := matchType_closed_eq_ok opened matched
    exact settled_of_closed opened after

/-- In the usual direction it admits the actual type under the bindings. -/
theorem isAssignable_of_matchType {declared actual resolved : Ty} {before after : Bindings}
    (declaredApplied : registry.wellApplied declared = true)
    (applied : registry.wellApplied actual = true) (distinct : before.keys.Nodup)
    (matched : registry.matchType false declared actual before = (.ok resolved, after)) :
    registry.isAssignable actual (declared.replace after.all) = true := by
  cases opened : declared.isOpen with
  | true =>
    rw [matchType_of_open opened] at matched
    exact (sound.matchOpen_admits declaredApplied applied distinct matched).2
  | false =>
    obtain ⟨_, _, admitted⟩ := matchType_closed_eq_ok opened matched
    simpa [Ty.replace_of_closed _ opened] using admitted

/-- A constructed type with parameters becomes the instantiation that the actual type was seen
through. -/
theorem instantiation?_of_matchType {id : DefinitionId} {arguments : List Ty}
    {actual resolved : Ty} {before after : Bindings}
    (declaredApplied : registry.wellApplied (.named id arguments) = true)
    (applied : registry.wellApplied actual = true) (distinct : before.keys.Nodup)
    (opened : (Ty.named id arguments).isOpen = true)
    (matched : registry.matchType false (.named id arguments) actual before =
      (.ok resolved, after)) :
    registry.instantiation? actual id = some (arguments.map (Ty.replace after.all)) := by
  rw [matchType_of_open opened] at matched
  obtain ⟨-, -, actualArguments, found, recovered⟩ :=
    sound.matchOpen_named_recovers (fun type member _ _ _ _ otherApplied otherDistinct later =>
        sound.matchNested_recovers (wellApplied_argument declaredApplied member) otherApplied
          otherDistinct later)
      declaredApplied applied distinct matched
  rw [Ty.replace_named] at recovered
  rw [found, (Ty.named.inj recovered).2]

/-- What a successful match in the usual direction establishes, whatever was bound before it: every
parameter of the declared type is bound, the actual type is assignable to the declared type under
the bindings, and the resolved type has its definitions' parameters replaced and its methods' own
left. Inside an argument list nothing but equality will do, so a constructed type with parameters
becomes the very instantiation that the actual type was seen through. -/
theorem matchType_exact {declared actual resolved : Ty} {before after : Bindings}
    (declaredApplied : registry.wellApplied declared = true)
    (applied : registry.wellApplied actual = true) (distinct : before.keys.Nodup)
    (matched : registry.matchType false declared actual before = (.ok resolved, after)) :
    after.Binds declared ∧
      registry.isAssignable actual (declared.substitute after.all) = true ∧
      resolved = declared.substitute after.typeLevel ∧
      ∀ id arguments, declared = .named id arguments → declared.isOpen = true →
        registry.instantiation? actual id = some (arguments.map (Ty.substitute after.all)) ∧
          registry.Reaches actual (declared.substitute after.all) := by
  have settled := sound.matchType_settles declaredApplied applied distinct matched
  have admitted := sound.isAssignable_of_matchType declaredApplied applied distinct matched
  refine ⟨settled.binds, by simpa using admitted, by simpa using settled.resolved, ?_⟩
  rintro id arguments rfl opened
  have found := sound.instantiation?_of_matchType declaredApplied applied distinct opened matched
  refine ⟨by simpa using found, ?_⟩
  rw [Ty.substitute_eq_replace, Ty.replace_named]
  exact sound.reaches_of_instantiation? found

end WellFormed

/-! ## A parameter that is bound outside and compared inside -/

/-- Boxes, pairs, and a pair of a box and a name. -/
def crates : Registry := .ofDefinitions [
  { name := "Box", kind := .classType, generics := ["T"] },
  { name := "Pair", kind := .classType, generics := ["A", "B"] },
  { name := "Crate", kind := .classType,
    base := some (.named ⟨1⟩ [.named ⟨0⟩ [.primitive .i32], .primitive .str]) }]

/-- The crate is a pair of closed types. -/
theorem crates_wellFormed : crates.WellFormed :=
  .of_definitions _ (by decide) (by decide)

/-- A pair of a box and a method's own parameter is matched with a crate when the content of the box
is bound already. The bound parameter is compared with what stands inside the box above the crate,
and the method's own is bound but stays in the resolved type. -/
theorem crates_match :
    let content : Parameter := ⟨.definition ⟨0⟩, 0⟩
    let label : Parameter := ⟨.member ⟨⟨1⟩, 0⟩, 0⟩
    let declared := Ty.named ⟨1⟩ [.named ⟨0⟩ [.parameter content], .parameter label]
    let after : Bindings := ⟨[(content, some (.primitive .i32)), (label, some (.primitive .str))]⟩
    crates.matchType false declared (.named ⟨2⟩ []) ⟨[(content, some (.primitive .i32))]⟩ =
        (.ok (.named ⟨1⟩ [.named ⟨0⟩ [.primitive .i32], .parameter label]), after) ∧
      crates.Reaches (.named ⟨2⟩ []) (declared.substitute after.all) := by
  intro content label declared after
  have matched : crates.matchType false declared (.named ⟨2⟩ [])
      ⟨[(content, some (.primitive .i32))]⟩ =
        (.ok (.named ⟨1⟩ [.named ⟨0⟩ [.primitive .i32], .parameter label]), after) := by
    decide
  obtain ⟨-, -, -, instantiates⟩ := crates_wellFormed.matchType_exact (by decide) (by decide)
    (by decide) matched
  exact ⟨matched, (instantiates _ _ rfl rfl).2⟩

end Registry

end LateBinding
