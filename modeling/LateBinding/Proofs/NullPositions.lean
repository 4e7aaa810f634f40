import LateBinding.Proofs.Unification
import Mathlib.Data.List.InsertIdx
import Mathlib.Data.List.Perm.Basic

/-!
# Where a null stands

Null binds nothing. The position of a null is looked at twice: when the arguments are matched in
order, against the declared type as it is written, and at the end, if that type has parameters,
against what it has become. All other positions bind parameters for the ones after them, so that in
general their order decides. A null with its declared type can be moved to any other place: a match
stays a match, with the same arguments, and a failure stays a failure. Which failure it is may
change, for it is the first one met that is reported, with its position.

Of the types themselves unification only wants to know how a declared one is matched with an actual
one, and which ones null is no value of. So the law is proved for whatever answers these two
questions, and a registry is one that does.
-/
namespace LateBinding

/-- What unification asks about types. Everything that is said about subtypes and about instances of
definitions enters through the matching of two types, which may be any function. -/
structure Host where
  isValueType : Ty → Bool
  matchType : (contravariant : Bool) → (declared actual : Ty) → Bindings →
    Except Mismatch Ty × Bindings

namespace Host

/-- Match the receiver, which only instance members other than constructors have. -/
def matchReceiver (host : Host) (member : Member) (receiver : Option Ty)
    (bindings : Bindings) : Except MatchFailure Bindings :=
  match receiver with
  | none => .ok bindings
  | some type =>
    if member.isStatic ∨ member.kind = .constructor then .ok bindings
    else match host.matchType false member.declaring type bindings with
      | (.ok _, after) => .ok after
      | (.error mismatch, _) => .error (.receiver mismatch)

/-- Match the member's type with what is expected of it. -/
def matchResult (host : Host) (member : Member) (expectation : Expectation)
    (position : Nat) (bindings : Bindings) : Except MatchFailure Bindings :=
  if member.hasValueFor expectation then
    match expectation with
    | .any => .ok bindings
    | .returns type => match host.matchType true member.type type bindings with
      | (.ok _, after) => .ok after
      | (.error mismatch, _) => .error (.returnType mismatch)
    | .accepts (some type) => match host.matchType false member.type type bindings with
      | (.ok _, after) => .ok after
      | (.error mismatch, _) => .error (.returnType mismatch)
    | .accepts none =>
      if host.isValueType member.type then .error (.nullToValueType position)
      else .ok bindings
  else .ok bindings

/-- Match the arguments in order. -/
def matchParameters (host : Host) :
    (position : Nat) → (declared : List Ty) → (actual : List (Option Ty)) → Bindings →
      Except MatchFailure (Bindings × List Ty)
  | position, declared :: declaredRest, none :: actualRest, bindings =>
    if host.isValueType declared then .error (.nullToValueType position)
    else match host.matchParameters (position + 1) declaredRest actualRest bindings with
      | .ok (after, resolved) => .ok (after, declared :: resolved)
      | .error failure => .error failure
  | position, declared :: declaredRest, some type :: actualRest, bindings =>
    match host.matchType false declared type bindings with
    | (.error mismatch, _) => .error (.argument position mismatch)
    | (.ok first, between) =>
      match host.matchParameters (position + 1) declaredRest actualRest between with
      | .ok (after, resolved) => .ok (after, first :: resolved)
      | .error failure => .error failure
  | _, _, _, bindings => .ok (bindings, [])

/-- What is left to do when everything is matched. -/
def conclude (host : Host) (member : Member) (arguments : List (Option Ty))
    (expectation : Expectation) (bindings : Bindings) (parameterTypes : List Ty) :
    Except MatchFailure Match := do
  match bindings.firstUnbound? with
  | some parameter => throw (.unbound parameter)
  | none => pure ()
  match (Registry.deferredNulls member arguments expectation).find? fun (_, type) =>
      host.isValueType (type.substitute bindings.all) with
  | some (position, _) => throw (.nullToValueType position)
  | none => pure ()
  pure
    { typeArguments := member.declaring.arguments.map (Ty.substitute bindings.typeLevel)
      methodArguments := (bindings.resolve? member.wantedMethodParameters).getD []
      parameterTypes := parameterTypes.map (Ty.substitute bindings.typeLevel) }

/-- Unify a member with a call site. -/
def unifyWith (host : Host) (member : Member) (receiver : Option Ty)
    (arguments : List (Option Ty)) (expectation : Expectation) : Except MatchFailure Match := do
  if member.parameters.length ≠ arguments.length then
    throw (.arity member.parameters.length arguments.length)
  let seeded := Bindings.seedAll .empty member.wantedParameters
  let received ← host.matchReceiver member receiver seeded
  let expected ← host.matchResult member expectation arguments.length received
  let (bindings, parameterTypes) ← host.matchParameters 0 member.parameters arguments expected
  host.conclude member arguments expectation bindings parameterTypes

end Host

namespace Registry

/-- A registry answers from its definitions. -/
def host (registry : Registry) : Host := ⟨registry.isValueType, registry.matchType⟩

/-- The registry's own matching is that of its host. The two run through the same steps, as the host
answers for its types as the registry does. -/
theorem matchParameters_eq_host (registry : Registry) (position : Nat) (declared : List Ty)
    (actual : List (Option Ty)) (bindings : Bindings) :
    registry.matchParameters position declared actual bindings =
      registry.host.matchParameters position declared actual bindings := by
  induction declared generalizing position actual bindings with
  | nil => simp only [matchParameters, Host.matchParameters]
  | cons first rest inductionHypothesis =>
    cases actual with
    | nil => simp only [matchParameters, Host.matchParameters]
    | cons argument others =>
      cases argument with
      | none =>
        simp only [matchParameters, Host.matchParameters, inductionHypothesis]
        rfl
      | some type =>
        simp only [matchParameters, Host.matchParameters, inductionHypothesis]
        rfl

/-- Registries unify by these two questions alone. -/
theorem unifyWith_eq_host (registry : Registry) (member : Member) (receiver : Option Ty)
    (arguments : List (Option Ty)) (expectation : Expectation) :
    registry.unifyWith member receiver arguments expectation =
      registry.host.unifyWith member receiver arguments expectation := by
  simp only [unifyWith, Host.unifyWith, matchParameters_eq_host]
  rfl

end Registry

/-! ## Moving an entry -/

variable {α β : Type}

/-- The list in which the entry at one place is moved to another, or to the end if the list does not
go that far. -/
def relocate (source target : Nat) (list : List α) : List α :=
  match list[source]? with
  | some entry => (list.eraseIdx source).insertIdx (min target (list.length - 1)) entry
  | none => list

variable {source target : Nat}

/-- Where there is an entry, the list is the others with this one put in. -/
theorem exists_eq_insertIdx {list : List α} {entry : α} (there : list[source]? = some entry) :
    ∃ rest : List α, source ≤ rest.length ∧ list = rest.insertIdx source entry := by
  obtain ⟨bounded, rfl⟩ := List.getElem?_eq_some_iff.mp there
  refine ⟨list.eraseIdx source, ?_, (List.insertIdx_eraseIdx_getElem bounded).symm⟩
  rw [List.length_eraseIdx_of_lt bounded]
  exact Nat.le_sub_one_of_lt bounded

/-- An entry that was put in at one place is put in at the other. -/
theorem relocate_insertIdx {rest : List α} {entry : α} (within : source ≤ rest.length) :
    relocate source target (rest.insertIdx source entry) =
      rest.insertIdx (min target rest.length) entry := by
  rw [relocate, List.getElem?_insertIdx_self, if_pos within, List.length_insertIdx, if_pos within]
  simp only [List.eraseIdx_insertIdx_self, Nat.add_sub_cancel]

/-- Without an entry at the place there is nothing to move. -/
theorem relocate_of_none {list : List α} (absent : list[source]? = none) :
    relocate source target list = list := by
  rw [relocate, absent]

/-- Moving an entry and then changing every entry is the same in the other order. -/
theorem relocate_map (source target : Nat) (f : α → β) (list : List α) :
    relocate source target (list.map f) = (relocate source target list).map f := by
  cases there : list[source]? with
  | none => rw [relocate_of_none there, relocate_of_none (by simp [there])]
  | some entry =>
    obtain ⟨rest, within, rfl⟩ := exists_eq_insertIdx there
    rw [relocate_insertIdx within, List.map_insertIdx, List.map_insertIdx,
      relocate_insertIdx (by simpa using within), List.length_map]

/-- Moving an entry only changes the order. -/
theorem relocate_perm (list : List α) : (relocate source target list).Perm list := by
  cases there : list[source]? with
  | none => rw [relocate_of_none there]
  | some entry =>
    obtain ⟨rest, within, rfl⟩ := exists_eq_insertIdx there
    rw [relocate_insertIdx within]
    exact (List.perm_insertIdx _ _ (Nat.min_le_right ..)).trans
      (List.perm_insertIdx _ _ within).symm

/-- Lists in which entries are moved alike are zipped as before. -/
theorem zip_relocate {left : List α} {right : List β} (count : left.length = right.length) :
    (relocate source target left).zip (relocate source target right) =
      relocate source target (left.zip right) := by
  have first := relocate_map source target Prod.fst (left.zip right)
  have second := relocate_map source target Prod.snd (left.zip right)
  rw [List.map_fst_zip count.le] at first
  rw [List.map_snd_zip count.ge] at second
  exact (List.zip_of_prod first.symm second.symm).symm

/-- The member in which the type at one place of the parameter list is moved to another. -/
def Member.relocateParameter (source target : Nat) (member : Member) : Member :=
  { member with parameters := relocate source target member.parameters }

/-- The match in which the answer at one place is moved to another. -/
def Match.relocateParameter (source target : Nat) (matched : Match) : Match :=
  { matched with parameterTypes := relocate source target matched.parameterTypes }

/-- The types to look at again are the same wherever the arguments stand, as long as the declared
types stand with them. -/
theorem forall_deferredNulls_relocate (source target : Nat) {member : Member}
    {arguments : List (Option Ty)} (count : member.parameters.length = arguments.length)
    (expectation : Expectation) (passes : Ty → Prop) :
    (∀ entry ∈ Registry.deferredNulls (member.relocateParameter source target)
        (relocate source target arguments) expectation, passes entry.2) ↔
      ∀ entry ∈ Registry.deferredNulls member arguments expectation, passes entry.2 := by
  have places (place : Ty × Option Ty) :
      place ∈ (member.relocateParameter source target).parameters.zip
          (relocate source target arguments) ↔
        place ∈ member.parameters.zip arguments := by
    rw [Member.relocateParameter, zip_relocate count, (relocate_perm _).mem_iff]
  rw [Registry.forall_deferredNulls_iff, Registry.forall_deferredNulls_iff,
    Registry.forall_openNulls_iff, Registry.forall_openNulls_iff]
  simp only [places]
  rfl

namespace Host

variable {host : Host}

/-! ## What is accepted -/

/-- A chain of two steps accepts what both accept. -/
theorem toOption_bind {ε : Type} (first : Except ε α) (next : α → Except ε β) :
    (first >>= next).toOption = first.toOption.bind fun between => (next between).toOption := by
  cases first <;> rfl

/-- A null is accepted or not, and the others have to be accepted after it. -/
theorem matchParameters_none (position : Nat) (type : Ty) (declared : List Ty)
    (actual : List (Option Ty)) (bindings : Bindings) :
    (host.matchParameters position (type :: declared) (none :: actual) bindings).toOption =
      if host.isValueType type then none
      else (host.matchParameters (position + 1) declared actual bindings).toOption.map
        fun outcome => (outcome.1, type :: outcome.2) := by
  rw [matchParameters]
  split
  · rfl
  · cases host.matchParameters (position + 1) declared actual bindings <;> rfl

/-- Any other argument changes the bindings for those after it. -/
theorem matchParameters_some (position : Nat) (type argument : Ty) (declared : List Ty)
    (actual : List (Option Ty)) (bindings : Bindings) :
    (host.matchParameters position (type :: declared) (some argument :: actual) bindings).toOption =
      (host.matchType false type argument bindings).1.toOption.bind fun first =>
        (host.matchParameters (position + 1) declared actual
          (host.matchType false type argument bindings).2).toOption.map
            fun outcome => (outcome.1, first :: outcome.2) := by
  rw [matchParameters]
  obtain ⟨mismatch | first, between⟩ := host.matchType false type argument bindings
  · rfl
  · simp only [Except.toOption, Option.bind_some]
    cases host.matchParameters (position + 1) declared actual between <;> rfl

/-- Where the positions are counted from only shows in failures. -/
theorem matchParameters_position (position other : Nat) (declared : List Ty)
    (actual : List (Option Ty)) (bindings : Bindings) :
    (host.matchParameters position declared actual bindings).toOption =
      (host.matchParameters other declared actual bindings).toOption := by
  induction declared generalizing position other actual bindings with
  | nil => simp only [matchParameters]
  | cons type declared inductionHypothesis =>
    rcases actual with _ | ⟨_ | argument, actual⟩
    · simp only [matchParameters]
    · rw [matchParameters_none, matchParameters_none,
        inductionHypothesis (position + 1) (other + 1)]
    · rw [matchParameters_some, matchParameters_some,
        inductionHypothesis (position + 1) (other + 1)]

/-- A null takes part in the matching by what its declared type is. The others are matched as if it
were not there, and its type stands among their answers as it was declared. -/
theorem matchParameters_insertIdx {declared : List Ty} {actual : List (Option Ty)}
    {place : Nat} (type : Ty) (count : declared.length = actual.length)
    (within : place ≤ declared.length) (position : Nat) (bindings : Bindings) :
    (host.matchParameters position (declared.insertIdx place type) (actual.insertIdx place none)
        bindings).toOption =
      if host.isValueType type then none
      else (host.matchParameters position declared actual bindings).toOption.map
        fun outcome => (outcome.1, outcome.2.insertIdx place type) := by
  induction place generalizing declared actual position bindings with
  | zero =>
    -- the others are counted from one place further on
    rw [List.insertIdx_zero, List.insertIdx_zero, matchParameters_none,
      matchParameters_position (position + 1) position]
    rfl
  | succ place inductionHypothesis =>
    rcases declared with _ | ⟨first, declared⟩
    · simp at within
    have deeper := Nat.le_of_succ_le_succ within
    rcases actual with _ | ⟨_ | argument, actual⟩
    · simp at count
    · rw [List.insertIdx_succ_cons, List.insertIdx_succ_cons, matchParameters_none,
        matchParameters_none, inductionHypothesis (Nat.succ.inj count) deeper]
      split <;> split <;> simp [Function.comp_def]
    · rw [List.insertIdx_succ_cons, List.insertIdx_succ_cons, matchParameters_some,
        matchParameters_some]
      cases (host.matchType false first argument bindings).1.toOption with
      | none => simp
      | some resolved =>
        rw [Option.bind_some, Option.bind_some, inductionHypothesis (Nat.succ.inj count) deeper]
        split <;> simp [Function.comp_def]

/-- There is one answer per declared type. -/
theorem length_of_matchParameters {position : Nat} {declared : List Ty}
    {actual : List (Option Ty)} {bindings : Bindings} {outcome : Bindings × List Ty}
    (count : declared.length = actual.length)
    (matched : (host.matchParameters position declared actual bindings).toOption = some outcome) :
    outcome.2.length = declared.length := by
  induction declared generalizing position actual bindings outcome with
  | nil =>
    obtain rfl : (bindings, []) = outcome := by
      simpa [matchParameters, Except.toOption] using matched
    rfl
  | cons type declared inductionHypothesis =>
    rcases actual with _ | ⟨_ | argument, actual⟩
    · simp at count
    · rw [matchParameters_none, Option.ite_none_left_eq_some] at matched
      obtain ⟨later, rest, rfl⟩ := Option.map_eq_some_iff.mp matched.2
      exact congrArg (· + 1) (inductionHypothesis (Nat.succ.inj count) rest)
    · rw [matchParameters_some] at matched
      obtain ⟨first, -, matched⟩ := Option.bind_eq_some_iff.mp matched
      obtain ⟨later, rest, rfl⟩ := Option.map_eq_some_iff.mp matched
      exact congrArg (· + 1) (inductionHypothesis (Nat.succ.inj count) rest)

/-- A null can be moved with its declared type; its answer moves along. -/
theorem matchParameters_relocate (host : Host) {declared : List Ty} {actual : List (Option Ty)}
    (null : actual[source]? = some none) (target : Nat) (count : declared.length = actual.length)
    (position : Nat) (bindings : Bindings) :
    (host.matchParameters position (relocate source target declared)
        (relocate source target actual) bindings).toOption =
      (host.matchParameters position declared actual bindings).toOption.map
        fun outcome => (outcome.1, relocate source target outcome.2) := by
  obtain ⟨arguments, ofArguments, rfl⟩ := exists_eq_insertIdx null
  obtain ⟨bounded, -⟩ := List.getElem?_eq_some_iff.mp null
  obtain ⟨type, there⟩ : ∃ type, declared[source]? = some type :=
    ⟨_, List.getElem?_eq_getElem (count ▸ bounded)⟩
  obtain ⟨types, ofTypes, rfl⟩ := exists_eq_insertIdx there
  have sameLength : types.length = arguments.length := by
    simpa [List.length_insertIdx, ofArguments, ofTypes] using count
  rw [relocate_insertIdx ofArguments, relocate_insertIdx ofTypes, ← sameLength,
    matchParameters_insertIdx _ sameLength (Nat.min_le_right ..),
    matchParameters_insertIdx _ sameLength ofTypes]
  split
  · rfl
  · cases matched : (host.matchParameters position types arguments bindings).toOption with
    | none => rfl
    | some outcome =>
      have answers := length_of_matchParameters sameLength matched
      simp only [Option.map_some, relocate_insertIdx (answers ▸ ofTypes), answers]

/-! ## Unification -/

/-- What is left to do accepts when no parameter is unbound and no null that is looked at again
stands at a value type. -/
theorem conclude_toOption (member : Member) (arguments : List (Option Ty))
    (expectation : Expectation) (bindings : Bindings) (answers : List Ty) :
    (host.conclude member arguments expectation bindings answers).toOption =
      if bindings.firstUnbound? = none ∧
          ∀ entry ∈ Registry.deferredNulls member arguments expectation,
            host.isValueType (entry.2.substitute bindings.all) = false then
        some
          { typeArguments := member.declaring.arguments.map (Ty.substitute bindings.typeLevel)
            methodArguments := (bindings.resolve? member.wantedMethodParameters).getD []
            parameterTypes := answers.map (Ty.substitute bindings.typeLevel) }
      else none := by
  rw [conclude]
  cases bindings.firstUnbound? with
  | some parameter =>
    simp [throw, throwThe, MonadExceptOf.throw, bind, Except.bind, Except.toOption]
  | none =>
    cases refused : (Registry.deferredNulls member arguments expectation).find? fun entry =>
        host.isValueType (entry.2.substitute bindings.all) with
    | some entry =>
      have valued := List.find?_some refused
      rw [if_neg fun passes => absurd (passes.2 entry (List.mem_of_find?_eq_some refused))
        (Bool.not_eq_false _ ▸ valued)]
      rfl
    | none =>
      rw [if_pos ⟨rfl, fun entry listed =>
        Bool.not_eq_true _ ▸ List.find?_eq_none.mp refused entry listed⟩]
      rfl

/-- So it accepts a null with its declared type at any place alike. -/
theorem conclude_relocate (host : Host) (source target : Nat) {member : Member}
    {arguments : List (Option Ty)} (count : member.parameters.length = arguments.length)
    (expectation : Expectation) (bindings : Bindings) (answers : List Ty) :
    (host.conclude (member.relocateParameter source target) (relocate source target arguments)
        expectation bindings (relocate source target answers)).toOption =
      (host.conclude member arguments expectation bindings answers).toOption.map
        (Match.relocateParameter source target) := by
  have again := forall_deferredNulls_relocate source target count expectation fun type =>
    host.isValueType (type.substitute bindings.all) = false
  rw [conclude_toOption, conclude_toOption]
  simp only [again]
  split
  · simp only [Option.map_some, Match.relocateParameter, ← relocate_map]
    rfl
  · rfl

/-- Unification accepts when the counts agree and every step accepts. -/
theorem unifyWith_toOption (member : Member) (receiver : Option Ty) (arguments : List (Option Ty))
    (expectation : Expectation) :
    (host.unifyWith member receiver arguments expectation).toOption =
      if member.parameters.length = arguments.length then
        (host.matchReceiver member receiver
          (.seedAll .empty member.wantedParameters)).toOption.bind fun received =>
        (host.matchResult member expectation arguments.length
          received).toOption.bind fun expected =>
        (host.matchParameters 0 member.parameters arguments expected).toOption.bind fun outcome =>
        (host.conclude member arguments expectation outcome.1 outcome.2).toOption
      else none := by
  rw [unifyWith]
  by_cases same : member.parameters.length = arguments.length
  · rw [if_neg (not_not.mpr same), if_pos same]
    simp only [toOption_bind]
  · rw [if_pos same, if_neg same]
    rfl

/-- Whatever is expected, moving a null with its declared type changes neither whether a member
unifies with a call site nor, up to the order of the parameter types, what it is matched with. -/
theorem unifyWith_relocate (host : Host) (member : Member) (receiver : Option Ty)
    {arguments : List (Option Ty)} (expectation : Expectation)
    (null : arguments[source]? = some none) (target : Nat) :
    (host.unifyWith (member.relocateParameter source target) receiver
        (relocate source target arguments) expectation).toOption =
      (host.unifyWith member receiver arguments expectation).toOption.map
        (Match.relocateParameter source target) := by
  have types : (member.relocateParameter source target).parameters.length =
      member.parameters.length := (relocate_perm _).length_eq
  have values : (relocate source target arguments).length = arguments.length :=
    (relocate_perm _).length_eq
  rw [unifyWith_toOption, unifyWith_toOption, types, values]
  by_cases count : member.parameters.length = arguments.length
  · have matched := host.matchParameters_relocate null target count 0
    have concluded := host.conclude_relocate source target count
    simp only [Member.relocateParameter, Option.map_bind, Function.comp_def,
      matched, Option.bind_map, ← concluded, if_pos count]
    rfl
  · rw [if_neg count, if_neg count]
    rfl

end Host

/-- Where a null stands does not matter. Whatever answers for the types, whatever the receiver and
whatever is expected, a member unifies with a call site if and only if it does once a null of the
call site and its declared type are moved to another place. Both matches then have the same
arguments, and the parameter type moves along. In particular this holds for the members of a
registry that are called, read or assigned. -/
theorem null_relocates (host : Host) (member : Member) (receiver : Option Ty)
    {arguments : List (Option Ty)} {source : Nat} (null : arguments[source]? = some none)
    (target : Nat) :
    (∀ expectation,
      (host.unifyWith (member.relocateParameter source target) receiver
          (relocate source target arguments) expectation).toOption =
        (host.unifyWith member receiver arguments expectation).toOption.map
          (Match.relocateParameter source target)) ∧
    ∀ registry : Registry,
      (∀ expected,
        (registry.unify (member.relocateParameter source target) receiver
            (relocate source target arguments) expected).toOption =
          (registry.unify member receiver arguments expected).toOption.map
            (Match.relocateParameter source target)) ∧
      ∀ value,
        (registry.unifyAssignment (member.relocateParameter source target) receiver
            (relocate source target arguments) value).toOption =
          (registry.unifyAssignment member receiver arguments value).toOption.map
            (Match.relocateParameter source target) := by
  have moved (host : Host) (expectation : Expectation) :=
    host.unifyWith_relocate member receiver expectation null target
  refine ⟨moved host, fun registry => ⟨fun expected => ?_, fun value => ?_⟩⟩
  · rw [Registry.unify, Registry.unify, Registry.unifyWith_eq_host, Registry.unifyWith_eq_host]
    exact moved registry.host (.ofResult expected)
  · rw [Registry.unifyAssignment, Registry.unifyAssignment, Registry.unifyWith_eq_host,
      Registry.unifyWith_eq_host]
    exact moved registry.host (.accepts value)

/-- Pairs take an element, a number and a box of elements. -/
def pairs : Registry := .ofDefinitions
  [{ name := "Box", kind := .classType, generics := ["T"] },
   { name := "Pair", kind := .classType, generics := ["T"]
     declarations :=
      [{ name := "put", kind := .method
         parameters :=
          [.parameter ⟨.definition ⟨1⟩, 0⟩, .i32,
           .named ⟨0⟩ [.parameter ⟨.definition ⟨1⟩, 0⟩]]
         body := .native .self }] }]

/-- The method, as pairs of anything declare it. -/
def pairs.put : Member :=
  (pairs.candidates .all (pairs.openType ⟨1⟩) "put" .method).get ⟨0, by decide⟩

/-- Null stands for an element before the box that tells what elements are, and after it. -/
theorem pairs_put_null_relocates :
    let element : Ty := .parameter ⟨.definition ⟨1⟩, 0⟩
    let box : Ty := .named ⟨0⟩ [.str]
    let moved := pairs.put.relocateParameter 0 2
    pairs.put.parameters = [element, .i32, .named ⟨0⟩ [element]] ∧
      moved.parameters = [.i32, .named ⟨0⟩ [element], element] ∧
      pairs.unify pairs.put none [none, some .i32, some box] none =
        .ok ⟨[.str], [], [.str, .i32, box]⟩ ∧
      (pairs.unify moved none [some .i32, some box, none] none).toOption =
        some ⟨[.str], [], [.i32, box, .str]⟩ := by
  intro element box moved
  have unifies : pairs.unify pairs.put none [none, some .i32, some box] none =
      .ok ⟨[.str], [], [.str, .i32, box]⟩ := by decide
  have null : [none, some .i32, some box][0]? = some none := rfl
  have relocated := ((null_relocates pairs.host pairs.put none null 2).2 pairs).1 none
  rw [unifies] at relocated
  exact ⟨by decide, by decide, unifies, relocated⟩

end LateBinding
