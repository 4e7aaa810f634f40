import LateBinding.Error
import LateBinding.Proofs.TypeGrammar

/-!
# The reader of type names meets their grammar

`TypeName.read` reads exactly the texts that derive from the grammar and denote a type, and answers
with that type.

The reader and its list reader call each other. What the two read is sound and complete by one
induction on their bound on steps: a derivation needs no more steps than it has tokens, and a text
has no more tokens than characters. Names are looked up after their arguments have been read, so
what a name stands for is a condition on the types of the arguments alone.
-/
namespace LateBinding

namespace TypeName

/-- The reader's table of built-in names. -/
theorem builtin?_eq_some_iff {name : String} {type : Ty} :
    builtin? name = some type ↔ BuiltIn name type := by
  constructor
  · intro found
    rw [builtin?] at found
    by_cases object : name = "object"
    · rw [if_pos object] at found
      obtain rfl := Option.some.inj found
      exact object ▸ .object
    · rw [if_neg object] at found
      obtain ⟨primitive, first, rfl⟩ := Option.map_eq_some_iff.mp found
      have named : primitive.name = name := by simpa using List.find?_some first
      exact named ▸ .primitive primitive
  · rintro (primitive | _)
    · cases primitive <;> rfl
    · rfl

/-- Names that are in no entry of the table are not built in. -/
theorem builtin?_eq_none_iff {name : String} :
    builtin? name = none ↔ ∀ type, ¬ BuiltIn name type := by
  simp only [← builtin?_eq_some_iff, ← Option.not_isSome_iff_eq_none, Option.isSome_iff_exists,
    not_exists]

/-- A built-in name takes no arguments. -/
theorem denote_of_builtIn {registry : Registry} {name : String} {types : List Ty}
    {known type : Ty} (builtIn : builtin? name = some known) :
    denote registry name types = .ok type ↔ types = [] ∧ known = type := by
  rw [denote, builtIn]
  by_cases bare : types = []
  · simp [bare]
  · simp [bare]

/-- A name that is neither built in nor registered stands for nothing. -/
theorem denote_ne_ok {registry : Registry} {name : String} {types : List Ty} {type : Ty}
    (own : builtin? name = none) (missing : registry.find? name = none) :
    denote registry name types ≠ .ok type := by
  rw [denote, own, missing]
  simp

/-- A registered name stands for its open type without arguments, and is applied to as many as it
has parameters. -/
theorem denote_of_registered {registry : Registry} {name : String} {types : List Ty} {type : Ty}
    {id : DefinitionId} (own : builtin? name = none) (latest : registry.find? name = some id) :
    denote registry name types = .ok type ↔
      types = [] ∧ registry.openType id = type ∨
        types ≠ [] ∧ types.length = (registry.parameters id).length ∧ .named id types = type := by
  rw [denote, own, latest]
  by_cases bare : types = []
  · simp [bare]
  by_cases count : types.length = (registry.parameters id).length
  · simp [bare, count]
  · simp [bare, count]

/-- What the reader makes of a name and the types of its arguments is what the name stands for. -/
theorem denote_eq_ok_iff {registry : Registry} {name : String} {types : List Ty} {type : Ty} :
    denote registry name types = .ok type ↔ StandsFor registry name types type := by
  cases builtIn : builtin? name with
  | some found =>
    have known := builtin?_eq_some_iff.mp builtIn
    rw [denote_of_builtIn builtIn]
    constructor
    · rintro ⟨rfl, rfl⟩
      exact .builtIn known
    · rintro (⟨other⟩ | ⟨own⟩ | ⟨own⟩)
      · rw [builtin?_eq_some_iff.mpr other] at builtIn
        exact ⟨rfl, (Option.some.inj builtIn).symm⟩
      · exact absurd known (own _)
      · exact absurd known (own _)
  | none =>
    have own := builtin?_eq_none_iff.mp builtIn
    cases found : registry.find? name with
    | none =>
      refine iff_of_false (denote_ne_ok builtIn found) ?_
      rintro (⟨known⟩ | ⟨_, latest⟩ | ⟨_, latest⟩)
      · exact own _ known
      · simp [Registry.find?_eq_some_iff.mpr latest] at found
      · simp [Registry.find?_eq_some_iff.mpr latest] at found
    | some id =>
      have latest := Registry.find?_eq_some_iff.mp found
      rw [denote_of_registered builtIn found]
      constructor
      · rintro (⟨rfl, rfl⟩ | ⟨given, count, rfl⟩)
        · exact .openType own latest
        · exact .applied own latest given count
      · rintro (⟨known⟩ | ⟨_, other⟩ | ⟨_, other, given, count⟩)
        · exact absurd known (own _)
        · rw [Registry.find?_eq_some_iff.mpr other] at found
          exact Or.inl ⟨rfl, by rw [Option.some.inj found]⟩
        · rw [Registry.find?_eq_some_iff.mpr other] at found
          obtain rfl := Option.some.inj found
          exact Or.inr ⟨given, count, rfl⟩

/-! ## Reading -/

section Reading

variable {registry : Registry} {input : String} {steps : Nat} {text rest : List Char}

/-- Arguments are read where an opening bracket comes next, and nowhere else. -/
def readArguments (registry : Registry) (input : String) (steps : Nat) (after : List Char) :
    Except TypeNameError (List Ty × List Char) :=
  match Text.skipBlanks after with
  | '<' :: inside => readList registry input steps inside
  | rest => .ok ([], rest)

/-- Behind a bracket the list of the arguments is read. -/
theorem readArguments_of_opened {after inside : List Char}
    (opened : Text.skipBlanks after = '<' :: inside) :
    readArguments registry input steps after = readList registry input steps inside := by
  rw [readArguments, opened]
  rfl

/-- Without a bracket there are no arguments, and only blanks have been read. -/
theorem readArguments_of_unopened {after : List Char}
    (unopened : ∀ inside, Text.skipBlanks after ≠ '<' :: inside) :
    readArguments registry input steps after = .ok ([], Text.skipBlanks after) := by
  rw [readArguments]
  cases left : Text.skipBlanks after with
  | nil => rfl
  | cons c others =>
    have other : c ≠ '<' := fun same => unopened others (same ▸ left)
    simp [other]

/-- Behind a type of a list, a comma promises another one and a bracket ends the list. -/
def readFurther (registry : Registry) (input : String) (steps : Nat) (first : Ty)
    (between : List Char) : Except TypeNameError (List Ty × List Char) :=
  match Text.skipBlanks between with
  | ',' :: more => do
    let (others, final) ← readList registry input steps more
    pure (first :: others, final)
  | '>' :: final => .ok ([first], final)
  | rest => .error (malformedAt input rest)

/-- Behind a comma the rest of the list is read. -/
theorem readFurther_of_separated {first : Ty} {between more : List Char}
    (separated : Text.skipBlanks between = ',' :: more) :
    readFurther registry input steps first between =
      readList registry input steps more >>= fun read => .ok (first :: read.1, read.2) := by
  rw [readFurther, separated]
  rfl

/-- A bracket ends the list with the type before it. -/
theorem readFurther_of_closed {first : Ty} {between final : List Char}
    (closed : Text.skipBlanks between = '>' :: final) :
    readFurther registry input steps first between = .ok ([first], final) := by
  rw [readFurther, closed]
  rfl

/-- Without either mark the list is malformed there. -/
theorem readFurther_of_unmarked {first : Ty} {between : List Char}
    (unseparated : ∀ more, Text.skipBlanks between ≠ ',' :: more)
    (unclosed : ∀ final, Text.skipBlanks between ≠ '>' :: final) :
    readFurther registry input steps first between =
      .error (malformedAt input (Text.skipBlanks between)) := by
  rw [readFurther]
  cases left : Text.skipBlanks between with
  | nil => rfl
  | cons c others =>
    have noComma : c ≠ ',' := fun same => unseparated others (same ▸ left)
    have noBracket : c ≠ '>' := fun same => unclosed others (same ▸ left)
    simp [noComma, noBracket]

/-- A list is read from its first type on. -/
theorem readList_succ :
    readList registry input (steps + 1) text =
      readType registry input steps text >>= fun read =>
        readFurther registry input steps read.1 read.2 := by
  rw [readList]
  rfl

/-- Nothing is read where no name comes next. -/
theorem readType_succ_nameless (nameless : NameEnds (Text.skipBlanks text)) :
    readType registry input (steps + 1) text =
      .error (malformedAt input (Text.skipBlanks text)) := by
  obtain ⟨noRun, -⟩ := Text.takeWhile_dropWhile_iff.mpr
    ⟨(List.nil_append _).symm, List.forall_mem_nil _, nameless⟩
  rw [readType, noRun]

/-- Where a name comes next, the arguments after it are read and then the name is looked up. -/
theorem readType_succ_named {name : String} {after : List Char}
    (start : Text.skipBlanks text = name.toList ++ after) (nonempty : name.toList ≠ [])
    (characters : ∀ c ∈ name.toList, isNameCharacter c = true) (ends : NameEnds after) :
    readType registry input (steps + 1) text =
      readArguments registry input steps after >>= fun read =>
        denote registry name read.1 >>= fun type => .ok (type, read.2) := by
  obtain ⟨isRun, isAfter⟩ := Text.takeWhile_dropWhile_iff.mpr ⟨start, characters, ends⟩
  obtain ⟨first, others, same⟩ := List.exists_cons_of_ne_nil nonempty
  have named : String.ofList (first :: others) = name := by rw [← same, String.ofList_toList]
  rw [readType, isRun, isAfter, same]
  simp only [named, readArguments]
  cases left : Text.skipBlanks after with
  | nil => rfl
  | cons c inside =>
    by_cases bracket : c = '<'
    · subst bracket
      rfl
    · simp [bracket, pure, Except.pure, bind, Except.bind]

/-- A type is read from the name at its start, the arguments after that and what the name stands
for. -/
theorem readType_succ_eq_ok_iff {type : Ty} :
    readType registry input (steps + 1) text = .ok (type, rest) ↔
      ∃ name after types, (Text.skipBlanks text = name.toList ++ after ∧
          (∀ c ∈ name.toList, isNameCharacter c = true) ∧ NameEnds after) ∧ name.toList ≠ [] ∧
        readArguments registry input steps after = .ok (types, rest) ∧
        StandsFor registry name types type := by
  rcases nameEnds_or_name (Text.skipBlanks text) with
    nameless | ⟨name, after, start, nonempty, characters, ends⟩
  · rw [readType_succ_nameless nameless]
    simp only [reduceCtorEq, false_iff]
    rintro ⟨name, after, _, ⟨start, characters, _⟩, nonempty, _⟩
    exact not_nameEnds_name nonempty characters after (start ▸ nameless)
  · rw [readType_succ_named start nonempty characters ends]
    simp only [bind_eq_ok, denote_eq_ok_iff, Except.ok.injEq, Prod.exists, Prod.mk.injEq]
    constructor
    · rintro ⟨types, _, list, _, stands, rfl, rfl⟩
      exact ⟨name, after, types, ⟨start, characters, ends⟩, nonempty, list, stands⟩
    · rintro ⟨other, otherAfter, types, ⟨otherStart, otherCharacters, otherEnds⟩, _, list, stands⟩
      obtain ⟨rfl, rfl⟩ := name_unique (start.symm.trans otherStart) characters ends
        otherCharacters otherEnds
      exact ⟨types, rest, list, type, stands, rfl, rfl⟩

/-- A list of types is read from its first type and the mark behind that. -/
theorem readList_succ_eq_ok_iff {types : List Ty} :
    readList registry input (steps + 1) text = .ok (types, rest) ↔
      ∃ first between, readType registry input steps text = .ok (first, between) ∧
        ((∃ more others, Text.skipBlanks between = ',' :: more ∧
            readList registry input steps more = .ok (others, rest) ∧ types = first :: others) ∨
          Text.skipBlanks between = '>' :: rest ∧ types = [first]) := by
  rw [readList_succ]
  simp only [bind_eq_ok, Prod.exists]
  refine exists_congr fun first => exists_congr fun between => and_congr_right fun _ => ?_
  by_cases separates : ∃ more, Text.skipBlanks between = ',' :: more
  · obtain ⟨more, separated⟩ := separates
    rw [readFurther_of_separated separated]
    simp only [separated, bind_eq_ok, Prod.exists, Except.ok.injEq, Prod.mk.injEq,
      List.cons.injEq, true_and, Char.reduceEq, false_and, or_false]
    constructor
    · rintro ⟨others, final, read, rfl, rfl⟩
      exact ⟨more, others, rfl, read, rfl⟩
    · rintro ⟨_, others, rfl, read, rfl⟩
      exact ⟨others, rest, read, rfl, rfl⟩
  by_cases closes : ∃ final, Text.skipBlanks between = '>' :: final
  · obtain ⟨final, closed⟩ := closes
    rw [readFurther_of_closed closed]
    simp only [closed, Except.ok.injEq, Prod.mk.injEq, List.cons.injEq, Char.reduceEq, false_and,
      exists_false, false_or, true_and]
    exact ⟨fun same => ⟨same.2, same.1.symm⟩, fun same => ⟨same.2.symm, same.1⟩⟩
  · rw [readFurther_of_unmarked (not_exists.mp separates) (not_exists.mp closes)]
    simp only [reduceCtorEq, false_iff]
    rintro (⟨more, _, separated, _⟩ | ⟨closed, _⟩)
    · exact separates ⟨more, separated⟩
    · exact closes ⟨rest, closed⟩

/-- What is read at the start of a text is an expression that denotes what was read, and its tokens
stand before those of what is left. -/
theorem reading_sound (registry : Registry) (input : String) (steps : Nat) :
    (∀ text type rest, readType registry input steps text = .ok (type, rest) →
      ∃ tokens expression, Derives tokens expression ∧ Denotes registry expression type ∧
        ∀ later, Lexes rest later → Lexes text (tokens ++ later)) ∧
    (∀ text types rest, readList registry input steps text = .ok (types, rest) →
      ∃ tokens expressions, DerivesAll tokens expressions ∧
        DenotesAll registry expressions types ∧
        ∀ later, Lexes rest later → Lexes text (tokens ++ .closing :: later)) := by
  induction steps with
  | zero =>
    constructor
    · intro text type rest read
      simp [readType] at read
    · intro text types rest read
      simp [readList] at read
  | succ steps inductionHypothesis =>
    obtain ⟨typeSound, listSound⟩ := inductionHypothesis
    constructor
    · intro text type rest read
      obtain ⟨name, after, types, ⟨start, characters, ends⟩, nonempty, list, stands⟩ :=
        readType_succ_eq_ok_iff.mp read
      have named : ∀ later, Lexes after later → Lexes text (.name name :: later) :=
        fun later lexes => Lexes.name_iff.mpr ⟨after, start, nonempty, characters, ends, lexes⟩
      by_cases opens : ∃ inside, Text.skipBlanks after = '<' :: inside
      · obtain ⟨inside, opened⟩ := opens
        rw [readArguments_of_opened opened] at list
        obtain ⟨tokens, expressions, derived, denoted, lexes⟩ := listSound _ _ _ list
        refine ⟨_, _, .applied name derived, .intro denoted stands, fun later ends => named _ ?_⟩
        have bracketed := (Lexes.mark_iff .opening rfl).mpr
          ⟨inside, opened, lexes later ends⟩
        simpa using bracketed
      · rw [readArguments_of_unopened (not_exists.mp opens)] at list
        obtain ⟨rfl, rfl⟩ := Prod.mk.inj (Except.ok.inj list)
        refine ⟨_, _, .plain name, .intro .nil stands, fun later ends => named _ ?_⟩
        exact Lexes.skipBlanks_iff.mp ends
    · intro text types rest read
      obtain ⟨first, between, firstRead, continuation⟩ := readList_succ_eq_ok_iff.mp read
      obtain ⟨tokens, expression, derived, denoted, lexes⟩ := typeSound _ _ _ firstRead
      rcases continuation with ⟨more, others, separated, listed, rfl⟩ | ⟨closed, rfl⟩
      · obtain ⟨otherTokens, expressions, allDerived, allDenoted, allLexes⟩ :=
          listSound _ _ _ listed
        refine ⟨_, _, .more derived allDerived, .cons denoted allDenoted, ?_⟩
        intro later ends
        have separate := (Lexes.mark_iff .comma rfl).mpr
          ⟨more, separated, allLexes later ends⟩
        simpa using lexes _ separate
      · refine ⟨_, _, .one derived, .cons denoted .nil, fun later ends => lexes _ ?_⟩
        exact (Lexes.mark_iff .closing rfl).mpr ⟨rest, closed, ends⟩

/-- An expression that denotes a type is read, if no opening bracket follows it and there are as
many steps as tokens. -/
theorem reading_complete (registry : Registry) (input : String) (steps : Nat) :
    (∀ {tokens expression type text later}, Derives tokens expression →
      Denotes registry expression type → tokens.length ≤ steps →
      Lexes text (tokens ++ later) → later.head? ≠ some .opening →
      ∃ rest, readType registry input steps text = .ok (type, rest) ∧ Lexes rest later) ∧
    (∀ {tokens expressions types text later}, DerivesAll tokens expressions →
      DenotesAll registry expressions types → tokens.length < steps →
      Lexes text (tokens ++ .closing :: later) →
      ∃ rest, readList registry input steps text = .ok (types, rest) ∧ Lexes rest later) := by
  -- each step takes the derivation apart at its root; a token of it pays for the step
  induction steps with
  | zero =>
    constructor
    · intro tokens expression type text later derived denoted enough
      cases derived <;> simp at enough
    · intro tokens expressions types text later derived denoted enough
      simp at enough
  | succ steps inductionHypothesis =>
    obtain ⟨typeComplete, listComplete⟩ := inductionHypothesis
    constructor
    · intro tokens expression type text later derived denoted enough lexes unopened
      cases derived with
      | plain name =>
        obtain ⟨⟨⟩, stands⟩ := denoted
        rw [List.singleton_append] at lexes
        obtain ⟨after, start, nonempty, characters, ends, lexes⟩ := Lexes.name_iff.mp lexes
        have none : ∀ inside, Text.skipBlanks after ≠ '<' :: inside := by
          intro inside opened
          exact unopened (lexes.head?_of_mark rfl opened)
        refine ⟨Text.skipBlanks after, ?_, Lexes.skipBlanks_iff.mpr lexes⟩
        exact readType_succ_eq_ok_iff.mpr ⟨name, after, [], ⟨start, characters, ends⟩, nonempty,
          readArguments_of_unopened none, stands⟩
      | applied name derived =>
        obtain ⟨inside, stands⟩ := denoted
        obtain ⟨after, start, nonempty, characters, ends, bracketed⟩ := Lexes.name_iff.mp lexes
        obtain ⟨within, opened, lexes⟩ := (Lexes.mark_iff .opening rfl).mp bracketed
        simp only [List.length_cons, List.length_append] at enough
        obtain ⟨rest, list, restLexes⟩ := listComplete derived inside (by omega)
          (by simpa using lexes)
        refine ⟨rest, ?_, restLexes⟩
        exact readType_succ_eq_ok_iff.mpr ⟨name, after, _, ⟨start, characters, ends⟩, nonempty,
          (readArguments_of_opened opened).trans list, stands⟩
    · intro tokens expressions types text later derived denoted enough lexes
      cases derived with
      | one first =>
        obtain - | ⟨firstDenoted, ⟨⟩⟩ := denoted
        obtain ⟨between, read, closes⟩ := typeComplete first firstDenoted (by omega) lexes (by simp)
        obtain ⟨rest, closed, restLexes⟩ := (Lexes.mark_iff .closing rfl).mp closes
        exact ⟨rest, readList_succ_eq_ok_iff.mpr
          ⟨_, between, read, Or.inr ⟨closed, rfl⟩⟩, restLexes⟩
      | more first others =>
        obtain - | ⟨firstDenoted, othersDenoted⟩ := denoted
        simp only [List.length_append, List.length_cons] at enough
        rw [List.append_assoc, List.cons_append] at lexes
        obtain ⟨between, read, separates⟩ :=
          typeComplete first firstDenoted (by omega) lexes (by simp)
        obtain ⟨more, separated, lexesMore⟩ := (Lexes.mark_iff .comma rfl).mp separates
        obtain ⟨rest, list, restLexes⟩ := listComplete others othersDenoted (by omega) lexesMore
        exact ⟨rest, readList_succ_eq_ok_iff.mpr
          ⟨_, between, read, Or.inl ⟨more, _, separated, list, rfl⟩⟩, restLexes⟩

/-- A text is read to its end when only blanks are left. -/
theorem read_eq_ok_iff_readType {type : Ty} :
    read registry input = .ok type ↔ ∃ rest, readType registry input (input.toList.length + 1)
      input.toList = .ok (type, rest) ∧ Lexes rest [] := by
  rw [read]
  simp only [bind_eq_ok, Prod.exists, Lexes.nil_iff]
  rw [exists_comm]
  refine exists_congr fun rest => ?_
  constructor
  · rintro ⟨other, read, ends⟩
    cases left : Text.skipBlanks rest with
    | nil =>
      rw [left] at ends
      obtain rfl := Except.ok.inj ends
      exact ⟨read, rfl⟩
    | cons c others =>
      rw [left] at ends
      cases ends
  · rintro ⟨read, nothing⟩
    exact ⟨type, read, by rw [nothing]; rfl⟩

/-- What derives from the grammar and denotes a type is read as that type. -/
theorem read_of_denotes {tokens : List Token} {expression : Expression} {type : Ty}
    (lexes : Lexes input.toList tokens) (derived : Derives tokens expression)
    (denoted : Denotes registry expression type) : read registry input = .ok type := by
  have enough : tokens.length ≤ input.toList.length + 1 :=
    Nat.le_succ_of_le lexes.length_le
  exact read_eq_ok_iff_readType.mpr ((reading_complete registry input _).1 derived denoted enough
    (by simpa using lexes) (by simp))

end Reading

/-- A text is read as a type exactly when it derives from the grammar and the derivation denotes
that type. -/
theorem read_eq_ok_iff (registry : Registry) (input : String) (type : Ty) :
    read registry input = .ok type ↔ ∃ tokens expression, Lexes input.toList tokens ∧
      Derives tokens expression ∧ Denotes registry expression type := by
  constructor
  · intro accepted
    obtain ⟨rest, readType, ends⟩ := read_eq_ok_iff_readType.mp accepted
    obtain ⟨tokens, expression, derived, denoted, lexes⟩ :=
      (reading_sound registry input _).1 _ _ _ readType
    exact ⟨tokens, expression, by simpa using lexes [] ends, derived, denoted⟩
  · rintro ⟨tokens, expression, lexes, derived, denoted⟩
    exact read_of_denotes lexes derived denoted

end TypeName

end LateBinding
