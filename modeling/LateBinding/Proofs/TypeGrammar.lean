import LateBinding.Text.Characters
import LateBinding.TypeName
import Mathlib.Data.List.Induction

/-!
# The grammar of type names

A text is a type name when its tokens derive from

```text
type := name ('<' type (',' type)* '>')?
```

A name is a longest run of letters, digits and underscores, and blanks may stand before, between
and after tokens. `Lexes` relates a text to its tokens, `Derives` tokens to expressions.

What an expression denotes is told apart from how it is read: a built-in name without arguments is
that built-in type, and every other name is the latest definition of that name, which is its open
type without arguments and an instantiation with as many arguments as it has parameters. `Denotes`
relates an expression to its type, and to none where a name or a number of arguments does not fit.
-/
namespace LateBinding

/-! ## Character classes -/

namespace Text

/-- Ranges that overlap nowhere have no character in common. -/
theorem inRanges_eq_false_of_apart {first second : List (Nat × Nat)}
    (apart : ∀ range ∈ first, ∀ other ∈ second, range.2 < other.1 ∨ other.2 < range.1) {point : Nat}
    (inside : inRanges first point = true) : inRanges second point = false := by
  obtain ⟨range, listed, bounds⟩ := List.any_eq_true.mp inside
  have within : range.1 ≤ point ∧ point ≤ range.2 := by simpa using bounds
  refine List.any_eq_false.mpr fun other otherListed => ?_
  have separate := apart range listed other otherListed
  simp only [Bool.and_eq_true, decide_eq_true_eq, not_and]
  omega

/-- No blank character is a letter or a number. -/
theorem isAlphanumeric_of_isBlank {c : Char} (blank : isBlank c = true) :
    isAlphanumeric c = false := by
  rw [isAlphanumeric]
  by_cases ascii : c.toNat < 128
  · rw [if_pos ascii]
    have places : (9 ≤ c.toNat ∧ c.toNat ≤ 13) ∨ c.toNat = 32 := by
      simp only [isBlank, inRanges, blankRanges, List.any_cons, List.any_nil, Bool.or_eq_true,
        Bool.and_eq_true, decide_eq_true_eq, Bool.or_false] at blank
      omega
    have plain : ∀ point < 33, (9 ≤ point ∧ point ≤ 13) ∨ point = 32 →
        (Char.ofNat point).isAlphanum = false := by decide
    rw [← Char.ofNat_toNat c]
    exact plain _ (by omega) places
  · rw [if_neg ascii]
    exact inRanges_eq_false_of_apart (by decide +kernel) blank

/-- A blank at the start is passed over. -/
theorem skipBlanks_cons_of_blank {c : Char} (blank : isBlank c = true) (text : List Char) :
    skipBlanks (c :: text) = skipBlanks text := by
  rw [skipBlanks, List.dropWhile_cons, if_pos blank]

/-- Nothing is passed over where no blank comes first. -/
theorem skipBlanks_cons_of_not_blank {c : Char} (notBlank : isBlank c = false) (text : List Char) :
    skipBlanks (c :: text) = c :: text := by
  rw [skipBlanks, List.dropWhile_cons, if_neg (by simp [notBlank])]

/-- Passing over blanks does not lengthen a text. -/
theorem length_skipBlanks_le (text : List Char) : (skipBlanks text).length ≤ text.length :=
  (List.dropWhile_sublist _).length_le

/-- What is left after blanks begins with none. -/
theorem isBlank_of_head?_skipBlanks (text : List Char) :
    ∀ c ∈ (skipBlanks text).head?, isBlank c = false :=
  (takeWhile_dropWhile_iff.mp ⟨rfl, rfl⟩).2.2

end Text

/-! ## Look-ups by name -/

namespace Registry

/-- Whether a definition has a name. -/
def Named (registry : Registry) (name : String) (id : DefinitionId) : Prop :=
  ∃ definition, registry.definition? id = some definition ∧ definition.name = name

/-- Whether a definition is the latest of its name. -/
def Latest (registry : Registry) (name : String) (id : DefinitionId) : Prop :=
  registry.Named name id ∧ ∀ later, id.index < later.index → ¬ registry.Named name later

/-- The place of the last entry that passes a test. -/
theorem getLast?_filter_zipIdx_iff {α : Type} {passes : α → Bool} {entries : List α} {place : Nat} :
    (entries.zipIdx.filter fun entry => passes entry.1).getLast?.map Prod.snd = some place ↔
      entries[place]?.any passes = true ∧
        ∀ later, place < later → entries[later]?.any passes = false := by
  induction entries using List.reverseRecOn with
  | nil => simp
  | append_singleton entries last inductionHypothesis =>
    have split : (entries ++ [last]).zipIdx = entries.zipIdx ++ [(last, entries.length)] := by
      simp [List.zipIdx_append]
    have beyond : ∀ later, entries.length < later → (entries ++ [last])[later]? = none :=
      fun later further => List.getElem?_eq_none (by simpa using Nat.succ_le_of_lt further)
    rw [split, List.filter_append]
    cases passed : passes last with
    | true =>
      simp only [List.filter_cons, passed, if_true, List.filter_nil, List.getLast?_append,
        List.getLast?_singleton, Option.some_or, Option.map_some, Option.some.injEq]
      constructor
      · rintro rfl
        exact ⟨by simp [passed], fun later further => by simp [beyond later further]⟩
      · rintro ⟨here, nothing⟩
        rcases Nat.lt_trichotomy place entries.length with before | same | after
        · have none := nothing _ before
          simp [passed] at none
        · exact same.symm
        · simp [beyond place after] at here
    | false =>
      have same : ∀ other : Nat,
          (entries ++ [last])[other]?.any passes = entries[other]?.any passes := by
        intro other
        rcases Nat.lt_trichotomy other entries.length with before | rfl | after
        · rw [List.getElem?_append_left before]
        · simp [passed]
        · rw [beyond other after, List.getElem?_eq_none (Nat.le_of_lt after)]
      simp only [List.filter_cons, passed, Bool.false_eq_true, if_false, List.filter_nil,
        List.append_nil, inductionHypothesis, same]

/-- A look-up by name finds the latest definition of that name. -/
theorem find?_eq_some_iff {registry : Registry} {name : String} {id : DefinitionId} :
    registry.find? name = some id ↔ registry.Latest name id := by
  let passes : Definition → Bool := fun definition => definition.name = name
  have named : ∀ other : DefinitionId,
      registry.Named name other ↔ registry.definitions[other.index]?.any passes = true := by
    intro other
    simp [Named, definition?, passes, Option.any_eq_true]
  have places : registry.find? name = some id ↔
      (registry.definitions.zipIdx.filter fun entry => passes entry.1).getLast?.map Prod.snd =
        some id.index := by
    cases id
    simp [find?, passes, Option.map_eq_some_iff]
  rw [places, getLast?_filter_zipIdx_iff, Latest, named]
  refine and_congr_right fun _ => ⟨?_, ?_⟩
  · intro nothing later further
    simp [named, nothing later.index further]
  · intro nothing later further
    simpa [named] using nothing ⟨later⟩ further

end Registry

namespace TypeName

/-! ## Tokens -/

/-- What type names are made of. -/
inductive Token
  | name (name : String)
  | opening
  | comma
  | closing
deriving DecidableEq, Repr

/-- How a mark is written. -/
def Token.mark? : Token → Option Char
  | .name _ => none
  | .opening => some '<'
  | .comma => some ','
  | .closing => some '>'

/-- Whether a text does not go on with a character that may stand in a name. -/
def NameEnds (text : List Char) : Prop :=
  ∀ c ∈ text.head?, isNameCharacter c = false

/-- Whether a text is written with these tokens, in this order and with any blanks around them. A
name takes all the name characters that there are. -/
inductive Lexes : List Char → List Token → Prop
  | done : Lexes [] []
  | blank {c : Char} {text : List Char} {tokens : List Token} (blank : Text.isBlank c = true)
      (rest : Lexes text tokens) : Lexes (c :: text) tokens
  | mark {c : Char} {token : Token} {text : List Char} {tokens : List Token}
      (written : token.mark? = some c) (rest : Lexes text tokens) :
      Lexes (c :: text) (token :: tokens)
  | name {name : String} {text : List Char} {tokens : List Token} (nonempty : name.toList ≠ [])
      (characters : ∀ c ∈ name.toList, isNameCharacter c = true) (ends : NameEnds text)
      (rest : Lexes text tokens) : Lexes (name.toList ++ text) (.name name :: tokens)

/-- No blank may stand in a name. -/
theorem isNameCharacter_of_isBlank {c : Char} (blank : Text.isBlank c = true) :
    isNameCharacter c = false := by
  rw [isNameCharacter, Text.isAlphanumeric_of_isBlank blank, Bool.false_or, beq_eq_false_iff_ne]
  rintro rfl
  revert blank
  decide

/-- A mark is no blank, and it may not stand in a name. -/
theorem mark_facts {token : Token} {c : Char} (written : token.mark? = some c) :
    Text.isBlank c = false ∧ isNameCharacter c = false := by
  cases token with
  | name name => simp [Token.mark?] at written
  | opening | comma | closing =>
    obtain rfl := Option.some.inj written
    decide

/-- A name ends where the next character may not stand in one. -/
theorem nameEnds_cons {c : Char} {text : List Char} :
    NameEnds (c :: text) ↔ isNameCharacter c = false := by
  simp [NameEnds]

/-- A character of a name is no blank, so blanks are never taken into a name. -/
theorem isBlank_of_isNameCharacter {c : Char} (inName : isNameCharacter c = true) :
    Text.isBlank c = false := by
  by_contra blank
  simp [isNameCharacter_of_isBlank (by simpa using blank)] at inName

section NameFirst

variable {name : List Char} (nonempty : name ≠ [])
  (characters : ∀ c ∈ name, isNameCharacter c = true)
include nonempty characters

/-- No blanks come before a name that comes first. -/
theorem skipBlanks_name (text : List Char) : Text.skipBlanks (name ++ text) = name ++ text := by
  obtain ⟨first, others, rfl⟩ := List.exists_cons_of_ne_nil nonempty
  rw [List.cons_append, Text.skipBlanks_cons_of_not_blank]
  exact isBlank_of_isNameCharacter (characters first List.mem_cons_self)

/-- A text that begins with a name does not end one. A reader that looks for a name there finds it.
-/
theorem not_nameEnds_name (text : List Char) : ¬ NameEnds (name ++ text) := by
  obtain ⟨first, others, rfl⟩ := List.exists_cons_of_ne_nil nonempty
  rw [List.cons_append, nameEnds_cons, characters first List.mem_cons_self]
  exact Bool.noConfusion

/-- No text begins with a mark and with a name. -/
theorem mark_ne_name {token : Token} {c : Char} (written : token.mark? = some c)
    (rest after : List Char) : c :: rest ≠ name ++ after := by
  intro same
  refine not_nameEnds_name nonempty characters after (same ▸ nameEnds_cons.mpr ?_)
  exact (mark_facts written).2

end NameFirst

/-- Whether no name goes on from one text into the next. -/
def Apart (before after : List Char) : Prop :=
  (∀ c ∈ before.getLast?, isNameCharacter c = false) ∨ NameEnds after

/-- A text begins with a name, unless no name character comes first. -/
theorem nameEnds_or_name (text : List Char) :
    NameEnds text ∨ ∃ (name : String) (after : List Char), text = name.toList ++ after ∧
      name.toList ≠ [] ∧ (∀ c ∈ name.toList, isNameCharacter c = true) ∧ NameEnds after := by
  obtain ⟨split, characters, ends⟩ := Text.takeWhile_dropWhile_iff.mp
    ⟨(rfl : text.takeWhile isNameCharacter = _), rfl⟩
  by_cases nothing : text.takeWhile isNameCharacter = []
  · rw [nothing, List.nil_append] at split
    exact Or.inl (split ▸ ends)
  · refine Or.inr ⟨String.ofList (text.takeWhile isNameCharacter), _, ?_, ?_, ?_, ends⟩
    all_goals rw [String.toList_ofList]
    · exact split
    · exact nothing
    · exact characters

/-- A text begins with one name at most. -/
theorem name_unique {name other : String} {after otherAfter : List Char}
    (same : name.toList ++ after = other.toList ++ otherAfter)
    (characters : ∀ c ∈ name.toList, isNameCharacter c = true) (ends : NameEnds after)
    (otherCharacters : ∀ c ∈ other.toList, isNameCharacter c = true)
    (otherEnds : NameEnds otherAfter) : name = other ∧ after = otherAfter := by
  have sameName : name.toList = other.toList := by
    rw [← Text.takeWhile_append_eq characters ends, same,
      Text.takeWhile_append_eq otherCharacters otherEnds]
  obtain rfl := String.toList_injective sameName
  exact ⟨rfl, List.append_cancel_left same⟩

/-- Only the last part of what stands before counts. -/
theorem Apart.of_append_left {before after : List Char} (front : List Char)
    (apart : Apart (front ++ before) after) : Apart before after := by
  rcases apart with stops | ends
  · refine Or.inl fun c last => stops c ?_
    rw [List.getLast?_append, Option.mem_def.mp last, Option.some_or]
    rfl
  · exact Or.inr ends

/-- Nothing goes on into the front of what stands after. -/
theorem Apart.of_append_right {before : List Char} (front after : List Char)
    (apart : Apart before (front ++ after)) : Apart before front := by
  rcases apart with stops | ends
  · exact Or.inl stops
  · refine Or.inr fun c first => ends c ?_
    rw [List.head?_append, Option.mem_def.mp first, Option.some_or]
    rfl

/-- What stands before may be taken in two parts, if each of them stops at what comes next. -/
theorem Apart.append {before within after : List Char} (first : Apart before (within ++ after))
    (second : Apart within after) : Apart (before ++ within) after := by
  rcases List.eq_nil_or_concat within with rfl | ⟨front, last, rfl⟩
  · simpa using first
  · simpa [Apart] using second

/-- A name that is followed by a text ends where both do. -/
theorem Apart.nameEnds {name text after : List Char} (apart : Apart (name ++ text) after)
    (nonempty : name ≠ []) (characters : ∀ c ∈ name, isNameCharacter c = true)
    (ends : NameEnds text) : NameEnds (text ++ after) := by
  cases text with
  | cons c others => exact nameEnds_cons.mpr (nameEnds_cons.mp ends)
  | nil =>
    rcases apart with stops | ends
    · rw [List.append_nil, List.getLast?_eq_some_getLast nonempty] at stops
      have inName := characters _ (List.getLast_mem nonempty)
      simp [stops _ rfl] at inName
    · exact ends

/-- Different marks are written differently. -/
theorem mark?_injective {token other : Token} {c : Char} (written : token.mark? = some c)
    (otherWritten : other.mark? = some c) : token = other := by
  have same := written.trans otherWritten.symm
  cases token with
  | name => simp [Token.mark?] at written
  | opening | comma | closing => cases other <;> simp [Token.mark?] at same ⊢

namespace Lexes

variable {text : List Char} {tokens : List Token}

/-- Each token takes a character at least. -/
theorem length_le (lexes : Lexes text tokens) : tokens.length ≤ text.length := by
  induction lexes with
  | done => exact Nat.le_refl 0
  | blank _ _ inductionHypothesis =>
    rw [List.length_cons]
    omega
  | mark _ _ inductionHypothesis =>
    rw [List.length_cons, List.length_cons]
    omega
  | name nonempty _ _ _ inductionHypothesis =>
    have positive := List.length_pos_iff.mpr nonempty
    rw [List.length_append, List.length_cons]
    omega

/-- Blanks that were passed over do not change the tokens of a text. -/
theorem of_skipBlanks (lexes : Lexes (Text.skipBlanks text) tokens) : Lexes text tokens := by
  induction text with
  | nil => exact lexes
  | cons c text inductionHypothesis =>
    cases blank : Text.isBlank c with
    | true =>
      rw [Text.skipBlanks_cons_of_blank blank] at lexes
      exact .blank blank (inductionHypothesis lexes)
    | false =>
      rwa [Text.skipBlanks_cons_of_not_blank blank] at lexes

/-- Behind the blanks at its start, a text has its end, a mark or a name, and then the rest of its
tokens. -/
theorem start (lexes : Lexes text tokens) :
    (Text.skipBlanks text = [] ∧ tokens = []) ∨
    (∃ token c rest others, Text.skipBlanks text = c :: rest ∧ Token.mark? token = some c ∧
      tokens = token :: others ∧ Lexes rest others) ∨
    ∃ name after others, Text.skipBlanks text = name.toList ++ after ∧ name.toList ≠ [] ∧
      (∀ c ∈ name.toList, isNameCharacter c = true) ∧ NameEnds after ∧
      tokens = .name name :: others ∧ Lexes after others := by
  induction lexes with
  | done => exact Or.inl ⟨rfl, rfl⟩
  | blank blank _ inductionHypothesis => rwa [Text.skipBlanks_cons_of_blank blank]
  | mark written rest =>
    have notBlank := (mark_facts written).1
    exact Or.inr (Or.inl
      ⟨_, _, _, _, Text.skipBlanks_cons_of_not_blank notBlank _, written, rfl, rest⟩)
  | @name name text _ nonempty characters ends rest =>
    have kept := skipBlanks_name nonempty characters text
    exact Or.inr (Or.inr ⟨name, text, _, kept, nonempty, characters, ends, rfl, rest⟩)

/-- Nothing but blanks is written with no tokens. -/
theorem nil_iff : Lexes text [] ↔ Text.skipBlanks text = [] := by
  refine ⟨fun lexes => ?_, fun nothing => of_skipBlanks (nothing ▸ .done)⟩
  rcases lexes.start with ⟨nothing, -⟩ | ⟨_, _, _, _, _, _, ⟨⟩, _⟩ | ⟨_, _, _, _, _, _, _, ⟨⟩, _⟩
  exact nothing

/-- A mark is the first character that is no blank. -/
theorem mark_iff (token : Token) {c : Char} (written : token.mark? = some c) :
    Lexes text (token :: tokens) ↔
      ∃ rest, Text.skipBlanks text = c :: rest ∧ Lexes rest tokens := by
  constructor
  · intro lexes
    rcases lexes.start with ⟨_, ⟨⟩⟩ | ⟨_, _, rest, _, begins, otherWritten, ⟨⟩, lexes⟩ |
      ⟨name, _, _, _, _, _, _, ⟨⟩, _⟩
    · obtain rfl := Option.some.inj (written.symm.trans otherWritten)
      exact ⟨rest, begins, lexes⟩
    · simp [Token.mark?] at written
  · rintro ⟨rest, begins, lexes⟩
    exact of_skipBlanks (begins ▸ .mark written lexes)

/-- A name is the longest run of name characters after the blanks, and it is not empty. -/
theorem name_iff {name : String} :
    Lexes text (.name name :: tokens) ↔ ∃ after, Text.skipBlanks text = name.toList ++ after ∧
      name.toList ≠ [] ∧ (∀ c ∈ name.toList, isNameCharacter c = true) ∧ NameEnds after ∧
      Lexes after tokens := by
  constructor
  · intro lexes
    rcases lexes.start with ⟨_, ⟨⟩⟩ | ⟨_, _, _, _, _, written, ⟨⟩, _⟩ |
      ⟨_, after, _, begins, nonempty, characters, ends, ⟨⟩, lexes⟩
    · simp [Token.mark?] at written
    · exact ⟨after, begins, nonempty, characters, ends, lexes⟩
  · rintro ⟨after, begins, nonempty, characters, ends, lexes⟩
    exact of_skipBlanks (begins ▸ .name nonempty characters ends lexes)

/-- Blanks at the start make no difference. -/
theorem skipBlanks_iff : Lexes (Text.skipBlanks text) tokens ↔ Lexes text tokens := by
  refine ⟨of_skipBlanks, fun lexes => ?_⟩
  rcases lexes.start with ⟨nothing, rfl⟩ | ⟨_, _, _, _, begins, written, rfl, rest⟩ |
    ⟨_, _, _, begins, nonempty, characters, ends, rfl, rest⟩
  · exact nothing ▸ .done
  · exact begins ▸ .mark written rest
  · exact begins ▸ .name nonempty characters ends rest

/-- A mark behind the blanks is the first token. -/
theorem head?_of_mark {token : Token} {c : Char} (written : token.mark? = some c)
    {rest : List Char} (begins : Text.skipBlanks text = c :: rest) (lexes : Lexes text tokens) :
    tokens.head? = some token := by
  rcases lexes.start with ⟨nothing, -⟩ | ⟨_, _, _, _, first, otherWritten, rfl, -⟩ |
    ⟨_, _, _, first, nonempty, characters, -⟩
  · simp [nothing] at begins
  · obtain ⟨rfl, -⟩ := List.cons.inj (begins.symm.trans first)
    rw [mark?_injective written otherWritten, List.head?_cons]
  · exact absurd (begins.symm.trans first) (mark_ne_name nonempty characters written _ _)

/-- A text that has a mark behind its blanks is written with that mark and the tokens behind it. -/
theorem of_mark_iff {token : Token} {c : Char} (written : token.mark? = some c) {rest : List Char}
    (begins : Text.skipBlanks text = c :: rest) :
    Lexes text tokens ↔ ∃ later, tokens = token :: later ∧ Lexes rest later := by
  constructor
  · intro lexes
    obtain ⟨later, rfl⟩ := List.head?_eq_some_iff.mp (lexes.head?_of_mark written begins)
    obtain ⟨others, same, lexesRest⟩ := (mark_iff token written).mp lexes
    obtain ⟨-, rfl⟩ := List.cons.inj (begins.symm.trans same)
    exact ⟨later, rfl, lexesRest⟩
  · rintro ⟨later, rfl, lexes⟩
    exact (mark_iff token written).mpr ⟨rest, begins, lexes⟩

/-- A text that has a name behind its blanks is written with that name and the tokens behind it. -/
theorem of_name_iff {name : String} {after : List Char}
    (begins : Text.skipBlanks text = name.toList ++ after) (nonempty : name.toList ≠ [])
    (characters : ∀ c ∈ name.toList, isNameCharacter c = true) (ends : NameEnds after) :
    Lexes text tokens ↔ ∃ later, tokens = .name name :: later ∧ Lexes after later := by
  constructor
  · intro lexes
    rcases lexes.start with ⟨nothing, -⟩ | ⟨_, c, _, _, first, written, -, -⟩ |
      ⟨other, otherAfter, later, first, _, otherCharacters, otherEnds, rfl, lexesRest⟩
    · simp [begins, nonempty] at nothing
    · exact absurd (first.symm.trans begins) (mark_ne_name nonempty characters written _ _)
    · obtain ⟨rfl, rfl⟩ := name_unique (begins.symm.trans first) characters ends otherCharacters
        otherEnds
      exact ⟨later, rfl, lexesRest⟩
  · rintro ⟨later, rfl, lexes⟩
    exact name_iff.mpr ⟨after, begins, nonempty, characters, ends, lexes⟩

/-- What is written behind a text is written with the tokens behind those of the text, unless a name
goes on from one into the other. -/
theorem append_iff {before after : List Char} (lexes : Lexes before tokens)
    (apart : Apart before after) {all : List Token} :
    Lexes (before ++ after) all ↔ ∃ later, all = tokens ++ later ∧ Lexes after later := by
  induction lexes generalizing all with
  | done => simp
  | @blank c _ _ blank _ inductionHypothesis =>
    rw [List.cons_append, ← skipBlanks_iff, Text.skipBlanks_cons_of_blank blank, skipBlanks_iff]
    exact inductionHypothesis (apart.of_append_left [c])
  | @mark c _ text _ written _ inductionHypothesis =>
    have begins := Text.skipBlanks_cons_of_not_blank (mark_facts written).1 (text ++ after)
    rw [List.cons_append, of_mark_iff written begins]
    simp only [inductionHypothesis (apart.of_append_left [c])]
    constructor
    · rintro ⟨_, rfl, later, rfl, lexesAfter⟩
      exact ⟨later, rfl, lexesAfter⟩
    · rintro ⟨later, rfl, lexesAfter⟩
      exact ⟨_, rfl, later, rfl, lexesAfter⟩
  | @name name text _ nonempty characters ends _ inductionHypothesis =>
    have begins := skipBlanks_name nonempty characters (text ++ after)
    rw [List.append_assoc, of_name_iff begins nonempty characters
      (apart.nameEnds nonempty characters ends)]
    simp only [inductionHypothesis (apart.of_append_left name.toList)]
    constructor
    · rintro ⟨_, rfl, later, rfl, lexesAfter⟩
      exact ⟨later, rfl, lexesAfter⟩
    · rintro ⟨later, rfl, lexesAfter⟩
      exact ⟨_, rfl, later, rfl, lexesAfter⟩

end Lexes

/-! ## Expressions -/

/-- A type as it is written: a name, and the arguments that follow it. -/
inductive Expression
  | mk (name : String) (arguments : List Expression)

mutual

/-- The tokens of an expression: `type := name ('<' type (',' type)* '>')?`. -/
inductive Derives : List Token → Expression → Prop
  | plain (name : String) : Derives [.name name] (.mk name [])
  | applied (name : String) {tokens : List Token} {arguments : List Expression}
      (inside : DerivesAll tokens arguments) :
      Derives (.name name :: .opening :: (tokens ++ [.closing])) (.mk name arguments)

/-- The tokens of expressions between commas: `type (',' type)*`. -/
inductive DerivesAll : List Token → List Expression → Prop
  | one {tokens : List Token} {expression : Expression} (first : Derives tokens expression) :
      DerivesAll tokens [expression]
  | more {tokens rest : List Token} {expression : Expression} {others : List Expression}
      (first : Derives tokens expression) (later : DerivesAll rest others) :
      DerivesAll (tokens ++ .comma :: rest) (expression :: others)

end

/-- The built-in names and their types. -/
inductive BuiltIn : String → Ty → Prop
  | primitive (primitive : Primitive) : BuiltIn primitive.name (.primitive primitive)
  | object : BuiltIn "object" .object

/-- What a name stands for when it is applied to types. -/
inductive StandsFor (registry : Registry) : String → List Ty → Ty → Prop
  | builtIn {name : String} {type : Ty} (known : BuiltIn name type) :
      StandsFor registry name [] type
  | openType {name : String} {id : DefinitionId} (own : ∀ type, ¬ BuiltIn name type)
      (latest : registry.Latest name id) : StandsFor registry name [] (registry.openType id)
  | applied {name : String} {id : DefinitionId} {types : List Ty}
      (own : ∀ type, ¬ BuiltIn name type) (latest : registry.Latest name id) (given : types ≠ [])
      (count : types.length = (registry.parameters id).length) :
      StandsFor registry name types (.named id types)

mutual

/-- What an expression denotes. -/
inductive Denotes (registry : Registry) : Expression → Ty → Prop
  | intro {name : String} {arguments : List Expression} {types : List Ty} {type : Ty}
      (inside : DenotesAll registry arguments types) (stands : StandsFor registry name types type) :
      Denotes registry (.mk name arguments) type

/-- What several expressions denote, one by one. -/
inductive DenotesAll (registry : Registry) : List Expression → List Ty → Prop
  | nil : DenotesAll registry [] []
  | cons {expression : Expression} {others : List Expression} {type : Ty} {rest : List Ty}
      (first : Denotes registry expression type) (later : DenotesAll registry others rest) :
      DenotesAll registry (expression :: others) (type :: rest)

end

end TypeName

end LateBinding
